import TensorExchange.Proofs.Buffer.Read
import TensorExchange.Proofs.Exchange.Reimport
import TensorExchange.Proofs.Ownership.Session
import TensorExchange.Proofs.Soundness.Live
import TensorExchange.Proofs.Soundness.Moves

/-!
Round trips: importing undoes exporting.

A buffer that is exported and then adopted like a tensor of another runtime goes through a
record of signed words, a pointer and the checks of an import.  It comes back over the bytes
that its layout reaches, with another storage and another offset.

Main statement (`Session.returned_run`), for a live buffer of any session over memory of this
library that is exported, in any way, and not refused when it comes back:

* if its rank is below 2³², the capsule says the shape, the strides, the type and the device
  of the buffer, the format and the flag it was exported with; the buffer that it gives has the
  same first elements, however many are read, over no more bytes than they reach; and another
  round trip changes nothing but the number of the storage (`Buffer.Returned`);
* whatever its rank is, as many axes come back as a word of 32 bits has of it, so the shape
  comes back exactly if the rank is below 2³².

The bound on the rank is not a convenience of the proof.  The rank is written with a cast, and
an import that reads 0 axes where 2³² were written has nothing to refuse.  A single byte can be
reshaped to any number of axes of extent one; `Session.shrunk_widened` is that session, and the
byte comes back as a scalar.  Which exports are refused is in `Proofs/Portable`.

That round trips can be repeated is not another run of the same argument.  The description of
what came back is the first one again (`describes_again`): its bytes begin at the lowest
element, so the distance to it is 0 the second time.

`Heap.IsWhole` is all that is used of the memory: the storage is one block, from its start to
its end.  `Heap.Native.isWhole` has it for storages that were not imported.
-/

namespace TensorExchange

/-! ## Memory of this library -/

/-- A storage over memory that came from a backend or was handed in by value, or over none.  Views
and reshapes of a buffer share its storage, and so does the buffer that a capsule gives back. -/
def Heap.Native (h : Heap) (s : Storage) : Prop :=
  ∃ x, h.holdings.get? s.id = some x ∧ ∀ t, x.owner ≠ .imported t

/-- A storage without bytes, or one that is a whole block. -/
def Heap.IsWhole (h : Heap) (s : Storage) : Prop :=
  s.size ≠ 0 → ∃ block bytes, s.base = .within block 0 ∧ h.blocks.get? block = some bytes ∧
    bytes.size = s.size ∧ s.size ≤ maxSize

theorem Heap.Native.isWhole {h : Heap} {held : Stakes} {n : Nat} {s : Storage}
    (native : h.Native s) (balanced : h.Balanced held n) (backs : h.Backs s) : h.IsWhole s := by
  obtain ⟨x, found, notImported⟩ := native
  have hbacks := backs.backs x found
  intro hne
  cases howner : x.owner with
  | backend a =>
    rw [howner] at hbacks
    obtain ⟨hbase, hsize, _, _, hsmall, _⟩ := hbacks
    obtain ⟨bytes, hbytes, hlength⟩ :=
      balanced.memory.stored a (Heap.stakes_of_owner found (by simp [howner, Owner.stakes]))
    exact ⟨a.block, bytes, hbase, hbytes, hlength.trans hsize.symm, hsmall⟩
  | adopted block =>
    rw [howner] at hbacks
    obtain ⟨hbase, hsmall, hblock⟩ := hbacks
    obtain ⟨bytes, hbytes⟩ := Option.isSome_iff_exists.mp (balanced.memory.adopted block
      (Heap.stakes_of_owner found (by simp [howner, Owner.stakes])))
    exact ⟨block, bytes, hbase, hbytes, hblock.2 bytes hbytes, hsmall⟩
  | imported t => exact absurd howner (notImported t)
  | nobody =>
    rw [howner] at hbacks
    exact absurd hbacks hne

theorem Heap.storageBytes_congr {h h' : Heap} (same : h'.blocks = h.blocks) (s : Storage) :
    h'.storageBytes s = h.storageBytes s := by
  simp only [storageBytes, read?, same]

theorem Heap.read?_within {h : Heap} {block place length : Nat} {bytes : Array UInt8}
    (found : h.blocks.get? block = some bytes) (small : bytes.size ≤ maxSize)
    (room : place + length ≤ bytes.size) :
    h.read? (.within block (Int64.ofInt place)) length =
      some (bytes.extract place (place + length)) := by
  unfold maxSize at small
  have hplace : (Int64.ofInt place).toInt = place :=
    Int64.toInt_ofInt_of_le (by omega) (by omega)
  have hclamp : (Int64.ofInt place).toNatClampNeg = place := by
    rw [← Int64.toNat_toInt, hplace, Int.toNat_natCast]
  have hnonneg : (0 : Int64) ≤ Int64.ofInt place := by
    rw [Int64.le_iff_toInt_le, hplace, Int64.toInt_zero]
    omega
  simp only [read?, found, Option.bind_eq_bind, Option.bind_some, hclamp]
  exact if_pos ⟨hnonneg, room⟩

theorem Heap.storageBytes_within {h : Heap} {block : Nat} {bytes : Array UInt8} {s : Storage}
    (place : Nat) (found : h.blocks.get? block = some bytes) (small : bytes.size ≤ maxSize)
    (base : s.base = .within block (Int64.ofInt place)) (room : place + s.size ≤ bytes.size) :
    h.storageBytes s = .ok (bytes.extract place (place + s.size)) := by
  unfold storageBytes
  split
  case isTrue hzero => simp [hzero]
  case isFalse => rw [base, read?_within found small room]

/-! ## Coming back -/

/-- The buffer that is made of a description. -/
def Described.buffer (d : Described) (id : Nat) : Buffer :=
  ⟨⟨id, d.base, d.size, d.alignment, d.device, d.readOnly, "foreign"⟩, d.layout, d.type, d.readOnly⟩

namespace Buffer

/-- The capsule in which a buffer comes back when the tensor that it is exported as is adopted. -/
def reimport (h : Heap) (b : Buffer) (o : ExportOptions) :
    Except (Failure Error Heap) (Heap × Capsule) := do
  let (_, t) ← (Capsule.wrapWith b o).takeTensor.mapError fun f => ⟨f.cause, h⟩
  Capsule.importTensor h t

/-- A round trip: a buffer is exported, adopted and consumed. -/
def roundTrip (h : Heap) (b : Buffer) (o : ExportOptions) :
    Except (Failure Error Heap) (Heap × Buffer) := do
  let (h, c) ← b.reimport h o
  let (h, _, b) ← (c.consume h).mapError fun f => ⟨f.cause, f.state.1⟩
  return (h, b)

/-- Several round trips, one after the other. -/
def roundTrips (h : Heap) (b : Buffer) (o : ExportOptions) :
    Nat → Except (Failure Error Heap) (Heap × Buffer)
  | 0 => .ok (h, b)
  | n + 1 => do
    let (h, b) ← b.roundTrip h o
    roundTrips h b o n

/-- The tensor that a buffer is exported as. -/
def exported (b : Buffer) (o : ExportOptions) : ManagedTensor := .ofBuffer b o.format o.readOnly

variable {h h' : Heap} {b : Buffer} {o : ExportOptions} {d : Described}

/-- A buffer that was wrapped always leaves, and coming back leaves the heap. -/
theorem reimport_eq (h : Heap) (b : Buffer) (o : ExportOptions) :
    b.reimport h o = unchanged h (Capsule.ofTensor (b.exported o)) :=
  Capsule.importTensor_eq h (b.exported o)

theorem reimport_eq_ok {c : Capsule} (ok : b.reimport h o = .ok (h', c)) :
    h' = h ∧ Capsule.ofTensor (b.exported o) = .ok c :=
  unchanged_eq_ok_iff.mp (reimport_eq h b o ▸ ok)

theorem reimport_of_ofTensor {c : Capsule} (ok : Capsule.ofTensor (b.exported o) = .ok c)
    (h : Heap) : b.reimport h o = .ok (h, c) := by
  rw [reimport_eq, ok]
  rfl

theorem consume_of_ofTensor {t : ManagedTensor} {c : Capsule} (ok : Capsule.ofTensor t = .ok c)
    (h : Heap) :
    ∃ d, Described.ofTensor t = .ok d ∧
      c.info = ⟨d.layout, d.type, d.device, t.format, d.readOnly⟩ ∧
      c.consume h = .ok ((h.adopt t d).1, c.spent, d.buffer h.holdings.next) := by
  obtain ⟨d, hd, rfl⟩ := Capsule.ofTensor_eq_ok ok
  refine ⟨d, hd, rfl, ?_⟩
  have hdeliver : Capsule.deliver ⟨⟨d.layout, d.type, d.device, t.format, d.readOnly⟩, d.base,
      .unconsumed, .foreign d (some t)⟩ (h.adopt t d).2 = d.buffer h.holdings.next := by
    obtain ⟨layout, type, device, base, size, alignment, readOnly⟩ := d
    cases readOnly <;> rfl
  rw [← hdeliver]
  rfl

theorem roundTrip_of_describes (hd : d.Describes (b.exported o)) (h : Heap) :
    b.roundTrip h o =
      .ok ((h.adopt (b.exported o) d).1, d.buffer h.holdings.next) := by
  have hok : Capsule.ofTensor (b.exported o) = .ok _ :=
    bind_eq_ok.mpr ⟨d, hd.ofTensor_eq_ok, rfl⟩
  obtain ⟨d', hd', _, hconsume⟩ := consume_of_ofTensor hok h
  obtain rfl := Except.ok.inj (hd'.symm.trans hd.ofTensor_eq_ok)
  refine bind_eq_ok.mpr ⟨_, reimport_of_ofTensor hok h, ?_⟩
  exact bind_eq_ok.mpr ⟨_, mapError_eq_ok.mpr hconsume, rfl⟩

/-- The lowest byte of a buffer that came back is the first of its storage. -/
theorem covers_again {r : TensorRecord} (c : Described.Covers r d)
    (small : d.layout.byteOffset.toNat ≤ maxSize) (id : Nat) :
    Described.Covers (d.buffer id).toRecord d := by
  refine ⟨c.placed, small, c.low, ?_, c.placed, c.size, c.room, c.first⟩
  show d.base = (d.base.shift d.layout.byteOffset.toNat).shift (lowest d.type.size d.layout.axes)
  rw [Pointer.shift_shift, c.first, neg_add_cancel, Pointer.shift_zero]

theorem describes_again (hd : d.Describes (b.exported o)) (hr : Described.Returns b d)
    (fits : b.layout.Fits b.type.size b.storage.size) (id : Nat) :
    d.Describes ((d.buffer id).exported o) := by
  have hrank : ((d.buffer id).exported o).record.rank = (b.exported o).record.rank :=
    congrArg (fun axes : List Axis => Int32.ofNat axes.length) hr.axes
  have hshape : ((d.buffer id).exported o).record.shape = (b.exported o).record.shape :=
    congrArg (fun axes : List Axis => some ((axes.map Axis.extent).map UInt64.toInt64)) hr.axes
  have hstrides : ((d.buffer id).exported o).record.strides = (b.exported o).record.strides :=
    congrArg (fun axes : List Axis => some (axes.map Axis.stride)) hr.axes
  have hdevice : ((d.buffer id).exported o).record.device = (b.exported o).record.device :=
    congrArg Device.pair hr.device
  constructor
  case envelope => exact hd.envelope
  case type => exact Described.readType_triple d.type
  case device => rw [hdevice]; exact hd.device
  case shape =>
    rw [← hd.shape]
    simp only [Described.readShape, hrank, hshape]
  case strides =>
    rw [← hd.strides]
    simp only [Described.readStrides, hrank, hstrides]
  case checked => exact hd.checked
  case readOnly => exact hd.readOnly
  case alignment => exact hd.alignment
  case empty => exact hd.empty
  case covers =>
    intro hne
    have c := hd.covers hne
    have hcount : b.count ≠ 0 := by
      simpa only [Layout.count, Buffer.count, hr.axes] using hne
    have hoffset : b.layout.byteOffset.toNat ≤ maxSize := c.offset
    have hfirst := hr.first hcount
    have hstart := (fits hcount).1
    exact covers_again c (by omega) id

theorem sameForm_of_returns (hr : Described.Returns b d) (id : Nat) : b.SameForm (d.buffer id) :=
  ⟨hr.axes, hr.type, hr.device⟩

/-- The memory of a buffer that came back is the part that the exported one reaches. -/
theorem Sound.relocates_of_returns (k : b.Sound h) (whole : h.IsWhole b.storage)
    (hr : Described.Returns b d) (hcount : b.count ≠ 0) (id : Nat) :
    ∃ memory part, h.storageBytes b.storage = .ok memory ∧
      h.storageBytes (d.buffer id).storage = .ok part ∧
        b.Relocates memory (d.buffer id) part := by
  obtain ⟨hstart, hstop, _⟩ := k.fits hcount
  have hlength : b.layout.start b.type.size < b.layout.stop b.type.size := by
    have := lowest_nonpos b.type.size b.layout.axes
    have := highest_nonneg b.type.size b.layout.axes
    have := b.type.size_pos
    unfold Layout.start Layout.stop
    omega
  obtain ⟨block, bytes, hbase, hbytes, hsize, hsmall⟩ := whole (by omega)
  have hmemory : h.storageBytes b.storage = .ok bytes := by
    have := Heap.storageBytes_within 0 hbytes (hsize ▸ hsmall) hbase (by omega)
    rwa [Nat.zero_add, ← hsize, Array.extract_size] at this
  have hbase' : d.base = .within block (Int64.ofInt (b.layout.start b.type.size).toNat) := by
    rw [hr.base hcount, hbase, Int.toNat_of_nonneg hstart, Pointer.shift, Int64.zero_add]
  have hsize' : (b.layout.start b.type.size).toNat + (d.buffer id).storage.size =
      (b.layout.stop b.type.size).toNat := by
    have := hr.size hcount
    show (b.layout.start b.type.size).toNat + d.size = (b.layout.stop b.type.size).toNat
    omega
  have hpart := Heap.storageBytes_within (s := (d.buffer id).storage) _ hbytes (hsize ▸ hsmall)
    hbase' (by omega)
  rw [hsize'] at hpart
  exact ⟨bytes, _, hmemory, hpart, ⟨sameForm_of_returns hr id, hstart, by omega,
    hsize ▸ hsmall, hr.first hcount, rfl⟩⟩

theorem Sound.headBytes_of_returns (k : b.Sound h) (whole : h.IsWhole b.storage)
    (hr : Described.Returns b d) (machine : h'.machine = h.machine)
    (same : h'.blocks = h.blocks) (id n : Nat) :
    (d.buffer id).headBytes h' n = b.headBytes h n := by
  by_cases hcount : b.count = 0
  · exact (sameForm_of_returns hr id).headBytes_of_empty hcount h h' n
  · obtain ⟨memory, part, hmemory, hpart, relocates⟩ := k.relocates_of_returns whole hr hcount id
    rw [← Heap.storageBytes_congr same] at hpart
    exact relocates.headBytes k.exact machine hmemory hpart n

/-- A buffer that is described like before when it comes back makes any number of round trips; only
the number of its storage changes. -/
theorem roundTrips_of_describes (again : ∀ id, d.Describes ((d.buffer id).exported o)) (n : Nat) :
    ∀ (h : Heap) (id : Nat), ∃ h' id', (d.buffer id).roundTrips h o n = .ok (h', d.buffer id') ∧
      h'.machine = h.machine ∧ h'.blocks = h.blocks := by
  induction n with
  | zero => exact fun h id => ⟨h, id, rfl, rfl, rfl⟩
  | succ n ih =>
    intro h id
    obtain ⟨h', id', htrips, same⟩ :=
      ih (h.adopt ((d.buffer id).exported o) d).1 h.holdings.next
    exact ⟨h', id', bind_eq_ok.mpr ⟨_, roundTrip_of_describes (again id) h, htrips⟩, same⟩

/-! ## What comes back -/

/-- A buffer with the same elements, over no more bytes than they reach. -/
structure Restored (h : Heap) (b : Buffer) (o : ExportOptions) (h' : Heap) (b' : Buffer) :
    Prop where
  contents : ∀ n, b'.headBytes h' n = b.headBytes h n
  /-- The storage is as long as the span of the layout, and empty if that is. -/
  size : ∃ span, b.layout.span b.type.size = .ok span ∧
    (b'.storage.size : Int) = span.elim 0 Span.length
  /-- More round trips change neither the layout nor the memory. -/
  again : ∀ n, ∃ h'' b'', b'.roundTrips h' o n = .ok (h'', b'') ∧ b''.layout = b'.layout ∧
    b''.type = b'.type ∧ b''.device = b'.device ∧ b''.storage.size = b'.storage.size ∧
      h''.storageBytes b''.storage = h'.storageBytes b'.storage ∧
        ∀ k, b''.headBytes h'' k = b'.headBytes h' k

/-- What a capsule says in which a buffer came back, and the buffer that it gives. -/
structure Returned (h : Heap) (b : Buffer) (o : ExportOptions) (c : Capsule) : Prop where
  shape : c.info.layout.shape = b.layout.shape
  strides : c.info.layout.strides = b.layout.strides
  type : c.info.type = b.type
  device : c.info.device = b.device
  format : c.info.format = o.format
  readOnly : c.info.readOnly = (o.readOnly && o.format == .versioned)
  consumed : ∃ h' spent b', c.consume h = .ok (h', spent, b') ∧ b.Restored h o h' b'

theorem isReadOnly_ofFormat (format : CapsuleFormat) (readOnly : Bool) :
    (Envelope.ofFormat format readOnly).isReadOnly = (readOnly && format == .versioned) := by
  cases format <;> cases readOnly <;> rfl

theorem format_ofFormat (format : CapsuleFormat) (readOnly : Bool) :
    (Envelope.ofFormat format readOnly).format = format := by
  cases format <;> rfl

/-- The storage of a buffer that came back is as long as the span of the one that was exported. -/
theorem Sound.size_of_returns (k : b.Sound h) (hr : Described.Returns b d) (id : Nat) :
    ∃ span, b.layout.span b.type.size = .ok span ∧
      ((d.buffer id).storage.size : Int) = span.elim 0 Span.length := by
  by_cases hcount : b.count = 0
  · refine ⟨none, Layout.span_eq_none_iff.mpr hcount, ?_⟩
    exact congrArg Int.ofNat (hr.empty hcount).2.2
  · obtain ⟨hstart, _, hstop⟩ := k.fits hcount
    have hoff := b.layout.byteOffset.toNat_lt
    have hlow : -2 ^ 127 ≤ lowest b.type.size b.layout.axes := by
      unfold Layout.start at hstart
      omega
    exact ⟨_, (Layout.span_eq_some_iff b.type.size_pos).mpr ⟨hcount, rfl, hlow, hstop⟩,
      hr.size hcount⟩

/-- What a sound buffer over memory of this library comes back as, if its rank can be written. -/
theorem Sound.returned (k : b.Sound h) (whole : h.IsWhole b.storage)
    (hrank : b.layout.rank < 2 ^ 32) {c : Capsule} (ok : b.reimport h o = .ok (h', c)) :
    b.Returned h o c := by
  obtain ⟨rfl, found⟩ := reimport_eq_ok ok
  obtain ⟨d, hd, hinfo, hconsume⟩ := consume_of_ofTensor found h'
  have hdescribes : d.Describes (b.exported o) := .of_ofTensor hd
  have hr := hdescribes.returns rfl hrank
  have again := describes_again hdescribes hr k.fits
  refine ⟨?_, ?_, ?_, ?_, ?_, ?_, _, _, _, hconsume, ?_⟩
  · rw [hinfo]
    exact congrArg (List.map Axis.extent) hr.axes
  · rw [hinfo]
    exact congrArg (List.map Axis.stride) hr.axes
  · rw [hinfo]
    exact hr.type
  · rw [hinfo]
    exact hr.device
  · rw [hinfo]
    exact format_ofFormat o.format o.readOnly
  · rw [hinfo]
    exact hdescribes.readOnly.trans (isReadOnly_ofFormat o.format o.readOnly)
  · refine ⟨k.headBytes_of_returns whole hr rfl rfl _, k.size_of_returns hr _, fun n => ?_⟩
    obtain ⟨h'', id', htrips, machine, blocks⟩ :=
      roundTrips_of_describes again n (h'.adopt (b.exported o) d).1 h'.holdings.next
    refine ⟨h'', d.buffer id', htrips, rfl, rfl, rfl, rfl, ?_, fun m => ?_⟩
    · exact Heap.storageBytes_congr blocks _
    · exact (k.headBytes_of_returns whole hr machine blocks _ m).trans
        (k.headBytes_of_returns whole hr rfl rfl _ m).symm

/-- What comes back of a buffer: all of it if its rank can be written, and else fewer axes. -/
structure ComesBack (h : Heap) (b : Buffer) (o : ExportOptions) (c : Capsule) : Prop where
  whole : b.layout.rank < 2 ^ 32 → b.Returned h o c
  /-- As many axes come back as a word of 32 bits has of the rank. -/
  axes : c.info.layout.axes = b.layout.axes.take (b.layout.rank % 2 ^ 32)
  shape : c.info.layout.shape = b.layout.shape ↔ b.layout.rank < 2 ^ 32

theorem Sound.comesBack (k : b.Sound h) (whole : h.IsWhole b.storage) {c : Capsule}
    (ok : b.reimport h o = .ok (h', c)) : b.ComesBack h o c := by
  have axes : c.info.layout.axes = b.layout.axes.take (b.layout.rank % 2 ^ 32) := by
    obtain ⟨d, hd, rfl⟩ := Capsule.ofTensor_eq_ok (reimport_eq_ok ok).2
    exact (Described.Describes.of_ofTensor hd).axes_eq_take rfl
  refine ⟨fun hrank => k.returned whole hrank ok, axes, fun same => ?_, fun hrank => ?_⟩
  · have hlength := congrArg List.length same
    simp only [Layout.shape, axes, List.length_map, List.length_take] at hlength
    unfold Layout.rank at hlength ⊢
    omega
  · exact (k.returned whole hrank ok).shape

end Buffer

/-- Whatever the commands of a session are: a live buffer over memory of this library that is
exported comes back as it was if it is not refused, and if its rank can be written.  Nothing asks
whether it can: with 2³² axes or more it is not refused for them, and comes back with fewer. -/
theorem Session.returned_run (m : Machine) (env : Config.Environment) (cs : List Command)
    {b : Buffer} {o : ExportOptions} {h' : Heap} {c : Capsule}
    (live : ((start m env).run cs).1.world.Live b)
    (native : ((start m env).run cs).1.heap.Native b.storage)
    (ok : b.reimport ((start m env).run cs).1.heap o = .ok (h', c)) :
    b.ComesBack ((start m env).run cs).1.heap o c := by
  have sound := (sound_run m env cs).live live
  have balanced := (moves_of_run (start m env) cs).balanced (Heap.balanced_empty m)
  exact sound.comesBack (native.isWhole balanced sound.backed) ok

/-! ### A view that runs backwards -/

/-- Six elements, and the last four of them with their rows turned around. -/
def turning : List Command :=
  [.buffers (.adopt "packed" .int16 #[0, 1, 2, 3, 4, 5, 6, 7, 8, 9, 10, 11]),
    .buffers (.view "packed" "turned" [2, 2] [-2, 1] 8)]

def turned : Buffer :=
  ⟨⟨0, .within 0 0, 12, some 2, .host, false, "adopted"⟩, ⟨[⟨2, -2⟩, ⟨2, 1⟩], 8⟩, .int16, false⟩

/-- It comes back over eight bytes, of which its first row is the second half. -/
def turnedBack : Described :=
  ⟨⟨[⟨2, -2⟩, ⟨2, 1⟩], 4⟩, .int16, .host, .within 0 4, 8, none, true⟩

theorem Session.returned_turned :
    (after turning).world.Live turned ∧
      (after turning).heap.Native turned.storage ∧
        ∃ h' c, turned.reimport (after turning).heap
              ⟨.versioned, true⟩ = .ok (h', c) ∧
            c.contents = .foreign turnedBack (some (turned.exported ⟨.versioned, true⟩)) ∧
              turned.layout.rank < 2 ^ 32 ∧
                turned.ComesBack (after turning).heap
                  ⟨.versioned, true⟩ c := by
  have hfound : (after turning).buffers.get? "turned" =
      some turned := by
    decide +kernel
  have live : (after turning).world.Live turned :=
    .inl ⟨.buffer turned, mem_things_of_buffer hfound, rfl⟩
  have native : (after turning).heap.Native turned.storage :=
    ⟨⟨.adopted 0, 2⟩, by decide +kernel, fun t h => by cases h⟩
  have ok := Buffer.reimport_of_ofTensor (b := turned) (o := ⟨.versioned, true⟩)
    (c := ⟨⟨turnedBack.layout, .int16, .host, .versioned, true⟩, turnedBack.base, .unconsumed,
        .foreign turnedBack (some (turned.exported ⟨.versioned, true⟩))⟩)
    (by decide +kernel) (after turning).heap
  exact ⟨live, native, _, _, ok, rfl, by decide, returned_run _ _ turning live native ok⟩

/-! ### A rank that no word of 32 bits holds -/

theorem countFrom?_ones {k : Nat} (hk : k < wordBound) (n : Nat) :
    countFrom? k (List.replicate n 1) = some k := by
  induction n with
  | zero => rfl
  | succ n ih =>
    have hone : k * (1 : UInt64).toNat = k := Nat.mul_one k
    rw [List.replicate_succ, countFrom?, hone, if_pos hk, ih]

theorem Layout.exists_reshaped_ones (n : Nat) :
    ∃ l, (vector 1).reshaped (List.replicate n 1) = .ok l := by
  have hcount : count? (List.replicate n 1) = some 1 := countFrom?_ones (by decide) n
  have hcheck : checkShape (List.replicate n 1) = .ok () := by
    rw [checkShape, hcount]
    rfl
  obtain ⟨packed, hpacked⟩ : ∃ l, contiguous (List.replicate n 1) = .ok l :=
    ⟨_, contiguous_eq_ok_iff.mpr ⟨hcheck, rfl⟩⟩
  refine ⟨{ packed with byteOffset := 0 }, ?_⟩
  rw [reshaped, hcount]
  exact guard_eq_ok.mpr ⟨by decide, bind_eq_ok.mpr ⟨_, hpacked, rfl⟩⟩

/-- A session with a single byte. -/
def Session.withByte : Session :=
  ((start .boundless fun _ => none).run [.buffers (.adopt "byte" .uint8 #[7])]).1

def oneByte : Buffer :=
  ⟨⟨0, .within 0 0, 1, some 1, .host, false, "adopted"⟩, .vector 1, .uint8, false⟩

/-- The byte, and a view of it that has any number of axes. -/
def widening (n : Nat) : List Command :=
  [.buffers (.adopt "byte" .uint8 #[7]), .buffers (.reshape "byte" "wide" (List.replicate n 1))]

theorem Session.run_widening {n : Nat} {l : Layout}
    (ok : (Layout.vector 1).reshaped (List.replicate n 1) = .ok l) :
    (after (widening n)) =
      withByte.putBuffer (withByte.heap.retain oneByte.storage) "wide" (oneByte.withLayout l) := by
  have found : withByte.buffers.get? "byte" = some oneByte := by decide +kernel
  have hlayout : oneByte.reshapeLayout (List.replicate n 1) = .ok l := by
    rw [Buffer.reshapeLayout]
    exact guard_eq_ok.mpr ⟨by decide, orShapeError_eq_ok.mpr ok⟩
  have hreshape : oneByte.reshape withByte.heap (List.replicate n 1) =
      .ok (withByte.heap.retain oneByte.storage, oneByte.withLayout l) :=
    bind_eq_ok.mpr ⟨l, leaving_eq_ok.mpr hlayout, rfl⟩
  have hcommand : withByte.reshapeBuffer "byte" "wide" (List.replicate n 1) = .ok
      (withByte.putBuffer (withByte.heap.retain oneByte.storage) "wide" (oneByte.withLayout l),
        .done) :=
    bind_eq_ok.mpr ⟨oneByte, leaving_eq_ok.mpr (need_eq_ok.mpr found),
      bind_eq_ok.mpr ⟨_, mapError_eq_ok.mpr hreshape, rfl⟩⟩
  change (settle (withByte.reshapeBuffer "byte" "wide" (List.replicate n 1))).1 = _
  rw [hcommand]
  rfl

/-- When a rank is written as zero, the byte comes back as a single element without axes. -/
theorem Described.describes_scalar {l : Layout} (hrank : l.rank % 2 ^ 32 = 0)
    (hfirst : l.byteOffset = 0) :
    Described.Describes ((oneByte.withLayout l).exported .default)
      ⟨.scalar, .uint8, .host, .within 0 0, 1, none, false⟩ := by
  have hzero : ((oneByte.withLayout l).exported .default).record.rank = 0 := by
    refine Int32.toInt_inj.mp ?_
    show (Int32.ofNat l.rank).toInt = 0
    rw [Int32.toInt_ofNat', Int.bmod_def]
    simp only [Int32.size]
    omega
  have hoffset : ((oneByte.withLayout l).exported .default).record.byteOffset = 0 := hfirst
  constructor
  case shape =>
    unfold readShape
    rw [hzero]
    rfl
  case strides =>
    change (if _ = 0 then Except.ok [] else _) = _
    exact if_pos hzero
  case covers =>
    intro _
    constructor
    case offset => rw [hoffset]; decide
    case base => rw [hoffset]; rfl
    case data => rfl
    case low | placed | size | room | first => decide
  case envelope | type | device | checked | readOnly | alignment => rfl
  case empty => exact fun h => absurd h (by decide)

/-- If the word has nothing of the rank, the byte with that many axes comes back without any. -/
theorem Session.exists_shrunk {n : Nat} (hn : n ≠ 0) (hword : n % 2 ^ 32 = 0) :
    ∃ b, (after (widening n)).world.Live b ∧
      (after (widening n)).heap.Native b.storage ∧
        b.layout.shape = List.replicate n 1 ∧
          ∃ h c, b.reimport (after (widening n)).heap .default =
              .ok (h, c) ∧
            c.info.layout.shape = [] ∧ c.info.layout.shape ≠ b.layout.shape := by
  obtain ⟨l, ok⟩ := Layout.exists_reshaped_ones n
  have hshape := Layout.shape_of_reshaped ok
  have hrank : l.rank = n := by
    rw [Layout.rank, ← List.length_map Axis.extent, show l.axes.map Axis.extent = _ from hshape,
      List.length_replicate]
  have fresh : withByte.buffers.get? "wide" = none := by decide +kernel
  have named : (after (widening n)).buffers.get? "wide" =
      some (oneByte.withLayout l) := by
    rw [run_widening ok]
    exact (Slots.get?_put ..).trans (if_pos rfl)
  have heap : (after (widening n)).heap =
      withByte.heap.retain oneByte.storage := by
    rw [run_widening ok]
    simp only [putBuffer, fresh]
  have describes := Described.describes_scalar (l := l) (hrank ▸ hword)
    (Layout.reshaped_eq_ok ok).2.1
  have back := Buffer.reimport_of_ofTensor
    (bind_eq_ok.mpr ⟨_, describes.ofTensor_eq_ok, rfl⟩ : Capsule.ofTensor _ = .ok _)
    (after (widening n)).heap
  refine ⟨oneByte.withLayout l, live_of_named named, ?_, hshape, _, _, back, rfl, fun same => ?_⟩
  · have held : (withByte.heap.retain oneByte.storage).holdings.get? 0 = some ⟨.adopted 0, 2⟩ := by
      decide +kernel
    rw [heap]
    exact ⟨_, held, fun t h => by cases h⟩
  · have hnone : [] = List.replicate n (1 : UInt64) := same.trans hshape
    exact hn (List.replicate_eq_nil_iff 1 |>.mp hnone.symm)

/-- A live buffer with 2³² axes that is exported is not refused, and comes back without any. -/
theorem Session.shrunk_widened :
    ∃ b, (after (widening 4294967296)).world.Live b ∧
      (after (widening 4294967296)).heap.Native b.storage ∧
        b.layout.shape = List.replicate 4294967296 1 ∧
          ∃ h c, b.reimport (after (widening 4294967296)).heap
              .default = .ok (h, c) ∧
            c.info.layout.shape = [] ∧ c.info.layout.shape ≠ b.layout.shape :=
  exists_shrunk (by decide) (by decide)

end TensorExchange
