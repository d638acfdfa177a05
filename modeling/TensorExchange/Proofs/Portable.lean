import TensorExchange.Proofs.Exchange.Stated
import TensorExchange.Proofs.RoundTrip
import TensorExchange.Proofs.Soundness.Rooted

/-!
Portable buffers: exports that are accepted when they come back.

The exchange format writes extents, the rank and the number of a device as signed words,
without asking whether they fit, and an import refuses those that came out negative.  So an
export may be refused by the library that made it.

Main statement (`Session.acceptable_run`), for a live buffer of any session, in either form
and with or without permission to write:

* it is accepted when it comes back if its numbers keep their values (`Buffer.Portable`), and
  the heap is as it was;
* it is refused if they do not, and that leaves the heap as it was, too;
* over memory of this library only the rank, the number of the device and, of a buffer
  without elements, the extents can be too large.

The second point is for ranks below 2³².  A larger rank is not refused for being too large:
it is written modulo the word, and what comes back has fewer axes (`Proofs/RoundTrip`).

For the first point the description is written down (`foundEmpty`, `foundElements`) and shown
to be the one that reading gives.  The checks of the reach follow from the bounds of the
buffer: its elements lie in a storage, the storage in memory, and memory ends before the
signed words do.

Both refusals exist: of a device with the number 2³¹ and of an extent of 2⁶³ in an empty shape
(`Session.refused_next_number`); with one less each is accepted
(`Session.acceptable_last_device`).
-/

namespace TensorExchange

/-- A buffer whose numbers keep their values in the exchange format.  The elements must lie at
addresses that can be computed from the byte offset. -/
structure Buffer.Portable (b : Buffer) : Prop where
  rank : b.layout.rank < 2 ^ 31
  device : b.device.index.toNat < 2 ^ 31
  extents : ∀ d ∈ b.layout.shape, d.toNat < 2 ^ 63
  offset : b.count ≠ 0 → b.layout.byteOffset.toNat ≤ maxSize
  low : b.count ≠ 0 → -2 ^ 63 ≤ lowest b.type.size b.layout.axes
  placed : b.count ≠ 0 → (b.storage.base.shift (b.layout.start b.type.size)).isNull = false

namespace Described

/-! ## Numbers that are read back -/

theorem readExtent_toInt64_iff {x : UInt64} :
    readExtent x.toInt64 = .ok x ↔ x.toNat < 2 ^ 63 := by
  rw [← toInt_toInt64_iff]
  constructor
  · exact toInt_of_readExtent
  · intro hsigned
    have hpos : ¬ x.toInt64 < 0 := by
      rw [Int64.lt_iff_toInt_lt, Int64.toInt_zero]
      omega
    rw [readExtent, if_neg hpos, UInt64.toUInt64_toInt64]

theorem mapM_readExtent_iff {shape : List UInt64} :
    (shape.map UInt64.toInt64).mapM readExtent = .ok shape ↔ ∀ d ∈ shape, d.toNat < 2 ^ 63 := by
  induction shape with
  | nil => exact ⟨fun _ => by simp, fun _ => rfl⟩
  | cons d ds ih =>
    simp only [List.map_cons, List.mapM_cons, bind_eq_ok, pure_eq_ok, List.forall_mem_cons]
    constructor
    · rintro ⟨x, hx, xs, hxs, heq⟩
      obtain ⟨rfl, rfl⟩ := List.cons.inj heq
      exact ⟨readExtent_toInt64_iff.mp hx, ih.mp hxs⟩
    · rintro ⟨hd, hds⟩
      exact ⟨d, readExtent_toInt64_iff.mpr hd, ds, ih.mpr hds, rfl⟩

theorem rank_nonneg_iff {n : Nat} (hn : n < 2 ^ 32) : ¬ Int32.ofNat n < 0 ↔ n < 2 ^ 31 := by
  rw [Int32.lt_iff_toInt_lt, Int32.toInt_ofNat', Int32.toInt_zero, Int.bmod_def]
  simp only [Int32.size]
  omega

theorem readShape_toRecord_iff {b : Buffer} (hrank : b.layout.rank < 2 ^ 32) :
    readShape b.toRecord = .ok b.layout.shape ↔
      b.layout.rank < 2 ^ 31 ∧ ∀ d ∈ b.layout.shape, d.toNat < 2 ^ 63 := by
  have hsign : ¬ b.toRecord.rank < 0 ↔ b.layout.rank < 2 ^ 31 := rank_nonneg_iff hrank
  by_cases hneg : b.toRecord.rank < 0
  · rw [readShape, if_pos hneg]
    constructor
    · intro h
      cases h
    · exact fun h => absurd hneg (hsign.mpr h.1)
  have hlength : b.toRecord.rank.toNatClampNeg = b.layout.rank := toNat_rank hrank hneg
  have hshape : b.layout.shape.length = b.layout.rank := by simp [Layout.shape, Layout.rank]
  rw [readShape, if_neg hneg]
  by_cases hzero : b.toRecord.rank = 0
  · have hnone : b.layout.shape = [] := by
      refine List.eq_nil_of_length_eq_zero ?_
      rw [hshape, ← hlength, hzero]
      rfl
    rw [if_pos hzero, hnone]
    exact ⟨fun _ => ⟨hsign.mp hneg, by simp⟩, fun _ => rfl⟩
  · rw [if_neg hzero]
    have htake : (b.layout.shape.map UInt64.toInt64).take b.toRecord.rank.toNatClampNeg =
        b.layout.shape.map UInt64.toInt64 :=
      List.take_of_length_le (by rw [List.length_map, hlength, hshape])
    change ((b.layout.shape.map UInt64.toInt64).take _).mapM readExtent = _ ↔ _
    rw [htake, mapM_readExtent_iff]
    exact ⟨fun h => ⟨hsign.mp hneg, h⟩, And.right⟩

theorem readStrides_toRecord_eq {b : Buffer} (hrank : b.layout.rank < 2 ^ 31)
    (shape : List UInt64) :
    readStrides b.toRecord shape = .ok b.layout.strides := by
  have hneg : ¬ b.toRecord.rank < 0 := (rank_nonneg_iff (Nat.lt_trans hrank (by decide))).mpr hrank
  have hlength : b.toRecord.rank.toNatClampNeg = b.layout.rank :=
    toNat_rank (Nat.lt_trans hrank (by decide)) hneg
  have hstrides : b.layout.strides.length = b.layout.rank := by simp [Layout.strides, Layout.rank]
  change (if b.toRecord.rank = 0 then Except.ok []
    else .ok (b.layout.strides.take b.toRecord.rank.toNatClampNeg)) = _
  split
  case isTrue hzero =>
    have hnone : b.layout.rank = 0 := by
      rw [← hlength, hzero]
      rfl
    rw [List.eq_nil_of_length_eq_zero (hstrides.trans hnone)]
  case isFalse =>
    rw [hlength, List.take_of_length_le (Nat.le_of_eq hstrides)]

theorem readDevice_pair_iff {d : Device} :
    readDevice d.pair = .ok d ↔ d.index.toNat < 2 ^ 31 := by
  rw [← toInt_toInt32_iff]
  constructor
  · exact fun h => (readDevice_eq_ok h).2
  · intro hsigned
    have hpos : ¬ d.pair.id < 0 := by
      show ¬ d.index.toInt32 < 0
      rw [Int32.lt_iff_toInt_lt, Int32.toInt_zero]
      omega
    have hfound : Device.ofPair? d.pair = some d := by
      rw [Device.ofPair?, if_neg hpos]
      simp [Device.pair, DeviceKind.ofCode?_code, UInt32.toUInt32_toInt32]
    rw [readDevice, if_neg hpos, hfound]

end Described

/-! ## Memory behind a storage -/

namespace Owner.Backs

variable {h : Heap} {s : Storage} {owner : Owner}

theorem isNull_base (k : owner.Backs h s) (hsize : s.size ≠ 0) : s.base.isNull = false := by
  cases owner with
  | backend a =>
    obtain ⟨hbase, _⟩ := k
    rw [hbase]
    rfl
  | adopted block =>
    obtain ⟨hbase, _⟩ := k
    rw [hbase]
    rfl
  | imported t =>
    obtain ⟨d, hd, hbase, hlength, _⟩ := k
    rw [hbase]
    refine (hd.covers fun hcount => hsize ?_).placed
    exact hlength.trans (hd.empty hcount).2.2
  | nobody => exact absurd k hsize

theorem size_lt (k : owner.Backs h s) : s.size < wordBound := by
  cases owner with
  | backend a =>
    obtain ⟨_, _, _, _, hsmall, _⟩ := k
    exact Nat.lt_of_le_of_lt hsmall (by decide)
  | adopted block =>
    obtain ⟨_, hsmall, _⟩ := k
    exact Nat.lt_of_le_of_lt hsmall (by decide)
  | imported t =>
    obtain ⟨d, hd, _, hlength, _⟩ := k
    rw [hlength]
    exact hd.size_lt
  | nobody =>
    have hzero : s.size = 0 := k
    rw [hzero]
    decide

end Owner.Backs

namespace Buffer

variable {h : Heap} {b : Buffer} {o : ExportOptions}

theorem Sound.start_lt_stop (k : b.Sound h) (hcount : b.count ≠ 0) :
    0 ≤ b.layout.start b.type.size ∧ b.layout.start b.type.size < b.layout.stop b.type.size ∧
      b.layout.stop b.type.size ≤ b.storage.size := by
  obtain ⟨hstart, hstop, _⟩ := k.fits hcount
  have := lowest_nonpos b.type.size b.layout.axes
  have := highest_nonneg b.type.size b.layout.axes
  have := b.type.size_pos
  refine ⟨hstart, ?_, hstop⟩
  unfold Layout.start Layout.stop
  omega

/-! ## Coming back -/

/-- What an export without elements is found to be when it comes back. -/
def foundEmpty (b : Buffer) (o : ExportOptions) : Described :=
  ⟨{ b.layout with byteOffset := 0 }, b.type, b.device, .dangling, 0, none,
    (b.exported o).envelope.isReadOnly⟩

/-- What an export with elements is found to be: its axes, counted from its lowest byte. -/
def foundElements (b : Buffer) (o : ExportOptions) : Described :=
  ⟨{ b.layout with byteOffset := UInt64.ofNat (lowest b.type.size b.layout.axes).natAbs }, b.type,
    b.device, b.storage.base.shift (b.layout.start b.type.size),
    (b.layout.stop b.type.size - b.layout.start b.type.size).toNat, none,
    (b.exported o).envelope.isReadOnly⟩

theorem checkEnvelope_exported (b : Buffer) (o : ExportOptions) :
    Described.checkEnvelope (b.exported o).envelope = .ok () := by
  cases hformat : o.format <;> simp [exported, ManagedTensor.ofBuffer, hformat, Envelope.ofFormat,
    Described.checkEnvelope]

theorem Portable.describes_empty (p : b.Portable) (counted : checkShape b.layout.shape = .ok ())
    (hcount : b.count = 0) (o : ExportOptions) : (b.foundEmpty o).Describes (b.exported o) where
  envelope := b.checkEnvelope_exported o
  type := Described.readType_triple b.type
  device := Described.readDevice_pair_iff.mpr p.device
  shape := (Described.readShape_toRecord_iff (Nat.lt_trans p.rank (by decide))).mpr
    ⟨p.rank, p.extents⟩
  strides := Described.readStrides_toRecord_eq p.rank _
  checked := counted
  readOnly := rfl
  alignment := rfl
  empty := fun _ => ⟨rfl, rfl, rfl⟩
  covers := fun hne => absurd hcount hne

theorem Portable.describes_elements (p : b.Portable) (k : b.Sound h)
    (counted : checkShape b.layout.shape = .ok ()) (hcount : b.count ≠ 0)
    (hdata : b.storage.base.isNull = false) (hword : b.storage.size < wordBound)
    (o : ExportOptions) : (b.foundElements o).Describes (b.exported o) where
  envelope := b.checkEnvelope_exported o
  type := Described.readType_triple b.type
  device := Described.readDevice_pair_iff.mpr p.device
  shape := (Described.readShape_toRecord_iff (Nat.lt_trans p.rank (by decide))).mpr
    ⟨p.rank, p.extents⟩
  strides := Described.readStrides_toRecord_eq p.rank _
  checked := counted
  readOnly := rfl
  alignment := rfl
  empty := fun hzero => absurd hzero hcount
  covers := by
    intro _
    obtain ⟨hstart, hlength, hstop⟩ := k.start_lt_stop hcount
    have hlow := p.low hcount
    have hneg := lowest_nonpos b.type.size b.layout.axes
    have hbase : b.storage.base.shift (b.layout.start b.type.size) =
        (b.storage.base.shift b.layout.byteOffset.toNat).shift
          (lowest b.type.size b.layout.axes) := by
      rw [Pointer.shift_shift]
      rfl
    constructor
    case data => exact hdata
    case offset => exact p.offset hcount
    case low => exact hlow
    case base => exact hbase
    case placed => exact p.placed hcount
    case size =>
      show (((b.layout.stop b.type.size - b.layout.start b.type.size).toNat : Nat) : Int) =
        highest b.type.size b.layout.axes + b.type.size - lowest b.type.size b.layout.axes
      rw [Int.toNat_of_nonneg (by omega)]
      unfold Layout.stop Layout.start
      omega
    case room =>
      show (b.layout.stop b.type.size - b.layout.start b.type.size).toNat < wordBound
      omega
    case first =>
      show ((UInt64.ofNat (lowest b.type.size b.layout.axes).natAbs).toNat : Int) =
        -lowest b.type.size b.layout.axes
      rw [UInt64.toNat_ofNat_of_lt' (by rw [UInt64.size]; omega)]
      omega

/-- What is accepted kept its numbers. -/
theorem portable_of_ofTensor (hrank : b.layout.rank < 2 ^ 32) {c : Capsule}
    (ok : Capsule.ofTensor (b.exported o) = .ok c) : b.Portable := by
  obtain ⟨d, hd, _⟩ := Capsule.ofTensor_eq_ok ok
  have hd := Described.Describes.of_ofTensor hd
  have hr := hd.returns rfl hrank
  have hshape : Described.readShape b.toRecord = .ok b.layout.shape := by
    have haxes : d.layout.shape = b.layout.shape := congrArg (List.map Axis.extent) hr.axes
    exact haxes ▸ hd.shape
  have hdevice : Described.readDevice b.device.pair = .ok b.device :=
    hd.device.trans (congrArg Except.ok hr.device)
  have hcovers : b.count ≠ 0 → Described.Covers b.toRecord d := by
    intro hne
    refine hd.covers fun hzero => hne ?_
    simpa only [Layout.count, Buffer.count, hr.axes] using hzero
  obtain ⟨hrank', hextents⟩ := (Described.readShape_toRecord_iff hrank).mp hshape
  constructor
  case rank => exact hrank'
  case device => exact Described.readDevice_pair_iff.mp hdevice
  case extents => exact hextents
  case offset => exact fun hne => (hcovers hne).offset
  case low =>
    intro hne
    have := (hcovers hne).low
    rwa [hr.axes, hr.type] at this
  case placed =>
    intro hne
    rw [← hr.base hne]
    exact (hcovers hne).placed

/-- Over memory that a signed word measures, only its place can be in the way of elements. -/
theorem Sound.portable (k : b.Sound h) (counted : checkShape b.layout.shape = .ok ())
    (small : b.storage.size ≤ maxSize) (hrank : b.layout.rank < 2 ^ 31)
    (hdevice : b.device.index.toNat < 2 ^ 31)
    (hextents : b.count = 0 → ∀ d ∈ b.layout.shape, d.toNat < 2 ^ 63)
    (hplaced : b.count ≠ 0 → (b.storage.base.shift (b.layout.start b.type.size)).isNull = false) :
    b.Portable := by
  have hinside : b.count ≠ 0 → b.layout.byteOffset.toNat ≤ maxSize ∧
      -2 ^ 63 ≤ lowest b.type.size b.layout.axes := by
    intro hne
    obtain ⟨hstart, _, hstop⟩ := k.start_lt_stop hne
    have := highest_nonneg b.type.size b.layout.axes
    unfold Layout.start at hstart
    unfold Layout.stop at hstop
    unfold maxSize at *
    omega
  constructor
  case rank => exact hrank
  case device => exact hdevice
  case extents =>
    by_cases hcount : b.count = 0
    · exact hextents hcount
    · exact Layout.extents_lt_of_counted counted hcount
  case offset => exact fun hne => (hinside hne).1
  case low => exact fun hne => (hinside hne).2
  case placed => exact hplaced

/-- What is known of the exports of a buffer when they come back. -/
structure Acceptable (h : Heap) (b : Buffer) : Prop where
  accepted : b.Portable → ∀ o, ∃ c, b.reimport h o = .ok (h, c)
  /-- Whatever number does not keep its value has the export refused, in whatever form. -/
  refused : b.layout.rank < 2 ^ 32 → ¬ b.Portable → ∀ o, ∃ e, b.reimport h o = .error ⟨e, h⟩
  /-- Over memory of this library nothing else is in the way. -/
  native : h.Native b.storage → b.layout.rank < 2 ^ 31 → b.device.index.toNat < 2 ^ 31 →
    (b.count = 0 → ∀ d ∈ b.layout.shape, d.toNat < 2 ^ 63) → b.Portable

end Buffer

/-- Sound things with counted shapes are accepted if their numbers keep their values. -/
theorem World.Sound.acceptable {w : World} (k : w.Sound) (rooted : w.Rooted) (balanced : w.Balanced)
    {b : Buffer} (live : w.Live b) : b.Acceptable w.heap := by
  have sound := k.live live
  have counted := (rooted.live live).counted
  obtain ⟨x, found, backs⟩ := balanced.owner_of_live k live
  constructor
  case accepted =>
    intro portable o
    by_cases hcount : b.count = 0
    · have hd := portable.describes_empty counted hcount o
      exact ⟨_, Buffer.reimport_of_ofTensor (bind_eq_ok.mpr ⟨_, hd.ofTensor_eq_ok, rfl⟩) w.heap⟩
    · obtain ⟨hstart, hlength, hstop⟩ := sound.start_lt_stop hcount
      have hd := portable.describes_elements sound counted hcount (backs.isNull_base (by omega))
        backs.size_lt o
      exact ⟨_, Buffer.reimport_of_ofTensor (bind_eq_ok.mpr ⟨_, hd.ofTensor_eq_ok, rfl⟩) w.heap⟩
  case refused =>
    intro hrank hnot o
    rw [Buffer.reimport_eq]
    cases hok : Capsule.ofTensor (b.exported o) with
    | error e => exact ⟨e, rfl⟩
    | ok c => exact absurd (Buffer.portable_of_ofTensor hrank hok) hnot
  case native =>
    intro native hrank hdevice hextents
    have whole := native.isWhole balanced sound.backed
    by_cases hsize : b.storage.size = 0
    · refine sound.portable counted (hsize ▸ Nat.zero_le _) hrank hdevice hextents fun hne => ?_
      obtain ⟨hstart, hlength, hstop⟩ := sound.start_lt_stop hne
      omega
    · obtain ⟨block, bytes, hbase, _, _, small⟩ := whole hsize
      refine sound.portable counted small hrank hdevice hextents fun _ => ?_
      rw [hbase]
      rfl

/-- Whatever the commands of a session are: what is exported of a live buffer is accepted when it
comes back if its numbers keep their values in the exchange format, and refused if not. -/
theorem Session.acceptable_run (m : Machine) (env : Config.Environment) (cs : List Command)
    {b : Buffer} (live : ((start m env).run cs).1.world.Live b) :
    b.Acceptable ((start m env).run cs).1.heap :=
  (sound_run m env cs).acceptable (rooted_run m env cs)
    ((moves_of_run (start m env) cs).balanced (Heap.balanced_empty m)) live

/-! ### The last number of a device that keeps its value, and the next one -/

/-- An allocator for every device, and a byte on one of them. -/
def onDevice (index : UInt32) : List Command :=
  [.memory (.create "any" (.custom "any" none) .default),
    .memory (.allocate (some "any") "byte" .uint8 [1] ⟨.cuda, index⟩)]

def deviceByte (index : UInt32) : Buffer :=
  ⟨⟨0, .within 0 0, 1, some 64, ⟨.cuda, index⟩, false, "any"⟩, ⟨[⟨1, 1⟩], 0⟩, .uint8, false⟩

theorem Session.live_deviceByte {index : UInt32}
    (found : (after (onDevice index)).buffers.get? "byte" =
      some (deviceByte index)) :
    (after (onDevice index)).world.Live (deviceByte index) :=
  live_of_named found

theorem Session.acceptable_last_device :
    (after (onDevice 0x7fffffff)).world.Live (deviceByte 0x7fffffff) ∧
      (deviceByte 0x7fffffff).Acceptable (after (onDevice 0x7fffffff)).heap ∧
        (deviceByte 0x7fffffff).Portable := by
  have found : (after (onDevice 0x7fffffff)).buffers.get? "byte" =
      some (deviceByte 0x7fffffff) := by
    decide +kernel
  have live := live_deviceByte found
  have acceptable := acceptable_run _ _ (onDevice 0x7fffffff) live
  have native : (after (onDevice 0x7fffffff)).heap.Native
      (deviceByte 0x7fffffff).storage := by
    refine ⟨⟨.backend ⟨⟨.custom "any" none, 1⟩, 0, 1, 64, ⟨.cuda, 0x7fffffff⟩⟩, 1⟩, ?_,
      fun t h => by cases h⟩
    decide +kernel
  have hcount : (deviceByte 0x7fffffff).count ≠ 0 := by decide +kernel
  exact ⟨live, acceptable, acceptable.native native (by decide) (by decide) (absurd · hcount)⟩

/-- A buffer without elements whose second extent is the first one that turns negative. -/
def negativeExtent : List Command :=
  [.memory (.allocate none "empty" .uint8 [0, 0x8000000000000000] .host)]

def emptyBytes : Buffer :=
  ⟨⟨0, .dangling, 0, some 64, .host, false, "empty"⟩,
    ⟨[⟨0, -0x8000000000000000⟩, ⟨0x8000000000000000, 1⟩], 0⟩, .uint8, false⟩

/-- An allocator hands out a buffer on the next device, and one with the next extent, but their
exports are refused in either form. -/
theorem Session.refused_next_number :
    ((after (onDevice 0x80000000)).world.Live (deviceByte 0x80000000) ∧
      ∀ h format, (deviceByte 0x80000000).reimport h ⟨format, false⟩ =
        .error ⟨.invalidTensor (.negativeDevice (-0x80000000)), h⟩) ∧
      (after negativeExtent).world.Live emptyBytes ∧
        ∀ h format, emptyBytes.reimport h ⟨format, false⟩ =
          .error ⟨.invalidTensor (.negativeExtent (-0x8000000000000000)), h⟩ := by
  have found : (after (onDevice 0x80000000)).buffers.get? "byte" =
      some (deviceByte 0x80000000) := by
    decide +kernel
  have found' : (after negativeExtent).buffers.get? "empty" =
      some emptyBytes := by
    decide +kernel
  have device (format : CapsuleFormat) :
      Capsule.ofTensor ((deviceByte 0x80000000).exported ⟨format, false⟩) =
        .error (.invalidTensor (.negativeDevice (-0x80000000))) := by
    cases format <;> decide +kernel
  have extent (format : CapsuleFormat) : Capsule.ofTensor (emptyBytes.exported ⟨format, false⟩) =
      .error (.invalidTensor (.negativeExtent (-0x8000000000000000))) := by
    cases format <;> decide +kernel
  refine ⟨⟨live_deviceByte found, fun h format => ?_⟩, live_of_named found', fun h format => ?_⟩
  · rw [Buffer.reimport_eq, device]
    rfl
  · rw [Buffer.reimport_eq, extent]
    rfl

end TensorExchange
