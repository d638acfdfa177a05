import TensorExchange.Proofs.Bounds
import TensorExchange.Proofs.Ownership.Alone

/-!
Exclusive writing: whoever writes to memory is the only one who can see it.

Bytes are given out for writing where nobody else holds the storage.  That is asked of the
storage of the buffer, and of no other.  A buffer that came in from an export has a storage
of its own, over memory that belongs to another one; so it may be the only holder of its
storage while views of the exported buffer are alive.

Main statement (`Session.exclusive_run`), for every buffer of a session and bytes it gives
out, to be written as bytes or as elements:

* a write changes the bytes that were given out and no others, and the buffer reads what
  was written through it;
* if the storages that were exported on the way to the memory have no other holder either,
  then nobody else lies in the block, and every other buffer and capsule reads what it read.

The second condition (`Undisturbed`) cannot be left out: in `Session.overlooked` a view of
an exported buffer reads what was written through the buffer that came back.  It is not
needed for the first point, and neither is anything known of memory that other libraries
made; all that is asked there is that the memory is of this library.

The first point rests on where the memory is, `Storage.Lies`, which follows the chain of
exports inwards (`World.Lawful.lies`, by induction on `Heap.Domestic`).  The second is in
`Proofs/Ownership/Alone`: a block that nobody else reaches.
-/

namespace TensorExchange

/-! ## Memory that can be written -/

/-- The memory of a storage, as a part of a block. -/
structure Storage.Lies (h : Heap) (s : Storage) (block place : Nat) (bytes : Array UInt8) :
    Prop where
  base : s.base = .within block (Int64.ofInt place)
  found : h.blocks.get? block = some bytes
  room : place + s.size ≤ bytes.size
  small : bytes.size ≤ maxSize

theorem Storage.Lies.storageBytes {h : Heap} {s : Storage} {block place : Nat}
    {bytes : Array UInt8} (lies : s.Lies h block place bytes) :
    h.storageBytes s = .ok (bytes.extract place (place + s.size)) :=
  Heap.storageBytes_within place lies.found lies.small lies.base lies.room

theorem Pointer.shift_within (block place n : Nat) :
    (within block (Int64.ofInt place)).shift n = within block (Int64.ofInt (place + n : Nat)) := by
  rw [shift, ← Int64.ofInt_add, Nat.cast_add]

/-- Memory that belongs to this library is there. -/
theorem World.Lawful.lies {w : World} (k : w.Lawful) {s : Storage} (domestic : w.heap.Domestic s)
    (backs : w.heap.Backs s) (hne : s.size ≠ 0) :
    ∃ block place bytes, s.Lies w.heap block place bytes := by
  induction domestic with
  | @own s native =>
    obtain ⟨block, bytes, hbase, hbytes, hsize, hsmall⟩ := native.isWhole k.balanced backs hne
    exact ⟨block, 0, bytes, ⟨hbase, hbytes, by omega, by omega⟩⟩
  | @exported s y t b found howner hkeeper hrank _ ih =>
    have hbacks := backs.backs y found
    have tsound := k.sound.owners s.id y found
    rw [howner] at hbacks tsound
    obtain ⟨d, hd, hbase, hsize, _⟩ := hbacks
    obtain ⟨hrecord, bsound⟩ := tsound b hkeeper
    have hreturns := hd.returns hrecord hrank
    have hcount : b.count ≠ 0 := fun hzero => hne (hsize.trans (hreturns.empty hzero).2.2)
    obtain ⟨n, hshift, hroom⟩ := bsound.returns_within hreturns hcount
    have hsize' : b.storage.size ≠ 0 := by omega
    obtain ⟨block, place, bytes, lies⟩ := ih bsound.backed hsize'
    have hroom' := lies.room
    refine ⟨block, place + n, bytes, ⟨?_, lies.found, by omega, lies.small⟩⟩
    rw [hbase, hshift, lies.base, Pointer.shift_within]

/-! ## Bytes that are given out -/

/-- What a window is to the other things that are held: none of them lies in the block that is
written, and buffers and capsules read what they read before. -/
structure Window.Unseen (h : Heap) (rest : Multiset Thing) (w : Window) : Prop where
  alone : ∀ z ∈ rest, ∀ block, w.start.block? = some block → z.block? ≠ some block
  buffers : ∀ b, .buffer b ∈ rest → ∀ position data,
    b.SameReads h (h.writeWindow w position data)
  capsules : ∀ c, .capsule c ∈ rest → ∀ position data,
    c.bytes (h.writeWindow w position data) = c.bytes h

namespace Buffer

variable {h : Heap} {b : Buffer} {w : Window}

theorem window_of_elementWindow {type : ElementType} (ok : b.elementWindow h type = .ok w) :
    b.window h = .ok w := by
  obtain ⟨_, _, ok⟩ := bind_eq_ok.mp ok
  obtain ⟨w', hw, ok⟩ := bind_eq_ok.mp ok
  split at ok
  · rwa [← pure_eq_ok.mp ok]
  · cases ok

/-- All that is read of packed rows. -/
structure Holds (h : Heap) (b : Buffer) (data : Array UInt8) : Prop where
  bytes : b.bytes h = .ok data
  heads : ∀ n, b.headBytes h n = .ok (data.extract 0 (min n b.count * b.type.size))

theorem packedSize_of_le {n size : Nat} (ok : b.packedSize n = .ok size) {m : Nat} (hle : m ≤ n) :
    b.packedSize m = .ok (m * b.type.size) := by
  have hsize := packedSize_eq_ok ok
  have hmul := Nat.mul_le_mul_right b.type.size hle
  unfold packedSize at ok ⊢
  split at ok
  case isTrue hfits => exact if_pos (by omega)
  case isFalse => cases ok

theorem holds_of_storageBytes {memory : Array UInt8}
    (hmemory : h.storageBytes b.storage = .ok memory)
    (host : b.checkHost = .ok ()) (packed : b.layout.isContiguous = true) {size : Nat}
    (hsize : b.packedSize b.count = .ok size)
    (room : b.layout.byteOffset.toNat + size ≤ memory.size) :
    b.Holds h (memory.extract b.layout.byteOffset.toNat (b.layout.byteOffset.toNat + size)) where
  bytes := by
    have hpacked : b.checkContiguous = .ok () := if_pos packed
    simp only [bytes, host, hpacked, hsize, hmemory, bind, Except.bind]
    rw [slice_eq_ok (by omega) (by omega) (by omega), Int.toNat_natCast, ← Nat.cast_add,
      Int.toNat_natCast]
  heads := by
    intro n
    have hsize' := packedSize_of_le hsize (Nat.min_le_right n b.count)
    obtain rfl := packedSize_eq_ok hsize
    have hle := Nat.mul_le_mul_right b.type.size (Nat.min_le_right n b.count)
    by_cases hzero : min n b.count = 0
    · simp [headBytes, gather, host, hzero, bind, Except.bind, pure, Except.pure]
    · simp only [headBytes, gather, host, if_neg hzero, hsize', hmemory, if_pos packed, bind,
        Except.bind]
      rw [slice_eq_ok (by omega) (by omega) (by omega), Int.toNat_natCast, ← Nat.cast_add,
        Int.toNat_natCast, Array.extract_extract, Nat.add_zero,
        Nat.min_eq_left (Nat.add_le_add_left hle _)]

/-- What a write through a window does to memory of this library: exactly the bytes change that were
given out, and the buffer reads what was written. -/
structure Writes (h : Heap) (b : Buffer) (w : Window) : Prop where
  memory : ∃ (block place : Nat) (bytes : Array UInt8),
    w.start = .within block (Int64.ofInt place) ∧ h.blocks.get? block = some bytes ∧
      place + w.size ≤ bytes.size ∧ ∀ position data, ∃ after,
        (h.writeWindow w position data).blocks.get? block = some after ∧
          Heap.Puts bytes after (place + position) (data.take (w.size - position)) ∧
            ∀ other, other ≠ block →
              (h.writeWindow w position data).blocks.get? other = h.blocks.get? other
  reads : ∃ old, old.size = w.size ∧ b.Holds h old ∧ ∀ position data, ∃ new,
    b.Holds (h.writeWindow w position data) new ∧
      Heap.Puts old new position (data.take (w.size - position))

/-- What is known of a buffer that gives out bytes for writing. -/
structure Exclusive (h : Heap) (rest : Multiset Thing) (b : Buffer) (w : Window) : Prop where
  size : w.size = b.count * b.type.size
  /-- Nobody else has a hold on the storage. -/
  sole : ¬ h.Reaches rest (.storage b.storage.id)
  /-- Without tensors of other runtimes, the memory belongs to this library. -/
  domestic : h.Homemade → h.Domestic b.storage
  /-- Where there are no bytes nothing is written. -/
  nothing : w.size = 0 → ∀ position data, h.writeWindow w position data = h
  writes : h.Domestic b.storage → w.size ≠ 0 → b.Writes h w
  unseen : h.Domestic b.storage → h.Undisturbed b.storage → w.Unseen h rest

/-- Nothing is written to memory that a thing does not lie in. -/
theorem sameAt_writeWindow {p : Pointer}
    (apart : ∀ block, w.start.block? = some block → p.block? ≠ some block) (position : Nat)
    (data : List UInt8) : h.SameAt (h.writeWindow w position data) p := by
  intro block hblock
  refine Heap.blocks_write_of_ne h ?_ _
  rw [Pointer.block?_shift]
  exact fun hstart => apart block hstart hblock

end Buffer

theorem Capsule.Sound.block?_base {h : Heap} {c : Capsule} (k : c.Sound h)
    (hc : c.isConsumed = false) : c.base.block? = c.contents.block? := by
  rcases k.cases hc with ⟨b, o, rfl, _⟩ | ⟨d, t, _, hok, _⟩
  · rfl
  · obtain ⟨_, _, rfl⟩ := Capsule.ofTensor_eq_ok hok
    rfl

theorem Capsule.bytes_of_consumed {c : Capsule} (hc : c.isConsumed = true) (h : Heap) :
    c.bytes h = .error .alreadyConsumed := by
  rw [bytes, if_pos hc]
  rfl

/-! ## Writing alone -/

namespace Storage.Lies

variable {h : Heap} {b : Buffer} {w : Window} {block place : Nat} {bytes : Array UInt8}

theorem holds (lies : b.storage.Lies h block place bytes) (host : b.checkHost = .ok ())
    (packed : b.layout.isContiguous = true) {size : Nat} (hsize : b.packedSize b.count = .ok size)
    (room : b.layout.byteOffset.toNat + size ≤ b.storage.size) :
    b.Holds h ((bytes.extract place (place + b.storage.size)).extract b.layout.byteOffset.toNat
      (b.layout.byteOffset.toNat + size)) := by
  refine Buffer.holds_of_storageBytes lies.storageBytes host packed hsize ?_
  have := lies.room
  rw [Array.size_extract]
  omega

theorem writeWindow {s : Storage} {offset : Nat} (lies : s.Lies h block place bytes)
    (hstart : w.start = .within block (Int64.ofInt (place + offset : Nat)))
    (room : offset + w.size ≤ s.size) (position : Nat) (data : List UInt8) :
    ∃ after, s.Lies (h.writeWindow w position data) block place after ∧
      Heap.Puts bytes after (place + offset + position) (data.take (w.size - position)) := by
  have hroom := lies.room
  have hkept := List.length_take_le (w.size - position) data
  obtain ⟨after, found, puts⟩ := Heap.write_within lies.found lies.small
    (place + offset + position) (data.take (w.size - position)) (by omega)
  rw [← Pointer.shift_within, ← hstart] at found
  have hsize := puts.size (by omega)
  exact ⟨after, ⟨lies.base, found, by omega, hsize ▸ lies.small⟩, puts⟩

/-- What was put into the block is put into the bytes that were given out. -/
theorem puts {s : Storage} {offset size position : Nat} {after : Array UInt8} {data : List UInt8}
    (lies : s.Lies h block place bytes)
    (puts : Heap.Puts bytes after (place + offset + position) (data.take (size - position)))
    (room : offset + size ≤ s.size) :
    Heap.Puts ((bytes.extract place (place + s.size)).extract offset (offset + size))
      ((after.extract place (place + s.size)).extract offset (offset + size)) position
        (data.take (size - position)) := by
  have hroom := lies.room
  have hkept := List.length_take_le (size - position) data
  rw [Nat.add_assoc] at puts
  refine (puts.extract (by omega) hroom).extract hkept ?_
  rw [Array.size_extract]
  omega

end Storage.Lies

namespace World.Lawful

variable {h : Heap} {b : Buffer} {rest : Multiset Thing} {n : Nat} {w : Window}

/-- The bytes that are given out of memory of this library. -/
theorem lies_of_window (k : Lawful ⟨h, .buffer b ::ₘ rest, n⟩) (domestic : h.Domestic b.storage)
    (ok : b.window h = .ok w) (hne : w.size ≠ 0) :
    ∃ block place bytes, b.storage.Lies h block place bytes ∧
      w.start = .within block (Int64.ofInt (place + b.layout.byteOffset.toNat : Nat)) ∧
        b.layout.byteOffset.toNat + w.size ≤ b.storage.size := by
  have sound : b.Sound h := k.sound.head
  obtain ⟨hstart, hroom⟩ := sound.window ok hne
  have hsize : b.storage.size ≠ 0 := by omega
  obtain ⟨block, place, bytes, lies⟩ := k.lies domestic sound.backed hsize
  rw [lies.base, Pointer.shift_within] at hstart
  exact ⟨block, place, bytes, lies, hstart, hroom⟩

theorem writes (k : Lawful ⟨h, .buffer b ::ₘ rest, n⟩) (domestic : h.Domestic b.storage)
    (ok : b.window h = .ok w) (hne : w.size ≠ 0) : b.Writes h w := by
  obtain ⟨host, packed, hpacked, _, _⟩ := Buffer.window_eq_ok ok
  obtain ⟨block, place, bytes, lies, hstart, hroom⟩ := k.lies_of_window domestic ok hne
  have room := lies.room
  constructor
  case memory =>
    refine ⟨block, _, bytes, hstart, lies.found, by omega, fun position data => ?_⟩
    obtain ⟨after, lies', puts⟩ := lies.writeWindow hstart hroom position data
    refine ⟨after, lies'.found, puts, fun other hother => Heap.blocks_write_of_ne h ?_ _⟩
    rw [Pointer.block?_shift, hstart]
    exact fun heq => hother (Option.some.inj heq).symm
  case reads =>
    refine ⟨_, ?_, lies.holds host packed hpacked hroom, fun position data => ?_⟩
    · rw [Array.size_extract, Array.size_extract]
      omega
    · obtain ⟨after, lies', puts⟩ := lies.writeWindow hstart hroom position data
      exact ⟨_, lies'.holds host packed hpacked hroom, lies.puts puts hroom⟩

theorem unseen (k : Lawful ⟨h, .buffer b ::ₘ rest, n⟩) (domestic : h.Domestic b.storage)
    (undisturbed : h.Undisturbed b.storage) (ok : b.window h = .ok w) :
    w.Unseen h rest := by
  obtain ⟨_, _, _, sole, hstart⟩ := Buffer.window_eq_ok ok
  have alone : ∀ z ∈ rest, ∀ block, w.start.block? = some block → z.block? ≠ some block := by
    intro z hz block hblock
    by_cases hzero : w.size = 0
    · rw [hstart, if_pos hzero] at hblock
      cases hblock
    · rw [hstart, if_neg hzero, Pointer.block?_shift] at hblock
      exact k.alone rfl sole domestic undisturbed hblock z hz
  constructor
  case alone => exact alone
  case buffers =>
    intro other hother position data
    exact Buffer.sameReads (Heap.machine_writeWindow ..)
      (Buffer.sameAt_writeWindow (alone _ hother) position data)
  case capsules =>
    intro c hc position data
    by_cases consumed : c.isConsumed = true
    · rw [Capsule.bytes_of_consumed consumed, Capsule.bytes_of_consumed consumed]
    · have sound : Capsule.Sound h c := k.sound.things _ (Multiset.mem_cons_of_mem hc)
      refine Capsule.bytes_congr (Buffer.sameAt_writeWindow (fun block hblock => ?_) position data)
      rw [sound.block?_base (by simpa using consumed)]
      exact alone _ hc block hblock

theorem exclusive (k : Lawful ⟨h, .buffer b ::ₘ rest, n⟩) (ok : b.window h = .ok w) :
    b.Exclusive h rest w := by
  obtain ⟨_, _, hsize, sole, hstart⟩ := Buffer.window_eq_ok ok
  constructor
  case size => exact Buffer.packedSize_eq_ok hsize
  case sole => exact k.not_reaches_storage rfl sole
  case domestic =>
    intro homemade
    have live : World.Live ⟨h, .buffer b ::ₘ rest, n⟩ b :=
      .inl ⟨.buffer b, Multiset.mem_cons_self _ rest, rfl⟩
    obtain ⟨x, found, _⟩ := k.balanced.owner_of_live k.sound live
    exact k.domestic homemade found
  case nothing =>
    intro hzero position data
    rw [Heap.writeWindow, hstart, if_pos hzero]
    rfl
  case writes => exact fun domestic hne => k.writes domestic ok hne
  case unseen => exact fun domestic undisturbed => k.unseen domestic undisturbed ok

end World.Lawful

/-- The books, the bounds and the roots of a session are kept, whatever its commands are. -/
theorem Session.lawful_run (m : Machine) (env : Config.Environment) (cs : List Command) :
    ((start m env).run cs).1.world.Lawful where
  balanced := (moves_of_run (start m env) cs).balanced (Heap.balanced_empty m)
  sound := sound_run m env cs
  rooted := rooted_run m env cs

/-- Whatever the commands of a session are: bytes that are given out for writing, as bytes or as
elements, are written alone if nobody else has a storage on the way to the memory. -/
theorem Session.exclusive_run (m : Machine) (env : Config.Environment) (cs : List Command)
    {b : Buffer} {rest : Multiset Thing} {w : Window}
    (held : ((start m env).run cs).1.world.things = .buffer b ::ₘ rest)
    (ok : b.window ((start m env).run cs).1.heap = .ok w ∨
      ∃ type, b.elementWindow ((start m env).run cs).1.heap type = .ok w) :
    b.Exclusive ((start m env).run cs).1.heap rest w := by
  have k := lawful_run m env cs
  have hworld : ((start m env).run cs).1.world =
      ⟨((start m env).run cs).1.heap, .buffer b ::ₘ rest, ((start m env).run cs).1.numbered⟩ :=
    congrArg (World.mk _ · _) held
  rw [hworld] at k
  rcases ok with ok | ⟨type, ok⟩
  · exact k.exclusive ok
  · exact k.exclusive (Buffer.window_of_elementWindow ok)

/-! ### Out of the library and back -/

/-- Bytes are exported, imported and consumed. -/
def relaying : List Command :=
  [.buffers (.adopt "bytes" .uint8 #[1, 2, 3, 4]),
    .capsules (.wrap "bytes" "exported" ⟨.versioned, false⟩),
    .capsules (.takeTensor "exported" "tensor"),
    .tensors (.adopt "tensor" "imported"),
    .capsules (.consume "imported" "written" .any)]

/-- The buffer that is exported. -/
def relayedBytes : Buffer :=
  ⟨⟨0, .within 0 0, 4, some 1, .host, false, "adopted"⟩, ⟨[⟨4, 1⟩], 0⟩, .uint8, false⟩

/-- The tensor that leaves the library. -/
def relayedTensor : ManagedTensor :=
  ⟨.versioned .current 0, relayedBytes.toRecord, .exported relayedBytes, true⟩

/-- The buffer that comes back, over a storage of its own. -/
def relayedBack : Buffer :=
  ⟨⟨1, .within 0 0, 4, none, .host, false, "foreign"⟩, ⟨[⟨4, 1⟩], 0⟩, .uint8, false⟩

/-- Where nothing else was made of the bytes, they are written alone. -/
theorem Session.exclusive_relaying :
    ∃ rest, (after relaying).world.things = .buffer relayedBack ::ₘ rest ∧
      relayedBack.window (after relaying).heap = .ok ⟨.within 0 0, 4⟩ ∧
        relayedBack.Writes (after relaying).heap ⟨.within 0 0, 4⟩ ∧
          Window.Unseen (after relaying).heap rest ⟨.within 0 0, 4⟩ := by
  have named : (after relaying).buffers.get? "written" =
      some relayedBack := by
    decide +kernel
  have held := things_of_buffer named
  have ok : relayedBack.window (after relaying).heap =
      .ok ⟨.within 0 0, 4⟩ := by
    decide +kernel
  have exclusive := exclusive_run _ _ relaying held (.inl ok)
  -- one export lies on the way to the memory
  have own : (after relaying).heap.Native relayedBytes.storage := by
    have notImported : ∀ t, Owner.adopted 0 ≠ .imported t := fun _ h => by cases h
    refine ⟨⟨.adopted 0, 1⟩, ?_, notImported⟩
    decide +kernel
  have found : (after relaying).heap.holdings.get? relayedBack.storage.id =
      some ⟨.imported relayedTensor, 1⟩ := by
    decide +kernel
  have sole : (after relaying).heap.isSole relayedBytes.storage = true := by
    decide +kernel
  have domestic := Heap.Domestic.exported found rfl rfl (by decide) (.own own)
  have undisturbed := Heap.Undisturbed.exported found rfl rfl sole (.own own)
  exact ⟨_, held, ok, exclusive.writes domestic (by decide), exclusive.unseen domestic undisturbed⟩

/-- Before the bytes are exported, a view of them is made. -/
def overlooking : List Command :=
  relaying.take 1 ++ .buffers (.view "bytes" "view" [4] [1] 0) :: relaying.drop 1

/-- The bytes are given out for writing, and the view reads what is written. -/
theorem Session.overlooked :
    ∃ rest, (after overlooking).world.things = .buffer relayedBack ::ₘ rest ∧
      relayedBack.window (after overlooking).heap = .ok ⟨.within 0 0, 4⟩ ∧
        .buffer relayedBytes ∈ rest ∧
          relayedBytes.headBytes (after overlooking).heap 4 =
            .ok #[1, 2, 3, 4] ∧
          relayedBytes.headBytes ((after overlooking).heap.writeWindow
            ⟨.within 0 0, 4⟩ 0 [255]) 4 = .ok #[255, 2, 3, 4] := by
  have named : (after overlooking).buffers.get? "written" =
      some relayedBack := by
    decide +kernel
  have view : ((after overlooking).eraseBuffer "written").buffers.get? "view" =
      some relayedBytes := by
    decide +kernel
  have held := things_of_buffer named
  have other := mem_things_of_buffer view
  refine ⟨_, held, ?_, other, ?_, ?_⟩
  all_goals decide +kernel

end TensorExchange
