import TensorExchange.Proofs.Buffer.Copy
import TensorExchange.Proofs.Exclusive

/-!
Copies: packed anew, in memory that nothing else lies in.

To copy a buffer is to gather its elements row by row, to allocate for its shape and to
fill what was allocated.  The rows of the original may lie anywhere in their storage, in
any order and on top of each other; those of the copy are packed.

Main statement (`Session.compacted_run`), for a live buffer of any session and a copy of
it that was made:

* the copy has the shape and the type of the buffer and the device that was named, it can
  be written, and its rows fill a storage of its own from the start to the end;
* any number of first elements are the same bytes in both, all of them included;
* every buffer there was is read as before, the original too;
* whatever is written later over the memory of one is never seen over the memory of the
  other, in whatever heap that is.

The last point speaks of all later heaps and of all buffers over the same blocks, not of
one write after the copy.  It needs no invariant about writes: the block of a copy has a
number that no block had before (`Buffer.Fresh`), so nothing older can lie in it, and what
lies in different blocks is never disturbed (`Storage.Apart.unseen`).

That fewer elements are the first bytes of more (`gather_of_le`) is proved once for all
memories.  It is what relates the whole copy to a glance at the beginning of the original.

What is refused, and what a refusal leaves behind, is said in `Proofs/Refusal`.
-/

namespace TensorExchange

/-! ## The first elements -/

namespace Buffer

variable {h h' : Heap} {b : Buffer} {memory out data : Array UInt8} {index : List Nat}

theorem prefix_of_gatherFrom (n : Nat) : ∀ {index : List Nat} {out : Array UInt8},
    b.gatherFrom memory n index out = .ok data → ∃ rest, data = out ++ rest := by
  induction n with
  | zero =>
    intro index out ok
    obtain rfl := Except.ok.inj ok
    exact ⟨#[], Array.append_empty.symm⟩
  | succ n ih =>
    intro index out ok
    obtain ⟨element, _, ok⟩ := bind_eq_ok.mp ok
    obtain ⟨rest, rfl⟩ := ih ok
    exact ⟨element ++ rest, Array.append_assoc⟩

theorem gatherFrom_of_add (m n : Nat) : ∀ {index : List Nat} {out : Array UInt8},
    b.gatherFrom memory (m + n) index out = .ok data →
      ∃ first rest, b.gatherFrom memory m index out = .ok first ∧ data = first ++ rest := by
  induction m with
  | zero =>
    intro index out ok
    rw [Nat.zero_add] at ok
    obtain ⟨rest, hrest⟩ := prefix_of_gatherFrom n ok
    exact ⟨out, rest, rfl, hrest⟩
  | succ m ih =>
    intro index out ok
    rw [Nat.succ_add] at ok
    obtain ⟨element, helement, ok⟩ := bind_eq_ok.mp ok
    obtain ⟨first, rest, hfirst, hrest⟩ := ih ok
    exact ⟨first, rest, bind_eq_ok.mpr ⟨element, helement, hfirst⟩, hrest⟩

/-- Whatever the memory is, fewer elements are the first bytes of more. -/
theorem gather_of_le {m n : Nat} (ok : b.gather h n = .ok data) (hle : m ≤ n) :
    b.gather h m = .ok (data.extract 0 (m * b.type.size)) := by
  by_cases hm : m = 0
  case pos => simp [gather, hm, pure, Except.pure]
  have hn : n ≠ 0 := by omega
  have hmul := Nat.mul_le_mul_right b.type.size hle
  unfold gather at ok ⊢
  rw [if_neg hn] at ok
  rw [if_neg hm]
  obtain ⟨size, hsize, ok⟩ := bind_eq_ok.mp ok
  obtain ⟨memory, hmemory, ok⟩ := bind_eq_ok.mp ok
  obtain rfl := packedSize_eq_ok hsize
  refine bind_eq_ok.mpr ⟨_, packedSize_of_le hsize hle, bind_eq_ok.mpr ⟨memory, hmemory, ?_⟩⟩
  split at ok
  case isTrue packed =>
    rw [if_pos packed]
    exact slice_of_le ok hmul
  case isFalse scattered =>
    obtain ⟨small, ok⟩ := guard_eq_ok.mp ok
    rw [if_neg scattered]
    refine guard_eq_ok.mpr ⟨fun refuses => small (h.machine.mono _ _ _ hmul refuses), ?_⟩
    obtain ⟨k, rfl⟩ := Nat.exists_eq_add_of_le hle
    obtain ⟨first, rest, hfirst, rfl⟩ := gatherFrom_of_add m k ok
    have hsize : first.size = m * b.type.size := by simpa using size_gatherFrom m hfirst
    rw [hfirst, ← hsize, Array.extract_append_left, Array.extract_size]

end Buffer

/-! ## New memory -/

theorem Heap.holdings_writeWindow (h : Heap) (w : Window) (position : Nat) (data : List UInt8) :
    (h.writeWindow w position data).holdings = h.holdings := by
  unfold writeWindow write
  split
  case h_1 => rfl
  case h_2 => split <;> rfl

theorem Buffer.window_writeWindow {h : Heap} (b : Buffer) (w : Window) (position : Nat)
    (data : List UInt8) : b.window (h.writeWindow w position data) = b.window h := by
  have same : (h.writeWindow w position data).isSole b.storage = h.isSole b.storage := by
    unfold Heap.isSole
    rw [Heap.holdings_writeWindow]
  simp only [window, same]

/-- What a buffer is that was just allocated. -/
structure Buffer.Fresh (h h' : Heap) (type : ElementType) (shape : List UInt64) (device : Device)
    (b : Buffer) : Prop where
  packed : Layout.contiguous shape = .ok b.layout
  form : b.type = type ∧ b.device = device ∧ b.readOnly = false
  machine : h'.machine = h.machine
  size : b.storage.size = volume shape * type.size ∧ b.storage.size ≤ maxSize
  new : b.storage.id = h.holdings.next
  /-- Nothing happens to the storages and the memory that were there. -/
  holdings : ∀ id, id ≠ h.holdings.next → h'.holdings.get? id = h.holdings.get? id
  blocks : ∀ block, block ≠ h.blocks.next → h'.blocks.get? block = h.blocks.get? block
  lies : b.storage.size ≠ 0 →
    b.storage.Lies h' h.blocks.next 0 (Array.replicate b.storage.size 0)
  nowhere : b.storage.size = 0 → b.storage.base.block? = none

theorem Allocator.fresh_of_allocate {a : Allocator} {h h' : Heap} {type : ElementType}
    {shape : List UInt64} {device : Device} {b : Buffer}
    (ok : a.allocate h type shape device = .ok (h', b)) : b.Fresh h h' type shape device := by
  obtain ⟨layout, n, planned, made⟩ := allocate_eq_ok ok
  obtain ⟨packed, rfl, small⟩ := plan_eq_ok planned
  rw [Layout.count_of_contiguous packed] at made small
  rcases made with ⟨hn, s, added, rfl⟩ | ⟨h₁, allocation, s, hn, allocated, added, rfl⟩
  · obtain ⟨rfl, rfl⟩ := Prod.mk.inj added
    constructor
    case packed => exact packed
    case form => exact ⟨rfl, rfl, rfl⟩
    case machine => rfl
    case size => exact ⟨hn.symm, Nat.zero_le _⟩
    case new => rfl
    case holdings => exact fun id hid => Table.get?_add_of_ne _ _ hid
    case blocks => exact fun _ _ => rfl
    case lies => exact fun hne => absurd rfl hne
    case nowhere => exact fun _ => rfl
  · obtain ⟨rfl, rfl⟩ := Prod.mk.inj added
    obtain ⟨rfl, rfl⟩ := Heap.allocate_eq_ok allocated
    constructor
    case packed => exact packed
    case form => exact ⟨rfl, rfl, rfl⟩
    case machine => rfl
    case size => exact ⟨rfl, small⟩
    case new => rfl
    case holdings => exact fun id hid => Table.get?_add_of_ne _ _ hid
    case blocks => exact fun block hblock => Table.get?_add_of_ne _ _ hblock
    case lies =>
      refine fun _ => ⟨rfl, Table.get?_add_next _ _, ?_, ?_⟩
      · rw [Array.size_replicate, Nat.zero_add]
      · rw [Array.size_replicate]
        exact small
    case nowhere => exact fun hzero => absurd hzero hn

/-! ## Whoever was there -/

/-- No two blocks of two storages are the same. -/
def Storage.Apart (s s' : Storage) : Prop :=
  ∀ block, s.base.block? = some block → s'.base.block? ≠ some block

theorem Storage.Apart.symm {s s' : Storage} (apart : s.Apart s') : s'.Apart s :=
  fun block there here => apart block here there

section Apart

variable {h : Heap} {b v : Buffer} {w : Window}

/-- What is written through a buffer changes nothing in another block. -/
theorem Storage.Apart.sameAt (apart : b.storage.Apart v.storage) (ok : b.window h = .ok w)
    (position : Nat) (data : List UInt8) :
    h.SameAt (h.writeWindow w position data) v.storage.base := by
  obtain ⟨_, _, _, _, hstart⟩ := Buffer.window_eq_ok ok
  refine Buffer.sameAt_writeWindow (fun block hblock => ?_) position data
  rw [hstart] at hblock
  split at hblock
  case isTrue => cases hblock
  case isFalse => exact apart block (by rwa [Pointer.block?_shift] at hblock)

theorem Storage.Apart.unseen (apart : b.storage.Apart v.storage) (ok : b.window h = .ok w)
    (position : Nat) (data : List UInt8) : v.SameReads h (h.writeWindow w position data) :=
  Buffer.sameReads (Heap.machine_writeWindow ..) (apart.sameAt ok position data)

end Apart

/-- The memory of a live buffer is in a block that was made before. -/
theorem World.Lawful.block_lt {w : World} (k : w.Lawful) {b : Buffer} (live : w.Live b)
    {block : Nat} (hblock : b.storage.base.block? = some block) : block < w.heap.blocks.next := by
  obtain ⟨y, found, backs⟩ := k.balanced.owner_of_live k.sound live
  have reached := k.balanced.reaches_iff.mpr (World.stake_of_live live)
  rcases k.reaches_block b.storage.id found backs ((k.rooted.live live).owned y found) hblock
    reached with lent | ⟨r, hr, reached⟩
  · exact lent.old
  · exact k.balanced.memory.block_lt (k.balanced.reaches_iff.mp reached) hr

/-! ## The copy -/

/-- A packed copy of `b` on a device, and the heap with it. -/
structure Buffer.Compacted (w : World) (b : Buffer) (device : Device) (h' : Heap) (copy : Buffer) :
    Prop where
  host : b.device.isHostAccessible = true ∧ device.isHostAccessible = true
  form : copy.layout.shape = b.layout.shape ∧ copy.type = b.type ∧ copy.device = device
  /-- Its rows are packed from the start of the storage to its end. -/
  packed : Layout.contiguous b.layout.shape = .ok copy.layout ∧ copy.layout.order = .rowMajor ∧
    copy.layout.byteOffset = 0 ∧ copy.storage.size = b.count * b.type.size
  writable : copy.readOnly = false ∧
    ∃ window, copy.window h' = .ok window ∧ window.size = b.count * b.type.size
  /-- Any number of elements can be read of both, and are the same. -/
  heads : ∀ n, ∃ data, copy.headBytes h' n = .ok data ∧ b.headBytes w.heap n = .ok data
  /-- The storage is its own, and all others have the holders they had. -/
  own : (∀ v, w.Live v → v.storage.id ≠ copy.storage.id) ∧
    ∀ id, id ≠ copy.storage.id → h'.holdings.get? id = w.heap.holdings.get? id
  /-- Every buffer there was is read as before, the one that was copied included. -/
  unchanged : ∀ v, w.Live v → v.SameReads w.heap h'
  /-- Whatever happens later, nothing that is written over the memory of the copy is seen over the
  memory of a buffer there was, nor the other way round. -/
  later : ∀ v, w.Live v → ∀ (g : Heap) (u x : Buffer),
    u.storage.base.block? = copy.storage.base.block? →
    x.storage.base.block? = v.storage.base.block? → ∀ window position data,
      (u.window g = .ok window → x.SameReads g (g.writeWindow window position data)) ∧
        (x.window g = .ok window → u.SameReads g (g.writeWindow window position data))

namespace Buffer

variable {h h₁ : Heap} {b copy : Buffer} {device : Device} {data : Array UInt8} {window : Window}

theorem copySource_eq_ok {a : Allocator} (ok : b.copySource h device a = .ok (data, h₁, copy)) :
    b.device.isHostAccessible = true ∧ device.isHostAccessible = true ∧
      b.gather h b.count = .ok data ∧
        a.allocate h b.type b.layout.shape device = .ok (h₁, copy) := by
  obtain ⟨⟨⟩, here, ok⟩ := bind_eq_ok.mp ok
  obtain ⟨⟨⟩, there, ok⟩ := bind_eq_ok.mp ok
  obtain ⟨data, gathered, ok⟩ := bind_eq_ok.mp ok
  obtain ⟨⟨h₁, copy⟩, allocated, ok⟩ := bind_eq_ok.mp ok
  obtain ⟨rfl, rfl, rfl⟩ := by simpa [pure_eq_ok] using ok
  exact ⟨checkCopyable_eq_ok_iff.mp (leaving_eq_ok.mp here),
    checkCopyable_eq_ok_iff.mp (leaving_eq_ok.mp there), leaving_eq_ok.mp gathered, allocated⟩

section Fresh

variable {type : ElementType} {shape : List UInt64}

theorem Fresh.count_eq (fresh : copy.Fresh h h₁ type shape device) : copy.count = volume shape :=
  Layout.count_of_contiguous fresh.packed

/-- The whole of a new storage is given out for writing. -/
theorem Fresh.size_of_window (fresh : copy.Fresh h h₁ type shape device)
    (ok : copy.window h₁ = .ok window) : window.size = copy.storage.size := by
  obtain ⟨_, _, packedSize, _⟩ := window_eq_ok ok
  rw [packedSize_eq_ok packedSize, fresh.count_eq, fresh.form.1, fresh.size.1]

theorem Fresh.storageBytes (fresh : copy.Fresh h h₁ type shape device)
    (ok : copy.window h₁ = .ok window) (size : data.size = copy.storage.size) :
    (h₁.writeWindow window 0 data.toList).storageBytes copy.storage = .ok data := by
  have sizes := fresh.size_of_window ok
  by_cases hzero : copy.storage.size = 0
  · obtain rfl := Array.eq_empty_of_size_eq_zero (size.trans hzero)
    exact if_pos hzero
  · have lies := fresh.lies hzero
    have start : window.start = .within h.blocks.next (Int64.ofInt (0 + 0 : Nat)) := by
      obtain ⟨_, _, _, _, hstart⟩ := window_eq_ok ok
      rw [hstart, if_neg (by omega), Layout.byteOffset_of_contiguous fresh.packed, lies.base]
      exact Pointer.shift_within _ 0 0
    obtain ⟨after, lies', puts⟩ := lies.writeWindow start (by omega) 0 data.toList
    rw [List.take_of_length_le (by rw [Array.length_toList]; omega)] at puts
    obtain rfl := puts.eq_of_size (by rw [size, Array.size_replicate])
    rw [lies'.storageBytes, Nat.zero_add, ← size, Array.extract_size]

/-- What was written over all of it is all that is read of a new buffer. -/
theorem Fresh.holds (fresh : copy.Fresh h h₁ type shape device)
    (ok : copy.window h₁ = .ok window) (size : data.size = copy.storage.size) :
    copy.Holds (h₁.writeWindow window 0 data.toList) data := by
  obtain ⟨host, packed, packedSize, _⟩ := window_eq_ok ok
  have room : copy.layout.byteOffset.toNat + window.size = data.size := by
    rw [Layout.byteOffset_of_contiguous fresh.packed, fresh.size_of_window ok, size]
    exact Nat.zero_add _
  have whole : data.extract copy.layout.byteOffset.toNat data.size = data := by
    rw [Layout.byteOffset_of_contiguous fresh.packed]
    exact Array.extract_size
  have holds := holds_of_storageBytes (fresh.storageBytes ok size) host packed packedSize room.le
  rwa [room, whole] at holds

end Fresh

theorem copyTo_eq_ok {h' : Heap} {a : Allocator} (exact : b.layout.Exact)
    (ok : b.copyTo h device a = .ok (h', copy)) :
    ∃ data h₁ window, b.copySource h device a = .ok (data, h₁, copy) ∧
      copy.window h₁ = .ok window ∧ h' = h₁.writeWindow window 0 data.toList := by
  cases source : b.copySource h device a with
  | error e => cases (copyTo_of_source_error source).symm.trans ok
  | ok made =>
    obtain ⟨data, h₁, copy'⟩ := made
    obtain ⟨_, window, hwindow, copied⟩ := copyTo_of_source exact source
    obtain ⟨rfl, rfl⟩ := Prod.mk.inj (Except.ok.inj (copied.symm.trans ok))
    exact ⟨data, h₁, window, rfl, hwindow, rfl⟩

end Buffer

/-- Nothing that was there lies in the memory of a new buffer. -/
theorem World.Lawful.apart_of_fresh {w : World} (k : w.Lawful) {v copy : Buffer} {h₁ : Heap}
    {type : ElementType} {shape : List UInt64} {device : Device} (live : w.Live v)
    (fresh : copy.Fresh w.heap h₁ type shape device) : v.storage.Apart copy.storage := by
  intro block hv hcopy
  have old := k.block_lt live hv
  by_cases hzero : copy.storage.size = 0
  · rw [fresh.nowhere hzero] at hcopy
    cases hcopy
  · rw [(fresh.lies hzero).base] at hcopy
    have := Option.some.inj hcopy
    omega

theorem World.Lawful.compacted {w : World} (k : w.Lawful) {b copy : Buffer} (live : w.Live b)
    {device : Device} {a : Allocator} {h' : Heap}
    (ok : b.copyTo w.heap device a = .ok (h', copy)) : b.Compacted w device h' copy := by
  have exact := (k.sound.live live).exact
  obtain ⟨data, h₁, window, source, hwindow, rfl⟩ := Buffer.copyTo_eq_ok exact ok
  obtain ⟨here, there, gathered, allocated⟩ := Buffer.copySource_eq_ok source
  have fresh := Allocator.fresh_of_allocate allocated
  obtain ⟨type, onDevice, writable⟩ := fresh.form
  have volume : volume b.layout.shape = b.count := exact.count_eq.symm
  have count : copy.count = b.count := fresh.count_eq.trans volume
  have storageSize : copy.storage.size = b.count * b.type.size := by rw [fresh.size.1, volume]
  have size : data.size = copy.storage.size := (Buffer.size_gather gathered).trans storageSize.symm
  constructor
  case host => exact ⟨here, there⟩
  case form => exact ⟨Layout.shape_of_contiguous fresh.packed, type, onDevice⟩
  case packed =>
    exact ⟨fresh.packed, if_pos (Layout.isContiguous_of_contiguous fresh.packed),
      Layout.byteOffset_of_contiguous fresh.packed, storageSize⟩
  case writable =>
    refine ⟨writable, window, ?_, (fresh.size_of_window hwindow).trans storageSize⟩
    rw [Buffer.window_writeWindow, hwindow]
  case heads =>
    intro n
    refine ⟨_, (fresh.holds hwindow size).heads n, ?_⟩
    rw [count, type]
    exact bind_eq_ok.mpr
      ⟨(), Accept.check_eq_ok_iff.mpr here, Buffer.gather_of_le gathered (Nat.min_le_right ..)⟩
  case own =>
    constructor
    · intro v vlive
      have := (k.rooted.live vlive).old
      have := fresh.new
      omega
    · intro id hid
      rw [Heap.holdings_writeWindow]
      exact fresh.holdings id (fresh.new ▸ hid)
  case unchanged =>
    intro v vlive
    refine Buffer.sameReads ((Heap.machine_writeWindow ..).trans fresh.machine)
      fun block hblock => ?_
    have old := k.block_lt vlive hblock
    have apart := k.apart_of_fresh vlive fresh
    rw [apart.symm.sameAt hwindow 0 data.toList block hblock]
    exact fresh.blocks block (by omega)
  case later =>
    intro v vlive g u x hu hx window position data
    have apart : x.storage.Apart u.storage := by
      unfold Storage.Apart
      rw [hu, hx]
      exact k.apart_of_fresh vlive fresh
    exact ⟨fun ok => apart.symm.unseen ok position data, fun ok => apart.unseen ok position data⟩

/-- Whatever the commands of a session are: a copy of a live buffer is compact, and faithful. -/
theorem Session.compacted_run (m : Machine) (env : Config.Environment) (cs : List Command)
    {b copy : Buffer}
    (live : ((start m env).run cs).1.world.Live b) {device : Device} {a : Allocator} {h' : Heap}
    (ok : b.copyTo ((start m env).run cs).1.heap device a = .ok (h', copy)) :
    b.Compacted ((start m env).run cs).1.world device h' copy :=
  (lawful_run m env cs).compacted live ok

/-- The copy of the rows that run backwards, in pinned memory. -/
def turnedCopy : Buffer :=
  ⟨⟨1, .within 1 0, 8, some 64, ⟨.cudaHost, 1⟩, false, "pinned"⟩, ⟨[⟨2, 2⟩, ⟨2, 1⟩], 0⟩, .int16,
    false⟩

theorem Session.compacted_turned :
    (after turning).world.Live turned ∧
      ∃ h', turned.copyTo (after turning).heap ⟨.cudaHost, 1⟩
          (.ofConfig ⟨.custom "pinned" none, 0⟩ .default) = .ok (h', turnedCopy) ∧
        turned.Compacted (after turning).world ⟨.cudaHost, 1⟩ h' turnedCopy ∧
          turnedCopy.headBytes h' 3 = .ok #[8, 9, 10, 11, 4, 5] := by
  have named : (after turning).buffers.get? "turned" = some turned := by
    decide +kernel
  have live := live_of_named named
  refine ⟨live, ?heap, ?copied, compacted_run _ _ turning live ?copied, ?read⟩
  case copied => rfl
  case read => decide +kernel

end TensorExchange
