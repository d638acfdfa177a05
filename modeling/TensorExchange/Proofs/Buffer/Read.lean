import TensorExchange.Buffer.Read
import TensorExchange.Proofs.Layout.Index
import TensorExchange.Proofs.Layout.Packed

/-!
Reading: where elements are read, and reading them from a part of their memory.

When a buffer is exported and comes back, its memory is described by the span that its
layout reaches: the bytes from the lowest element to the end of the highest.  So it comes
back over a part of the memory that it had, with its first element as far behind the lowest
one as before.  `Buffer.Relocates` is this relation between two buffers and their memories.

Main statement (`Buffer.Relocates.headBytes`): what is read of the first elements of one
buffer is read of the other, failures included.  It is built up from below: checked
arithmetic computes the displacement where it does not fail, a slice of a part is a slice
of the whole, so the element at an index is the same, and with it what the odometer
collects.  Nothing here assumes that reading succeeds, so the lemmas hold for memory that
another runtime lent as well.

Two buffers of the same form (`SameForm`: type, axes and devices agree) ask the same
questions before they read; that part is kept apart from where the bytes lie.
-/

namespace TensorExchange

/-! ## Checked arithmetic -/

theorem checkedWord_eq_ok_iff {n m : Int} :
    checkedWord n = .ok m ↔ m = n ∧ -2 ^ 63 ≤ n ∧ n < 2 ^ 63 := by
  unfold checkedWord
  split
  case isTrue h => exact ⟨fun heq => ⟨(Except.ok.inj heq).symm, h⟩, fun hm => by rw [hm.1]⟩
  case isFalse h => exact ⟨nofun, fun hm => absurd hm.2 h⟩

theorem checkedDisplacement_eq_ok {axes : List Axis} : ∀ {sum d : Int} {index : List Nat},
    checkedDisplacement sum axes index = .ok d → d = sum + displacement axes index := by
  induction axes with
  | nil =>
    intro sum d index h
    obtain rfl := Except.ok.inj h
    simp [displacement]
  | cons a axes ih =>
    intro sum d index h
    cases index with
    | nil =>
      obtain rfl := Except.ok.inj h
      simp [displacement]
    | cons i index =>
      obtain ⟨step, hstep, h⟩ := bind_eq_ok.mp h
      obtain ⟨next, hnext, h⟩ := bind_eq_ok.mp h
      obtain ⟨rfl, _⟩ := checkedWord_eq_ok_iff.mp hstep
      obtain ⟨rfl, _⟩ := checkedWord_eq_ok_iff.mp hnext
      rw [ih h, displacement]
      omega

/-! ## Slices -/

theorem slice_eq_ok {memory : Array UInt8} {start stop : Int} (hstart : 0 ≤ start)
    (hle : start ≤ stop) (hstop : stop ≤ memory.size) :
    slice memory start stop = .ok (memory.extract start.toNat stop.toNat) :=
  if_pos ⟨hstart, hle, hstop⟩

theorem slice_extract {memory : Array UInt8} {low high start stop : Int} (hlow : 0 ≤ low)
    (hstart : low ≤ start) (hle : start ≤ stop) (hstop : stop ≤ high)
    (hhigh : high ≤ memory.size) :
    slice (memory.extract low.toNat high.toNat) (start - low) (stop - low) =
      slice memory start stop := by
  have hsize : ((memory.extract low.toNat high.toNat).size : Int) = high - low := by
    rw [Array.size_extract]
    omega
  rw [slice_eq_ok (by omega) (by omega) (by omega), slice_eq_ok (by omega) hle (by omega),
    Array.extract_extract]
  congr 2 <;> omega

theorem slice_of_le {memory data : Array UInt8} {start : Int} {m n : Nat}
    (ok : slice memory start (start + n) = .ok data) (hle : m ≤ n) :
    slice memory start (start + m) = .ok (data.extract 0 m) := by
  unfold slice at ok
  split at ok
  case isTrue hrange =>
    obtain rfl := Except.ok.inj ok
    rw [slice_eq_ok (by omega) (by omega) (by omega), Array.extract_extract]
    congr 2
    omega
  case isFalse => cases ok

/-! ## Buffers -/

namespace Buffer

theorem packedSize_eq_ok {b : Buffer} {n size : Nat} (ok : b.packedSize n = .ok size) :
    size = n * b.type.size := by
  unfold packedSize at ok
  split at ok
  · exact (Except.ok.inj ok).symm
  · cases ok

/-- Elements of one type, in the same order, on one device. -/
structure SameForm (b b' : Buffer) : Prop where
  axes : b'.layout.axes = b.layout.axes
  type : b'.type = b.type
  device : b'.device = b.device

/-- A buffer whose memory is the part that the layout of another one reaches in its memory. -/
structure Relocates (b : Buffer) (memory : Array UInt8) (b' : Buffer) (memory' : Array UInt8) :
    Prop extends SameForm b b' where
  start : 0 ≤ b.layout.start b.type.size
  stop : b.layout.stop b.type.size ≤ memory.size
  small : memory.size ≤ maxSize
  first :
    (b'.layout.byteOffset.toNat : Int) = b.layout.byteOffset.toNat - b.layout.start b.type.size
  part : memory' = memory.extract (b.layout.start b.type.size).toNat
    (b.layout.stop b.type.size).toNat

namespace SameForm

variable {b b' : Buffer}

theorem count (f : SameForm b b') : b'.count = b.count := by
  simp only [Buffer.count, Layout.count, f.axes]

theorem isContiguous (f : SameForm b b') : b'.layout.isContiguous = b.layout.isContiguous := by
  simp only [Layout.isContiguous, Layout.count, f.axes]

theorem checkHost (f : SameForm b b') : b'.checkHost = b.checkHost := by
  rw [Buffer.checkHost, Buffer.checkHost, f.device]

theorem packedSize (f : SameForm b b') (n : Nat) : b'.packedSize n = b.packedSize n := by
  rw [Buffer.packedSize, Buffer.packedSize, f.type]

theorem headBytes_of_empty (f : SameForm b b') (hempty : b.count = 0) (h h' : Heap) (n : Nat) :
    b'.headBytes h' n = b.headBytes h n := by
  simp only [headBytes, f.checkHost, f.count, hempty, Nat.min_zero, gather, if_true]

end SameForm

namespace Relocates

variable {b b' : Buffer} {memory memory' : Array UInt8}

/-- Bytes that the layout reaches are the same, counted from the lowest one. -/
theorem slice (r : b.Relocates memory b' memory') {place : Int} {length : Nat}
    (hstart : b.layout.start b.type.size ≤ place)
    (hstop : place + length ≤ b.layout.stop b.type.size) :
    slice memory' (place - b.layout.start b.type.size)
        (place - b.layout.start b.type.size + length) =
      slice memory place (place + length) := by
  have hshift : place - b.layout.start b.type.size + length =
      place + length - b.layout.start b.type.size := by omega
  rw [r.part, hshift]
  exact slice_extract r.start hstart (by omega) hstop r.stop

/-- The element at an index is the same, wherever its memory lies. -/
theorem elementAt (r : b.Relocates memory b' memory') {index : List Nat}
    (inside : Inside b.layout.axes index) :
    b'.elementAt memory' index = b.elementAt memory index := by
  unfold Buffer.elementAt
  rw [r.axes, r.type]
  refine bind_congr_ok fun d hd => bind_congr_ok fun distance hdistance => ?_
  obtain rfl := checkedDisplacement_eq_ok hd
  obtain ⟨rfl, _⟩ := checkedWord_eq_ok_iff.mp hdistance
  rw [Int.zero_add]
  generalize hdistance : displacement b.layout.axes index * (b.type.size : Int) = distance
  -- Both words are in range, since the element lies between the lowest and the highest.
  have hmem : b.layout.start b.type.size ≤ b.layout.byteOffset.toNat + distance ∧
      b.layout.byteOffset.toNat + distance + b.type.size ≤ b.layout.stop b.type.size := by
    obtain ⟨hlow, hhigh⟩ := inside.displacement_mem b.type.size
    unfold Layout.start Layout.stop
    omega
  have hstart := r.start
  have hstop := r.stop
  have hsmall := r.small
  unfold maxSize at hsmall
  have hshift : (b'.layout.byteOffset.toNat : Int) + distance =
      b.layout.byteOffset.toNat + distance - b.layout.start b.type.size := by
    have := r.first
    omega
  rw [hshift, checkedWord_eq_ok_iff.mpr ⟨rfl, by omega, by omega⟩,
    checkedWord_eq_ok_iff.mpr ⟨rfl, by omega, by omega⟩]
  exact r.slice hmem.1 hmem.2

theorem gatherFrom (r : b.Relocates memory b' memory') (n : Nat) : ∀ {index : List Nat}
    {out : Array UInt8}, Inside b.layout.axes index →
      b'.gatherFrom memory' n index out = b.gatherFrom memory n index out := by
  induction n with
  | zero => intro index out _; rfl
  | succ n ih =>
    intro index out inside
    unfold Buffer.gatherFrom
    rw [r.elementAt inside, r.axes]
    exact bind_congr_ok fun element _ => ih inside.advance

variable {h h' : Heap}

theorem gather (r : b.Relocates memory b' memory') (exact : b.layout.Exact)
    (hmachine : h'.machine = h.machine) (hmemory : h.storageBytes b.storage = .ok memory)
    (hmemory' : h'.storageBytes b'.storage = .ok memory') {n : Nat} (hn : n ≤ b.count) :
    b'.gather h' n = b.gather h n := by
  unfold Buffer.gather
  by_cases hzero : n = 0
  · rw [if_pos hzero, if_pos hzero]
  rw [if_neg hzero, if_neg hzero, r.packedSize, r.isContiguous, hmemory, hmemory', r.axes, hmachine]
  have hne : b.count ≠ 0 := by omega
  refine bind_congr_ok fun size hsize => ?_
  change (if b.layout.isContiguous = true then _ else _) = if b.layout.isContiguous = true then _
    else _
  split
  case isTrue packed =>
    obtain rfl := packedSize_eq_ok hsize
    obtain ⟨hstart, hstop⟩ := Layout.span_of_isContiguous exact packed hne b.type.size
    have hle := Nat.mul_le_mul_right b.type.size hn
    rw [r.first]
    exact r.slice (by omega) (by rw [hstop]; unfold Buffer.count at hle; omega)
  case isFalse =>
    split
    case isTrue => rfl
    case isFalse => exact r.gatherFrom n (inside_first (exact.extent_ne_zero hne))

/-- Whatever is read of the first elements of one buffer is read of the other. -/
theorem headBytes (r : b.Relocates memory b' memory') (exact : b.layout.Exact)
    (hmachine : h'.machine = h.machine) (hmemory : h.storageBytes b.storage = .ok memory)
    (hmemory' : h'.storageBytes b'.storage = .ok memory') (n : Nat) :
    b'.headBytes h' n = b.headBytes h n := by
  rw [Buffer.headBytes, Buffer.headBytes, r.checkHost, r.count,
    r.gather exact hmachine hmemory hmemory' (Nat.min_le_right ..)]

end Relocates

end Buffer

end TensorExchange
