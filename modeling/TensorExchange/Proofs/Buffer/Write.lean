import TensorExchange.Buffer.Write
import TensorExchange.Capsule
import TensorExchange.Proofs.Ownership.Balance
import TensorExchange.Proofs.Result

/-!
Writing: which bytes a write changes, and who can tell.

A write goes to a window, which is a pointer into one block and a length.  Main statements:

* `Puts before after place data` holds between the bytes of the block before and after: at
  `place` and behind it there is what was written, and everywhere else what was there;
* memory that lies in no block, or in another block, is read as before (`Heap.SameAt`);
* so all readers of a buffer over such memory (bytes, first elements, packed elements), and
  of a capsule, read what they read before (`Buffer.sameReads`, `Capsule.bytes_congr`).

The last is stated for any two heaps that agree on the memory of the buffer, and not only
for a write: a copy, whose heap has a block more, uses it as well.  The two heaps must be
on the same machine, because a reader that gathers asks for memory of its own.
-/

namespace TensorExchange

/-- The block that a place is counted from. -/
def Pointer.block? : Pointer → Option Nat
  | fixed _ => none
  | within block _ => some block

@[simp] theorem Pointer.block?_shift (p : Pointer) (n : Int) : (p.shift n).block? = p.block? := by
  cases p <;> rfl

namespace Heap

/-! ## Bytes that are put in -/

/-- From a place on the bytes are those of `data`, and otherwise the ones that were there. -/
def Puts (before after : Array UInt8) (place : Nat) (data : List UInt8) : Prop :=
  ∀ i, after[i]? = if place ≤ i ∧ i < place + data.length then data[i - place]? else before[i]?

theorem puts_nil (bytes : Array UInt8) (place : Nat) : Puts bytes bytes place [] := by
  intro i
  rw [if_neg (by rw [List.length_nil]; omega)]

theorem overwrite_cons (bytes : Array UInt8) (place : Nat) (b : UInt8) (data : List UInt8) :
    overwrite bytes place (b :: data) = overwrite (bytes.setIfInBounds place b) (place + 1) data :=
  rfl

theorem puts_overwrite (data : List UInt8) : ∀ (bytes : Array UInt8) {place : Nat},
    place + data.length ≤ bytes.size → Puts bytes (overwrite bytes place data) place data := by
  induction data with
  | nil => exact fun bytes place _ => puts_nil bytes place
  | cons b data ih =>
    intro bytes place hroom i
    rw [List.length_cons] at hroom ⊢
    rw [overwrite_cons, ih _ (by rw [Array.size_setIfInBounds]; omega),
      Array.getElem?_setIfInBounds]
    rcases Nat.lt_trichotomy i place with hbefore | rfl | hafter
    · rw [if_neg (by omega), if_neg (by omega), if_neg (by omega)]
    · rw [if_neg (by omega), if_pos rfl, if_pos (by omega), if_pos (by omega), Nat.sub_self]
      rfl
    · obtain ⟨n, rfl⟩ : ∃ n, i = place + (n + 1) := ⟨i - place - 1, by omega⟩
      have hrange : (place + 1 ≤ place + (n + 1) ∧ place + (n + 1) < place + 1 + data.length) ↔
          (place ≤ place + (n + 1) ∧ place + (n + 1) < place + (data.length + 1)) := by omega
      have hindex : place + (n + 1) - (place + 1) = n := by omega
      have hindex' : place + (n + 1) - place = n + 1 := by omega
      have hne : ¬ place = place + (n + 1) := by omega
      simp only [hrange, hindex, hindex', if_neg hne, List.getElem?_cons_succ]

theorem getElem?_range {bytes : Array UInt8} {start size : Nat} (room : start + size ≤ bytes.size)
    (i : Nat) :
    (bytes.extract start (start + size))[i]? = if i < size then bytes[start + i]? else none := by
  rw [Array.getElem?_extract]
  have hlength : min (start + size) bytes.size - start = size := by omega
  rw [hlength]

theorem Puts.size {before after : Array UInt8} {place : Nat} {data : List UInt8}
    (puts : Puts before after place data) (room : data.length ≤ before.size - place) :
    after.size = before.size := by
  rcases Nat.lt_trichotomy after.size before.size with hlt | heq | hgt
  · have h := puts after.size
    rw [Array.getElem?_size] at h
    split at h
    · rw [eq_comm, List.getElem?_eq_none_iff] at h
      omega
    · rw [eq_comm, Array.getElem?_eq_none_iff] at h
      omega
  · exact heq
  · have h := puts before.size
    rw [if_neg (by omega), Array.getElem?_size, Array.getElem?_eq_none_iff] at h
    omega

/-- Memory that is overwritten from its start to its end is what was written. -/
theorem Puts.eq_of_size {before after data : Array UInt8}
    (puts : Puts before after 0 data.toList) (size : data.size = before.size) : after = data := by
  have hsize : after.size = data.size :=
    (puts.size (by rw [Array.length_toList]; omega)).trans size.symm
  refine Array.ext hsize fun i hi hi' => ?_
  have := puts i
  rw [if_pos ⟨Nat.zero_le _, by simpa using hi'⟩] at this
  simpa [hi, hi'] using this

/-- A range in which all the bytes lie that are put in. -/
theorem Puts.extract {before after : Array UInt8} {start position size : Nat} {data : List UInt8}
    (puts : Puts before after (start + position) data) (hdata : data.length ≤ size - position)
    (room : start + size ≤ before.size) :
    Puts (before.extract start (start + size)) (after.extract start (start + size)) position
      data := by
  have hsize := puts.size (by omega)
  intro i
  rw [getElem?_range (by omega), getElem?_range room, puts]
  have hrange : (start + position ≤ start + i ∧ start + i < start + position + data.length) ↔
      (position ≤ i ∧ i < position + data.length) := by omega
  have hindex : start + i - (start + position) = i - position := by omega
  simp only [hrange, hindex]
  by_cases hi : i < size
  · rw [if_pos hi, if_pos hi]
  · rw [if_neg hi, if_neg hi, if_neg (by omega)]

/-! ## The memory that is written -/

theorem write_within {h : Heap} {block : Nat} {bytes : Array UInt8}
    (found : h.blocks.get? block = some bytes) (small : bytes.size ≤ maxSize) (place : Nat)
    (data : List UInt8) (room : data.length ≤ bytes.size - place) :
    ∃ after, (h.write (.within block (Int64.ofInt place)) data).blocks.get? block = some after ∧
      Puts bytes after place data := by
  simp only [write, found, Table.get?_set_self (Table.lt_next_of_get? found)]
  refine ⟨_, rfl, ?_⟩
  by_cases hplace : place ≤ bytes.size
  case neg =>
    obtain rfl : data = [] := List.eq_nil_of_length_eq_zero (by omega)
    rw [List.drop_nil]
    exact puts_nil bytes place
  unfold maxSize at small
  have hint : (Int64.ofInt place).toInt = place :=
    Int64.toInt_ofInt_of_le (by omega) (by omega)
  have hclamp : (Int64.ofInt place).toNatClampNeg = place := by
    rw [← Int64.toNat_toInt, hint, Int.toNat_natCast]
  have hnone : (-(place : Int)).toNat = 0 := by omega
  simp only [hint, hclamp, hnone, List.drop_zero]
  exact puts_overwrite data bytes (by omega)

theorem blocks_write_of_ne (h : Heap) {p : Pointer} {block : Nat} (hne : p.block? ≠ some block)
    (data : List UInt8) : (h.write p data).blocks.get? block = h.blocks.get? block := by
  cases p with
  | fixed address => rfl
  | within other offset =>
    have hother : other ≠ block := fun heq => hne (congrArg some heq)
    simp only [write]
    split
    next bytes found => exact Table.get?_set_of_ne _ _ hother
    next => rfl

/-! ## Reading what was not written -/

/-- Two heaps that have the same bytes where a pointer leads. -/
def SameAt (h h' : Heap) (p : Pointer) : Prop :=
  ∀ block, p.block? = some block → h'.blocks.get? block = h.blocks.get? block

variable {h h' : Heap} {p : Pointer}

@[simp] theorem machine_write (h : Heap) (p : Pointer) (data : List UInt8) :
    (h.write p data).machine = h.machine := by
  unfold write
  split
  next => rfl
  next => split <;> rfl

theorem machine_writeWindow (h : Heap) (w : Window) (position : Nat) (data : List UInt8) :
    (h.writeWindow w position data).machine = h.machine :=
  machine_write ..

theorem SameAt.shift (same : h.SameAt h' p) (n : Int) : h.SameAt h' (p.shift n) := by
  intro block hblock
  exact same block (by rwa [Pointer.block?_shift] at hblock)

theorem SameAt.read? (same : h.SameAt h' p) (length : Nat) :
    h'.read? p length = h.read? p length := by
  cases p with
  | fixed address => rfl
  | within block offset =>
    have heq := same block rfl
    simp only [Heap.read?, heq]

theorem SameAt.storageBytes {s : Storage} (same : h.SameAt h' s.base) :
    h'.storageBytes s = h.storageBytes s := by
  simp only [Heap.storageBytes, same.read?]

end Heap

/-- All that is read of a buffer is read of the bytes of its storage. -/
structure Buffer.SameReads (h h' : Heap) (b : Buffer) : Prop where
  bytes : b.bytes h' = b.bytes h
  headBytes : ∀ n, b.headBytes h' n = b.headBytes h n
  toPacked : ∀ type, b.toPacked h' type = b.toPacked h type

theorem Buffer.sameReads {h h' : Heap} {b : Buffer} (machine : h'.machine = h.machine)
    (same : h.SameAt h' b.storage.base) : b.SameReads h h' := by
  have hbytes := same.storageBytes
  have hhead : ∀ n, b.headBytes h' n = b.headBytes h n := by
    intro n
    simp only [headBytes, gather, hbytes, machine]
  constructor
  case bytes => simp only [bytes, hbytes]
  case headBytes => exact hhead
  case toPacked =>
    intro type
    simp only [toPacked, head, hhead]

theorem Capsule.bytes_congr {h h' : Heap} {c : Capsule} (same : h.SameAt h' c.base) :
    c.bytes h' = c.bytes h := by
  simp only [bytes, (same.shift _).read?]

end TensorExchange
