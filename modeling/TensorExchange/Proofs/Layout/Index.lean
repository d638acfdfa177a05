import Mathlib.Algebra.Order.Ring.Int
import Mathlib.Data.List.Forall2
import TensorExchange.Layout.Index
import TensorExchange.Proofs.Layout.Packed

/-!
Indices: where the elements of a layout lie.

An index is a list of positions, one for each axis.  It is inside of the axes if each
position is below the extent of its axis; as a relation between two lists this is
`List.Forall₂`, and the inductions below are on it, one axis and one position at a time.
An index inside is never longer or shorter than the rank, so no statement has to say it.

The element at an index lies at the offset of the layout plus the sum of positions times
strides, times the size of an element (`Layout.place`).  The sum is an integer, since
strides may be negative.

Main statements:

* the element at an index inside lies between the lowest and the highest element
  (`Inside.displacement_mem`), whatever the strides are;
* the odometer steps from one index inside to another (`Inside.advance`), and it begins
  inside where there are elements (`inside_first`).

Only extents decide what is inside, so layouts with the same shape have the same indices
(`Inside.congr`).  This is how elements of a buffer are compared with those of its copy or
its reshape, which lie elsewhere.
-/

namespace TensorExchange

/-- An index with a position on each axis. -/
abbrev Inside : List Axis → List Nat → Prop := List.Forall₂ fun a i => i < a.extent.toNat

/-- Where the element at an index begins, in bytes from the base of the memory. -/
def Layout.place (l : Layout) (size : Nat) (index : List Nat) : Int :=
  l.byteOffset.toNat + displacement l.axes index * size

theorem inside_first {axes : List Axis} (hne : ∀ a ∈ axes, a.extent ≠ 0) :
    Inside axes (axes.map fun _ => 0) := by
  induction axes with
  | nil => exact .nil
  | cons a axes ih =>
    exact .cons (Axis.extent_pos (hne a (List.mem_cons_self ..)))
      (ih fun b hb => hne b (List.mem_cons_of_mem a hb))

theorem Inside.extent_ne_zero {axes : List Axis} {index : List Nat} (inside : Inside axes index) :
    ∀ a ∈ axes, a.extent ≠ 0 := by
  induction inside with
  | nil => simp
  | cons hi _ ih =>
    intro b hb hzero
    rcases List.mem_cons.mp hb with rfl | hb
    · rw [hzero] at hi
      exact absurd hi (Nat.not_lt_zero _)
    · exact ih b hb hzero

theorem Inside.count_ne_zero {l : Layout} (exact : l.Exact) {index : List Nat}
    (inside : Inside l.axes index) : l.count ≠ 0 := by
  rw [Ne, exact.count_eq_zero_iff]
  intro hzero
  obtain ⟨a, ha, hextent⟩ := List.mem_map.mp hzero
  exact inside.extent_ne_zero a ha hextent

/-- The odometer stays inside. -/
theorem Inside.advance {axes : List Axis} {index : List Nat} (h : Inside axes index) :
    Inside axes (advance axes index).1 := by
  induction h with
  | nil => exact .nil
  | @cons a i axes index hi _ ih =>
    simp only [TensorExchange.advance]
    split
    case isTrue =>
      split
      case isTrue hnext => exact .cons hnext ih
      case isFalse => exact .cons (Nat.lt_of_le_of_lt (Nat.zero_le i) hi) ih
    case isFalse => exact .cons hi ih

theorem Axis.mul_stride_mem {a : Axis} {i : Nat} (hi : i < a.extent.toNat) (size : Nat) :
    min (a.reach size) 0 ≤ i * a.stride.toInt * size ∧
      i * a.stride.toInt * size ≤ max (a.reach size) 0 := by
  have hi0 : (0 : Int) ≤ i := Int.natCast_nonneg i
  have hsize : (0 : Int) ≤ size := Int.natCast_nonneg size
  have hlast : (i : Int) ≤ (a.extent.toNat : Int) - 1 := by omega
  rcases Int.le_total 0 a.stride.toInt with hup | hdown
  · have hlow : 0 ≤ i * a.stride.toInt * size := mul_nonneg (mul_nonneg hi0 hup) hsize
    have hhigh : i * a.stride.toInt * size ≤ a.reach size :=
      mul_le_mul_of_nonneg_right (mul_le_mul_of_nonneg_right hlast hup) hsize
    omega
  · have hhigh : i * a.stride.toInt * size ≤ 0 :=
      mul_nonpos_of_nonpos_of_nonneg (mul_nonpos_of_nonneg_of_nonpos hi0 hdown) hsize
    have hlow : a.reach size ≤ i * a.stride.toInt * size :=
      mul_le_mul_of_nonneg_right (mul_le_mul_of_nonpos_right hlast hdown) hsize
    omega

/-- The element at an index lies between the lowest and the highest element. -/
theorem Inside.displacement_mem {axes : List Axis} {index : List Nat} (h : Inside axes index)
    (size : Nat) :
    lowest size axes ≤ displacement axes index * size ∧
      displacement axes index * size ≤ highest size axes := by
  induction h with
  | nil => simp [displacement]
  | @cons a i axes index hi _ ih =>
    obtain ⟨hlow, hhigh⟩ := Axis.mul_stride_mem hi size
    rw [displacement, add_mul, lowest_cons, highest_cons]
    omega

theorem Inside.congr {axes axes' : List Axis} {index : List Nat} (inside : Inside axes index)
    (same : axes'.map Axis.extent = axes.map Axis.extent) : Inside axes' index := by
  induction inside generalizing axes' with
  | nil =>
    rw [List.map_eq_nil_iff.mp same]
    exact .nil
  | cons hi _ ih =>
    cases axes' with
    | nil => cases same
    | cons a' axes' =>
      obtain ⟨hextent, hrest⟩ := List.cons.inj same
      exact .cons (hextent ▸ hi) (ih hrest)

end TensorExchange
