import Mathlib.Data.List.Infix
import TensorExchange.Proofs.Layout.Packed

/-!
Rows: the strides of packed rows, in numbers.

The walk from the last axis outwards multiplies extents and rounds what leaves the signed
word.  An empty axis is counted as one element long, so that strides do not become zero.

Main statement (`toInt_strideWalk`): if no extent is above `maxSize`, each stride is

    min maxSize (Π max dₖ 1)      over the axes further in

so a shape without an empty axis gets the number of elements further in
(`toInt_strideWalk_of_ne_zero`), which the walk never has to round when the shape was
counted.  What becomes of extents above `maxSize`, which an empty shape may have, is in
`Proofs/Layout/Strides`.

`rowStep` is the product that is not rounded.  It is compared with the volume, which is zero
as soon as one axis is empty: the two agree without an empty axis, the volume of any first
axes is at most the step of all (`volume_take_le_rowStep`), and a shape whose step a signed
word holds passes every check of its size (`checkShape_of_rowStep`).  The last one is how
arrays of other libraries are admitted, which know their sizes as such products.

Rounding is harmless here for a simple reason: once a product was rounded to the largest
word, multiplying it with anything from one on leaves it there
(`toInt_saturatingMul_of_pos`).
-/

namespace TensorExchange

/-- How many elements a step is worth on the axis outside of these, an empty axis counting as one
element long. -/
def rowStep (shape : List UInt64) : Nat := (shape.map fun d => max d.toNat 1).prod

theorem rowStep_cons (d : UInt64) (ds : List UInt64) :
    rowStep (d :: ds) = max d.toNat 1 * rowStep ds := by
  simp [rowStep]

theorem rowStep_append (shape more : List UInt64) :
    rowStep (shape ++ more) = rowStep shape * rowStep more := by
  simp [rowStep]

theorem rowStep_pos (shape : List UInt64) : 0 < rowStep shape := by
  induction shape with
  | nil => exact Nat.one_pos
  | cons d ds ih =>
    rw [rowStep_cons]
    exact Nat.mul_pos (by omega) ih

theorem volume_le_rowStep (shape : List UInt64) : volume shape ≤ rowStep shape := by
  induction shape with
  | nil => exact le_rfl
  | cons d ds ih =>
    rw [volume_cons, rowStep_cons]
    exact Nat.mul_le_mul (Nat.le_max_left ..) ih

theorem rowStep_eq_volume {shape : List UInt64} (hne : 0 ∉ shape) :
    rowStep shape = volume shape := by
  induction shape with
  | nil => rfl
  | cons d ds ih =>
    rw [List.mem_cons, not_or] at hne
    have hpos : d.toNat ≠ 0 := fun h => hne.1 (UInt64.toNat_inj.mp h.symm)
    rw [rowStep_cons, volume_cons, ih hne.2, max_eq_left (by omega)]

theorem volume_filter_ne_zero (shape : List UInt64) :
    volume (shape.filter (· != 0)) = rowStep shape := by
  induction shape with
  | nil => rfl
  | cons d ds ih =>
    rw [rowStep_cons, ← ih]
    by_cases hzero : d = 0
    · simp [hzero]
    · have hpos : d.toNat ≠ 0 := fun h => hzero (UInt64.toNat_inj.mp h)
      rw [List.filter_cons_of_pos (by simpa using hzero), volume_cons, max_eq_left (by omega)]

/-- The extents so far multiply to at most what all of them do, an empty axis counting as one
element long. -/
theorem volume_take_le_rowStep (shape : List UInt64) (j : Nat) :
    volume (shape.take j) ≤ rowStep shape := by
  have hsplit : rowStep shape = rowStep (shape.take j) * rowStep (shape.drop j) := by
    rw [← rowStep_append, List.take_append_drop]
  rw [hsplit]
  exact (volume_le_rowStep _).trans (Nat.le_mul_of_pos_right _ (rowStep_pos _))

/-- The axes further in have no more elements than all of them. -/
theorem volume_le_of_mem_tails {shape inner : List UInt64} (hne : 0 ∉ shape)
    (hmem : inner ∈ shape.tails) : volume inner ≤ volume shape := by
  obtain ⟨outer, rfl⟩ := (List.mem_tails _ _).mp hmem
  have hpos : 0 < volume outer :=
    Nat.pos_of_ne_zero fun h => hne (List.mem_append_left _ (volume_eq_zero_iff.mp h))
  rw [volume_append]
  exact Nat.le_mul_of_pos_left _ hpos

/-- A shape is counted if its extents that are not zero multiply to a size. -/
theorem count?_of_rowStep {shape : List UInt64} (h : rowStep shape ≤ maxSize) :
    count? shape = some (volume shape) := by
  refine count?_of_prefixes fun j => ?_
  exact Nat.lt_of_le_of_lt ((volume_take_le_rowStep shape j).trans h) (by decide)

theorem checkShape_of_rowStep {shape : List UInt64} (h : rowStep shape ≤ maxSize) :
    checkShape shape = .ok () := by
  rw [checkShape, count?_of_rowStep h]
  exact if_pos ((volume_le_rowStep shape).trans h)

theorem toInt_saturatingMul_of_pos {e x : Int64} {n m : Nat} (he : e.toInt = (min maxSize n : Nat))
    (hx : x.toInt = m) (hm : 0 < m) : (saturatingMul e x).toInt = (min maxSize (m * n) : Nat) := by
  have hcut : min maxSize (m * n) = min maxSize (min maxSize n * m) := by
    have hlow : maxSize ≤ maxSize * m := Nat.le_mul_of_pos_right _ hm
    rcases Nat.le_total n maxSize with hn | hn
    · rw [min_eq_right hn, Nat.mul_comm]
    · have hhigh : maxSize ≤ m * n := hn.trans (Nat.le_mul_of_pos_left n hm)
      rw [min_eq_left hn, min_eq_left hlow, min_eq_left hhigh]
  have hmax : maxSize = 2 ^ 63 - 1 := rfl
  rw [hcut, Layout.toInt_saturatingMul_clamp, he, hx, ← Nat.cast_mul]
  omega

theorem toInt_strideWalk {shape : List UInt64} (hshape : ∀ d ∈ shape, d.toNat < 2 ^ 63) :
    (strideWalk shape).1.map Int64.toInt =
        shape.tails.tail.map (fun inner => ((min maxSize (rowStep inner) : Nat) : Int)) ∧
      (strideWalk shape).2.toInt = (min maxSize (rowStep shape) : Nat) := by
  induction shape with
  | nil => exact ⟨rfl, by decide⟩
  | cons d ds ih =>
    obtain ⟨hstrides, hnext⟩ := ih fun x hx => hshape x (List.mem_cons_of_mem d hx)
    have hd := hshape d (List.mem_cons_self ..)
    have htails : ds.tails = ds :: ds.tails.tail := by cases ds <;> simp
    have hword : (max d 1).toInt64.toInt = (max d.toNat 1 : Nat) := by
      have := Layout.toNat_max_one d
      rw [Layout.toInt_toInt64 (by omega), this]
    constructor
    · simp only [strideWalk, List.map_cons, List.tails_cons, List.tail_cons, hstrides, hnext]
      rw [htails]
      rfl
    · rw [rowStep_cons]
      exact toInt_saturatingMul_of_pos hnext hword (by omega)

theorem toInt_strideWalk_of_ne_zero {shape : List UInt64} (hne : 0 ∉ shape)
    (hcheck : checkShape shape = .ok ()) :
    (strideWalk shape).1.map Int64.toInt =
      shape.tails.tail.map fun inner => (volume inner : Int) := by
  have hvolume := volume_le_of_checkShape hcheck
  have hinner : ∀ inner ∈ shape.tails, volume inner ≤ maxSize := fun inner hmem =>
    (volume_le_of_mem_tails hne hmem).trans hvolume
  have hshape := extents_lt_of_checkShape hcheck (mt volume_eq_zero_iff.mp hne)
  rw [(toInt_strideWalk hshape).1]
  refine List.map_congr_left fun inner hmem => ?_
  have hmem := List.mem_of_mem_tail hmem
  have hne' : 0 ∉ inner := fun h => hne (((List.mem_tails _ _).mp hmem).subset h)
  rw [rowStep_eq_volume hne', min_eq_right (hinner inner hmem)]

end TensorExchange
