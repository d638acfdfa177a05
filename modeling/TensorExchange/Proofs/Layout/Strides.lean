import Mathlib.Algebra.Group.Nat.Even
import Mathlib.Data.Set.Function
import TensorExchange.Proofs.Layout.Order
import TensorExchange.Proofs.Layout.Rows

/-!
Strides: what the row-major strides of a shape are worth, whether it has elements or not.

The strides are multiplied up from the last axis outwards.  A product that leaves the signed
word is rounded, but an extent is taken for a signed word before that, and one above
`maxSize` comes out negative.

Main statement (`rowStrides_of_rowMajorStrides`), for every shape that has strides.  A shape
with elements has no such extent, nothing is rounded, and its strides number the elements
one by one: displacements are the numbers from 0 to the count, each of them once, and grow
in row-major order of the indices (`numbers`, `order`).

A shape without elements may have any extents.  There a stride is the product of the extents
further in as signed words, rounded.  The statement says exactly when that is the number of
elements further in, or the largest word if that is less (`exact`), and that a stride runs
backwards exactly after an odd number of extents above `maxSize` (`sign`).  So
`rowMajorStrides_backwards` has strides below zero, of a shape that nobody can step through,
and they are exported like any others.

`Rounds` relates the word that the walk has at some axis to the product without rounding.
It is weaker than equality with a rounded value, since rounding to both sides does not
commute with multiplying further; but it keeps the sign and, once the product is large, that
it is large, which is all that the statement needs.  One step is `Rounds.mul`, and the walk
is an induction on the shape (`rounds_strideWalk`).
-/

namespace TensorExchange

/-! ## Indices in the order of their numbers -/

section Ranks

variable {axes : List Axis} {index index' : List Nat}

/-- Of two numbers the one with the smaller first digit is less, whatever follows. -/
theorem digit_lt_iff {n i j r s : Nat} (hr : r < n) (hs : s < n) :
    i * n + r < j * n + s ↔ i < j ∨ i = j ∧ r < s := by
  rcases Nat.lt_trichotomy i j with hij | rfl | hij
  · have hstep := Nat.mul_le_mul_right n (Nat.succ_le_of_lt hij)
    rw [Nat.succ_mul] at hstep
    omega
  · omega
  · have hstep := Nat.mul_le_mul_right n (Nat.succ_le_of_lt hij)
    rw [Nat.succ_mul] at hstep
    omega

/-- Indices are numbered in the order of their positions, the outermost one first. -/
theorem Inside.rowRank_lt_iff (inside : Inside axes index) (inside' : Inside axes index') :
    rowRank axes index < rowRank axes index' ↔ index < index' := by
  induction inside generalizing index' with
  | nil =>
    cases inside'
    simp [rowRank]
  | cons _ tail ih =>
    cases inside' with
    | cons _ tail' =>
      rw [List.cons_lt_cons_iff, ← ih tail', rowRank, rowRank]
      exact digit_lt_iff (Inside.rowRank_lt tail) (Inside.rowRank_lt tail')

/-- Where the elements lie as their numbers say, each place up to the count is that of one
element. -/
theorem bijOn_displacement
    (places : ∀ index, Inside axes index → displacement axes index = rowRank axes index) :
    Set.BijOn (displacement axes) {index | Inside axes index}
      {k | 0 ≤ k ∧ k < volume (axes.map Axis.extent)} := by
  refine ⟨fun index inside => ?_, fun index inside index' inside' same => ?_, fun k hk => ?_⟩
  · have hlt : rowRank axes index < _ := Inside.rowRank_lt inside
    rw [places index inside]
    exact ⟨Int.natCast_nonneg _, Int.ofNat_lt.mpr hlt⟩
  · rw [places index inside, places index' inside', Int.natCast_inj] at same
    rw [← Inside.unravel_rowRank inside, same, Inside.unravel_rowRank inside']
  · obtain ⟨k, rfl⟩ := Int.eq_ofNat_of_zero_le hk.1
    have hk := Int.ofNat_lt.mp hk.2
    refine ⟨unravel axes k, inside_unravel hk, ?_⟩
    rw [places _ (inside_unravel hk), rowRank_unravel hk]

end Ranks

/-! ## Strides one by one -/

theorem getElem_strideWalk {shape : List UInt64} {i : Nat} (hi : i < (strideWalk shape).1.length) :
    (strideWalk shape).1[i] = (strideWalk (shape.drop (i + 1))).2 := by
  induction shape generalizing i with
  | nil => exact absurd hi (Nat.not_lt_zero i)
  | cons d ds ih =>
    cases i with
    | zero => rfl
    | succ i => exact ih (Nat.lt_of_succ_lt_succ hi)

/-! ## Rounded products -/

/-- The product of extents that are taken for signed words, an empty axis counting as one element
long.  Where no extent is above `maxSize` this is `rowStep`. -/
def signedStep (shape : List UInt64) : Int := (shape.map fun d => (max d 1).toInt64.toInt).prod

theorem signedStep_cons (d : UInt64) (ds : List UInt64) :
    signedStep (d :: ds) = (max d 1).toInt64.toInt * signedStep ds := by
  simp [signedStep]

/-- An extent above `maxSize` is taken for a negative word, which is no further from zero. -/
theorem toInt_toInt64_max_one (d : UInt64) :
    (maxSize < d.toNat → (max d 1).toInt64.toInt < 0) ∧
      (d.toNat ≤ maxSize → (max d 1).toInt64.toInt = (max d.toNat 1 : Nat)) ∧
      (max d 1).toInt64.toInt.natAbs ≤ max d.toNat 1 := by
  have hone := Layout.toNat_max_one d
  have hword : (max d 1).toInt64.toInt = ((max d 1).toNat : Int).bmod (2 ^ 64) :=
    BitVec.toInt_eq_toNat_bmod _
  have hbound := d.toNat_lt
  rw [hword, hone, Int.bmod_def]
  unfold maxSize
  omega

theorem signedStep_eq_rowStep {shape : List UInt64} (hshape : ∀ d ∈ shape, d.toNat ≤ maxSize) :
    signedStep shape = rowStep shape := by
  induction shape with
  | nil => rfl
  | cons d ds ih =>
    obtain ⟨_, hsmall, _⟩ := toInt_toInt64_max_one d
    rw [signedStep_cons, rowStep_cons, hsmall (hshape d (List.mem_cons_self ..)),
      ih fun x hx => hshape x (List.mem_cons_of_mem d hx), Nat.cast_mul]

theorem natAbs_signedStep_le (shape : List UInt64) : (signedStep shape).natAbs ≤ rowStep shape := by
  induction shape with
  | nil => exact le_rfl
  | cons d ds ih =>
    rw [signedStep_cons, rowStep_cons, Int.natAbs_mul]
    exact Nat.mul_le_mul (toInt_toInt64_max_one d).2.2 ih

/-- The word is the number if that is at most `maxSize` from zero; otherwise it lies on the same
side of zero, at least as far away. -/
structure Rounds (w : Int64) (p : Int) : Prop where
  sign : w.toInt ≠ 0 ∧ (0 < w.toInt ↔ 0 < p)
  small : p.natAbs ≤ maxSize → w.toInt = p
  large : maxSize < p.natAbs → maxSize ≤ w.toInt.natAbs

theorem Rounds.ne_zero {w : Int64} {p : Int} (r : Rounds w p) : p ≠ 0 := by
  rintro rfl
  exact r.sign.1 (r.small (Nat.zero_le _))

theorem Rounds.mul {w c : Int64} {p : Int} (r : Rounds w p) (hc : c.toInt ≠ 0) :
    Rounds (saturatingMul w c) (c.toInt * p) := by
  have hmax : maxSize = 2 ^ 63 - 1 := rfl
  have hword := Layout.toInt_saturatingMul_clamp w c
  have hne : w.toInt * c.toInt ≠ 0 := mul_ne_zero r.sign.1 hc
  have hsign : 0 < w.toInt * c.toInt ↔ 0 < c.toInt * p := by
    have := r.ne_zero
    have := r.sign
    rw [mul_pos_iff, mul_pos_iff]
    omega
  have habs : (c.toInt * p).natAbs = c.toInt.natAbs * p.natAbs := Int.natAbs_mul ..
  have hgrows : 0 < c.toInt.natAbs := Int.natAbs_pos.mpr hc
  have hexact : p.natAbs ≤ maxSize → w.toInt * c.toInt = c.toInt * p := fun h => by
    rw [r.small h, mul_comm]
  constructor
  case sign =>
    rw [← hsign, hword]
    omega
  case small =>
    intro hsmall
    have hp : p.natAbs ≤ maxSize := by
      have := Nat.le_mul_of_pos_left p.natAbs hgrows
      omega
    rw [hword, hexact hp]
    omega
  case large =>
    intro hlarge
    have hfar : maxSize ≤ (w.toInt * c.toInt).natAbs := by
      by_cases hp : p.natAbs ≤ maxSize
      · rw [hexact hp]
        exact hlarge.le
      · have hw := r.large (Nat.lt_of_not_le hp)
        rw [Int.natAbs_mul]
        exact hw.trans (Nat.le_mul_of_pos_right _ hgrows)
    rw [hword]
    omega

theorem Rounds.toInt_eq {w : Int64} {p : Int} (r : Rounds w p) (hp : 0 < p) :
    w.toInt = min (maxSize : Int) p := by
  have hmax : maxSize = 2 ^ 63 - 1 := rfl
  have hpos := r.sign.2.mpr hp
  have hword := w.toInt_lt
  by_cases hsmall : p.natAbs ≤ maxSize
  · rw [r.small hsmall]
    omega
  · have := r.large (Nat.lt_of_not_le hsmall)
    omega

theorem rounds_strideWalk (shape : List UInt64) :
    Rounds (strideWalk shape).2 (signedStep shape) := by
  induction shape with
  | nil => exact ⟨by decide, fun _ => rfl, fun h => absurd h (by decide)⟩
  | cons d ds ih =>
    obtain ⟨hlarge, hsmall, _⟩ := toInt_toInt64_max_one d
    have hne : (max d 1).toInt64.toInt ≠ 0 := by
      rcases Nat.lt_or_ge maxSize d.toNat with hd | hd
      · exact (hlarge hd).ne
      · have := hsmall hd
        omega
    rw [signedStep_cons]
    exact ih.mul hne

/-- The product is positive after an even number of extents above `maxSize`. -/
theorem signedStep_pos_iff (shape : List UInt64) :
    0 < signedStep shape ↔ Even (shape.countP fun d => maxSize < d.toNat) := by
  induction shape with
  | nil => decide
  | cons d ds ih =>
    have hne := (rounds_strideWalk ds).ne_zero
    obtain ⟨hlarge, hsmall, _⟩ := toInt_toInt64_max_one d
    rw [signedStep_cons, List.countP_cons]
    by_cases hd : maxSize < d.toNat
    · have hneg := hlarge hd
      rw [if_pos (by simpa using hd), Nat.even_add_one, ← ih, mul_pos_iff]
      omega
    · have hpos : 0 < (max d 1).toInt64.toInt := by
        have := hsmall (Nat.le_of_not_lt hd)
        omega
      rw [mul_pos_iff_of_pos_left hpos, if_neg (by simpa using hd), Nat.add_zero, ih]

/-- A stride is what a step is worth, rounded, exactly if no extent further in is above `maxSize` or
the signed product of them is as large as that all the same. -/
theorem strideWalk_eq_iff (shape : List UInt64) :
    (strideWalk shape).2.toInt = (min maxSize (rowStep shape) : Nat) ↔
      (∀ d ∈ shape, d.toNat ≤ maxSize) ∨ maxSize ≤ signedStep shape := by
  have rounds := rounds_strideWalk shape
  have hpos := rowStep_pos shape
  have hmax : 0 < maxSize := by decide
  constructor
  · intro h
    rw [or_iff_not_imp_left]
    intro hlarge
    obtain ⟨d, hd, hbig⟩ : ∃ d ∈ shape, maxSize < d.toNat := by simpa using hlarge
    have hdvd : max d.toNat 1 ∣ rowStep shape := List.dvd_prod (List.mem_map_of_mem hd)
    have hstep := Nat.le_of_dvd hpos hdvd
    have := rounds.toInt_eq (rounds.sign.2.mp (by omega))
    omega
  · rintro (hsmall | hlarge)
    · have hsigned := signedStep_eq_rowStep hsmall
      rw [rounds.toInt_eq (by omega), hsigned]
      omega
    · have hle := natAbs_signedStep_le shape
      rw [rounds.toInt_eq (by omega)]
      omega

/-! ## Row-major strides -/

/-- What the row-major strides of a shape are worth. -/
structure RowStrides (shape : List UInt64) (strides : List Int64) : Prop where
  layout : Layout.contiguous shape = .ok ⟨List.zipWith Axis.mk shape strides, 0⟩
  length : strides.length = shape.length
  /-- A stride is what a step is worth, or the largest word if that is less, exactly if no extent
  further in is above `maxSize` or the signed product of them is as large as that all the same. -/
  exact : ∀ (i : Nat) (hi : i < strides.length),
    strides[i].toInt = (min maxSize (rowStep (shape.drop (i + 1))) : Nat) ↔
      (∀ d ∈ shape.drop (i + 1), d.toNat ≤ maxSize) ∨ maxSize ≤ signedStep (shape.drop (i + 1))
  /-- It runs backwards after an odd number of extents above `maxSize`. -/
  sign : ∀ (i : Nat) (hi : i < strides.length),
    strides[i].toInt ≠ 0 ∧
      (0 < strides[i].toInt ↔ Even ((shape.drop (i + 1)).countP fun d => maxSize < d.toNat))
  /-- With elements there, no extent comes out negative and no product is rounded. -/
  unrounded : 0 ∉ shape →
    (∀ d ∈ shape, d.toNat ≤ maxSize) ∧ (∀ i, volume (shape.drop i) ≤ maxSize) ∧
      ∀ (i : Nat) (hi : i < strides.length),
        0 < strides[i].toInt ∧ strides[i].toInt = volume (shape.drop (i + 1))
  numbers : Set.BijOn (displacement (List.zipWith Axis.mk shape strides))
    {index | Inside (List.zipWith Axis.mk shape strides) index} {k | 0 ≤ k ∧ k < volume shape}
  order : ∀ index index', Inside (List.zipWith Axis.mk shape strides) index →
    Inside (List.zipWith Axis.mk shape strides) index' →
      (displacement (List.zipWith Axis.mk shape strides) index <
          displacement (List.zipWith Axis.mk shape strides) index' ↔ index < index')

variable {shape : List UInt64}

theorem rowMajorStrides_eq_ok_iff {strides : List Int64} :
    rowMajorStrides shape = .ok strides ↔
      checkShape shape = .ok () ∧ strides = (strideWalk shape).1 := by
  simp only [rowMajorStrides, bind_eq_ok, pure_eq_ok]
  constructor
  · rintro ⟨_, hcheck, rfl⟩
    exact ⟨hcheck, rfl⟩
  · rintro ⟨hcheck, rfl⟩
    exact ⟨(), hcheck, rfl⟩

theorem Layout.displacement_of_contiguous {l : Layout} (ok : contiguous shape = .ok l)
    (index : List Nat) (inside : Inside l.axes index) :
    displacement l.axes index = rowRank l.axes index := by
  have exact := exact_of_contiguous ok
  have rows := exact.isContiguous_iff.mp (isContiguous_of_contiguous ok)
  have hne : 0 ∉ l.shape := mt exact.count_eq_zero_iff.mpr (inside.count_ne_zero exact)
  exact rows.resolve_left hne index inside

/-- Row-major strides number the elements, and where there is none they are still rounded products
of the extents further in, as signed words. -/
theorem rowStrides_of_rowMajorStrides {strides : List Int64}
    (ok : rowMajorStrides shape = .ok strides) : RowStrides shape strides := by
  obtain ⟨hcheck, rfl⟩ := rowMajorStrides_eq_ok_iff.mp ok
  have layout := Layout.contiguous_eq_ok_iff.mpr ⟨hcheck, rfl⟩
  have places := Layout.displacement_of_contiguous layout
  have hextents : (List.zipWith Axis.mk shape (strideWalk shape).1).map Axis.extent = shape :=
    Layout.map_extent_zipWith (Layout.length_strideWalk shape).symm
  constructor
  case layout => exact layout
  case length => exact Layout.length_strideWalk shape
  case exact =>
    intro i hi
    rw [getElem_strideWalk hi]
    exact strideWalk_eq_iff _
  case sign =>
    intro i hi
    have rounds := rounds_strideWalk (shape.drop (i + 1))
    rw [getElem_strideWalk hi, rounds.sign.2]
    exact ⟨rounds.sign.1, signedStep_pos_iff _⟩
  case unrounded =>
    intro hne
    have hwords : ∀ d ∈ shape, d.toNat ≤ maxSize := fun d hd =>
      Nat.le_of_lt_succ (extents_lt_of_checkShape hcheck (mt volume_eq_zero_iff.mp hne) d hd)
    have hroom : ∀ i, volume (shape.drop i) ≤ maxSize := fun i =>
      (volume_le_of_mem_tails hne ((List.mem_tails _ _).mpr (List.drop_suffix i shape))).trans
        (volume_le_of_checkShape hcheck)
    refine ⟨hwords, hroom, fun i hi => ?_⟩
    have hpos : 0 < volume (shape.drop (i + 1)) :=
      Nat.pos_of_ne_zero fun h => hne (List.mem_of_mem_drop (volume_eq_zero_iff.mp h))
    have hall := toInt_strideWalk_of_ne_zero hne hcheck
    have hi' : i < ((strideWalk shape).1.map Int64.toInt).length := by simpa using hi
    have hstride : ((strideWalk shape).1.map Int64.toInt)[i] = volume (shape.drop (i + 1)) := by
      simp [hall]
    rw [List.getElem_map] at hstride
    rw [hstride]
    exact ⟨Int.natCast_pos.mpr hpos, rfl⟩
  case numbers =>
    have hbij := bijOn_displacement places
    rwa [hextents] at hbij
  case order =>
    intro index index' inside inside'
    rw [places index inside, places index' inside', Int.ofNat_lt]
    exact inside.rowRank_lt_iff inside'

/-- No elements, and a product further in that leaves the signed word. -/
theorem rowStrides_rounded :
    rowMajorStrides [3, 0, 0x4000000000000000, 4] =
        .ok [0x7fffffffffffffff, 0x7fffffffffffffff, 4, 1] ∧
      RowStrides [3, 0, 0x4000000000000000, 4] [0x7fffffffffffffff, 0x7fffffffffffffff, 4, 1] ∧
      rowStep [0, 0x4000000000000000, 4] = 0x10000000000000000 := by
  have ok : rowMajorStrides [3, 0, 0x4000000000000000, 4] =
      .ok [0x7fffffffffffffff, 0x7fffffffffffffff, 4, 1] := by decide +kernel
  exact ⟨ok, rowStrides_of_rowMajorStrides ok, by decide +kernel⟩

/-- No elements, and an extent further in that is no signed word: the stride runs backwards and
is not the largest word. -/
theorem rowMajorStrides_backwards :
    rowMajorStrides [0, 0x8000000000000000] = .ok [-0x8000000000000000, 1] ∧
      (-0x8000000000000000 : Int64).toInt < 0 ∧
      min maxSize (rowStep [0x8000000000000000]) = 0x7fffffffffffffff := by
  decide +kernel

end TensorExchange
