import Mathlib.Algebra.Order.Ring.Nat
import Mathlib.Algebra.BigOperators.Group.List.Lemmas
import TensorExchange.Layout.Order
import TensorExchange.Proofs.Layout.Hull

/-!
Packed layouts: elements that follow one another without gaps.

Everything about packed rows that does not mention an index is here, in three steps.

The volume of a shape is the product of its extents as natural numbers.  The extents of a
layout that was built multiply to a word, which is `Layout.Exact`, so counting in word
arithmetic is exact.  Each way to build a layout is inverted once (`strided_eq_ok_iff`,
`contiguous_eq_ok_iff`, `reshaped_eq_ok`); nobody else opens a constructor.

Row-major strides make a packed layout (`isContiguous_of_contiguous`).  The walk that makes
them starts at the last axis and the check that compares them starts there too, but the one
counts empty axes as one element long; where there are elements, they agree.

A packed layout with elements reaches exactly the bytes of its elements, from its first one
on (`span_of_isContiguous`), so it fits in memory exactly if those bytes do
(`fits_of_isContiguous`, `room_of_fits`).  The proof follows the check of the strides and
keeps `Expects`: the word that the next stride is compared with is the number of elements
further in, or no axis with a second element is left and it does not matter.

A reshape gives packed rows with the same count, so it fits where the old layout did
(`fits_of_reshaped`) without being checked against memory again.
-/

namespace TensorExchange

/-! ## Counting -/

/-- The product of extents, as a number. -/
def volume (shape : List UInt64) : Nat := (shape.map UInt64.toNat).prod

@[simp] theorem volume_nil : volume [] = 1 := rfl

@[simp] theorem volume_cons (d : UInt64) (ds : List UInt64) :
    volume (d :: ds) = d.toNat * volume ds := by
  simp [volume]

theorem volume_append (shape more : List UInt64) :
    volume (shape ++ more) = volume shape * volume more := by
  simp [volume]

theorem volume_reverse (shape : List UInt64) : volume shape.reverse = volume shape := by
  simp [volume, List.map_reverse, List.prod_reverse]

theorem volume_eq_zero_iff {shape : List UInt64} : volume shape = 0 ↔ 0 ∈ shape := by
  induction shape with
  | nil => simp
  | cons d ds ih =>
    rw [volume_cons, Nat.mul_eq_zero, ih, List.mem_cons, ← UInt64.toNat_inj (a := 0)]
    exact or_congr_left eq_comm

theorem countFrom?_eq_some {shape : List UInt64} : ∀ {k n : Nat}, k < wordBound →
    countFrom? k shape = some n → n = k * volume shape ∧ n < wordBound := by
  induction shape with
  | nil =>
    intro k n hk h
    obtain rfl := Option.some.inj h
    exact ⟨(Nat.mul_one k).symm, hk⟩
  | cons d ds ih =>
    intro k n _ h
    unfold countFrom? at h
    split at h
    next hk =>
      obtain ⟨rfl, hn⟩ := ih hk h
      exact ⟨by rw [volume_cons, Nat.mul_assoc], hn⟩
    next => cases h

theorem count?_eq_some {shape : List UInt64} {n : Nat} (h : count? shape = some n) :
    n = volume shape ∧ n < wordBound := by
  have := countFrom?_eq_some (by decide) h
  rwa [Nat.one_mul] at this

theorem countFrom?_of_prefixes {shape : List UInt64} : ∀ {k : Nat},
    (∀ j, k * volume (shape.take j) < wordBound) →
      countFrom? k shape = some (k * volume shape) := by
  induction shape with
  | nil => simp [countFrom?]
  | cons d ds ih =>
    intro k steps
    have hfirst : k * d.toNat < wordBound := by simpa using steps 1
    have hrest : ∀ j, k * d.toNat * volume (ds.take j) < wordBound := fun j => by
      simpa [Nat.mul_assoc] using steps (j + 1)
    rw [countFrom?, if_pos hfirst, ih hrest, volume_cons, Nat.mul_assoc]

theorem count?_of_prefixes {shape : List UInt64}
    (steps : ∀ j, volume (shape.take j) < wordBound) : count? shape = some (volume shape) := by
  have h : countFrom? 1 shape = _ :=
    countFrom?_of_prefixes fun j => (Nat.one_mul _).symm ▸ steps j
  rwa [Nat.one_mul] at h

theorem volume_le_of_checkShape {shape : List UInt64} (h : checkShape shape = .ok ()) :
    volume shape ≤ maxSize := by
  unfold checkShape at h
  split at h
  next n hn =>
    obtain ⟨rfl, _⟩ := count?_eq_some hn
    split at h
    · assumption
    · cases h
  next => cases h

theorem extent_le_volume {shape : List UInt64} (hne : volume shape ≠ 0) {d : UInt64}
    (hd : d ∈ shape) : d.toNat ≤ volume shape :=
  Nat.le_of_dvd (Nat.pos_of_ne_zero hne) (List.dvd_prod (List.mem_map_of_mem hd))

/-- Extents of a counted shape with elements fit in signed words. -/
theorem extents_lt_of_checkShape {shape : List UInt64} (hcheck : checkShape shape = .ok ())
    (hne : volume shape ≠ 0) : ∀ d ∈ shape, d.toNat < 2 ^ 63 := by
  intro d hd
  have hvolume := volume_le_of_checkShape hcheck
  have hle := extent_le_volume hne hd
  unfold maxSize at hvolume
  omega

namespace Layout

theorem count_foldl (axes : List Axis) (k : UInt64) :
    (axes.foldl (fun n a => n * a.extent) k).toNat =
      k.toNat * volume (axes.map Axis.extent) % wordBound := by
  induction axes generalizing k with
  | nil => simp [wordBound]
  | cons a axes ih =>
    rw [List.foldl_cons, ih, UInt64.toNat_mul, List.map_cons, volume_cons, wordBound,
      Nat.mod_mul_mod, Nat.mul_assoc]

/-- The extents multiply to a word. -/
def Exact (l : Layout) : Prop := volume l.shape < wordBound

theorem Exact.count_eq {l : Layout} (h : l.Exact) : l.count = volume l.shape := by
  unfold count
  rw [count_foldl, UInt64.toNat_one, Nat.one_mul]
  exact Nat.mod_eq_of_lt h

theorem Exact.count_eq_zero_iff {l : Layout} (exact : l.Exact) : l.count = 0 ↔ 0 ∈ l.shape := by
  rw [exact.count_eq, volume_eq_zero_iff]

theorem Exact.extent_ne_zero {l : Layout} (h : l.Exact) (hcount : l.count ≠ 0) :
    ∀ a ∈ l.axes, a.extent ≠ 0 := by
  intro a ha hzero
  exact hcount (h.count_eq_zero_iff.mpr (hzero ▸ List.mem_map_of_mem ha))

theorem extents_lt_of_counted {l : Layout} (counted : checkShape l.shape = .ok ())
    (hcount : l.count ≠ 0) : ∀ d ∈ l.shape, d.toNat < 2 ^ 63 := by
  have exact : l.Exact := Nat.lt_of_le_of_lt (volume_le_of_checkShape counted) (by decide)
  exact extents_lt_of_checkShape counted (exact.count_eq ▸ hcount)

/-! ## Building layouts -/

theorem map_extent_zipWith : ∀ {shape : List UInt64} {strides : List Int64},
    shape.length = strides.length → (List.zipWith Axis.mk shape strides).map Axis.extent = shape
  | [], [], _ => rfl
  | d :: ds, s :: ss, h => by
    rw [List.zipWith_cons_cons, List.map_cons, map_extent_zipWith (Nat.succ.inj h)]

theorem map_stride_zipWith : ∀ {shape : List UInt64} {strides : List Int64},
    shape.length = strides.length → (List.zipWith Axis.mk shape strides).map Axis.stride = strides
  | [], [], _ => rfl
  | d :: ds, s :: ss, h => by
    rw [List.zipWith_cons_cons, List.map_cons, map_stride_zipWith (Nat.succ.inj h)]

theorem zipWith_axes (axes : List Axis) :
    List.zipWith Axis.mk (axes.map Axis.extent) (axes.map Axis.stride) = axes := by
  induction axes with
  | nil => rfl
  | cons a axes ih => rw [List.map_cons, List.map_cons, List.zipWith_cons_cons, ih]

theorem strided_eq_ok_iff {shape : List UInt64} {strides : List Int64} {byteOffset : UInt64}
    {l : Layout} :
    strided shape strides byteOffset = .ok l ↔
      (l.shape = shape ∧ l.strides = strides ∧ l.byteOffset = byteOffset) ∧
        checkShape shape = .ok () := by
  unfold strided
  constructor
  · intro h
    split at h
    case isTrue => cases h
    case isFalse hlength =>
      obtain ⟨_, hcheck, h⟩ := bind_eq_ok.mp h
      obtain rfl := pure_eq_ok.mp h
      have hlength := Decidable.not_not.mp hlength
      exact ⟨⟨map_extent_zipWith hlength, map_stride_zipWith hlength, rfl⟩, hcheck⟩
  · rintro ⟨⟨rfl, rfl, rfl⟩, hcheck⟩
    have hlength : l.shape.length = l.strides.length := by simp [shape, strides]
    rw [if_neg (not_not.mpr hlength)]
    refine bind_eq_ok.mpr ⟨(), hcheck, ?_⟩
    rw [shape, strides, zipWith_axes]
    rfl

theorem exact_of_strided {shape : List UInt64} {strides : List Int64} {byteOffset : UInt64}
    {l : Layout} (h : strided shape strides byteOffset = .ok l) : l.Exact := by
  obtain ⟨⟨hshape, _⟩, hcheck⟩ := strided_eq_ok_iff.mp h
  have := volume_le_of_checkShape hcheck
  unfold Exact
  rw [hshape]
  exact Nat.lt_of_le_of_lt this (by decide)

/-! ## Row-major strides -/

theorem length_strideWalk (shape : List UInt64) : (strideWalk shape).1.length = shape.length := by
  induction shape with
  | nil => rfl
  | cons d ds ih => exact congrArg Nat.succ ih

theorem contiguous_eq_ok_iff {shape : List UInt64} {l : Layout} :
    contiguous shape = .ok l ↔
      checkShape shape = .ok () ∧ l = ⟨List.zipWith Axis.mk shape (strideWalk shape).1, 0⟩ := by
  simp only [contiguous, rowMajorStrides, bind_eq_ok, pure_eq_ok]
  constructor
  · rintro ⟨_, ⟨⟨⟩, hcheck, rfl⟩, rfl⟩
    exact ⟨hcheck, rfl⟩
  · rintro ⟨hcheck, rfl⟩
    exact ⟨_, ⟨(), hcheck, rfl⟩, rfl⟩

theorem shape_of_contiguous {shape : List UInt64} {l : Layout} (h : contiguous shape = .ok l) :
    l.shape = shape := by
  obtain ⟨_, rfl⟩ := contiguous_eq_ok_iff.mp h
  exact map_extent_zipWith (length_strideWalk shape).symm

theorem byteOffset_of_contiguous {shape : List UInt64} {l : Layout}
    (h : contiguous shape = .ok l) : l.byteOffset = 0 := by
  obtain ⟨_, rfl⟩ := contiguous_eq_ok_iff.mp h
  rfl

theorem exact_of_contiguous {shape : List UInt64} {l : Layout} (h : contiguous shape = .ok l) :
    l.Exact := by
  have := volume_le_of_checkShape (contiguous_eq_ok_iff.mp h).1
  unfold Exact
  rw [shape_of_contiguous h]
  exact Nat.lt_of_le_of_lt this (by decide)

theorem count_of_contiguous {shape : List UInt64} {l : Layout} (h : contiguous shape = .ok l) :
    l.count = volume shape := by
  rw [(exact_of_contiguous h).count_eq, shape_of_contiguous h]

/-- The stride that an axis outside of these would have if they are packed. -/
def outerStride (e : Int64) (axes : List Axis) : Int64 :=
  axes.foldl (fun e a => saturatingMul e a.extent.toInt64) e

theorem compactFrom_append (axes more : List Axis) (e : Int64) :
    compactFrom e (axes ++ more) =
      (compactFrom e axes && compactFrom (outerStride e axes) more) := by
  induction axes generalizing e with
  | nil => simp [compactFrom, outerStride]
  | cons a axes ih => simp [compactFrom, outerStride, ih, Bool.and_assoc]

theorem toNat_max_one (d : UInt64) : (max d 1).toNat = max d.toNat 1 := by
  change (if d ≤ 1 then 1 else d).toNat = max d.toNat 1
  split
  case isTrue hle =>
    have : d.toNat ≤ 1 := UInt64.le_iff_toNat_le.mp hle
    rw [UInt64.toNat_one]
    omega
  case isFalse hlt =>
    have : ¬ d.toNat ≤ 1 := fun h => hlt (UInt64.le_iff_toNat_le.mpr h)
    omega

/-- The strides of the walk are those that packed axes have, and it goes on with the right one. -/
theorem compactFrom_strideWalk {shape : List UInt64} (h : ∀ d ∈ shape, d ≠ 0) :
    compactFrom 1 (List.zipWith Axis.mk shape (strideWalk shape).1).reverse = true ∧
      outerStride 1 (List.zipWith Axis.mk shape (strideWalk shape).1).reverse =
        (strideWalk shape).2 := by
  induction shape with
  | nil => exact ⟨rfl, rfl⟩
  | cons d ds ih =>
    obtain ⟨hcompact, houter⟩ := ih fun x hx => h x (List.mem_cons_of_mem d hx)
    have hmax : max d 1 = d := by
      have hd : d.toNat ≠ 0 := fun hzero =>
        h d (List.mem_cons_self ..) (UInt64.toNat_inj.mp hzero)
      exact UInt64.toNat_inj.mp ((toNat_max_one d).trans (max_eq_left (by omega)))
    simp only [strideWalk, List.zipWith_cons_cons, List.reverse_cons, compactFrom_append, hcompact,
      houter, Bool.true_and, hmax]
    constructor
    · simp [compactFrom]
    · simp only [outerStride, List.foldl_append, List.foldl_cons, List.foldl_nil] at houter ⊢
      rw [houter]

theorem isContiguous_of_contiguous {shape : List UInt64} {l : Layout}
    (h : contiguous shape = .ok l) : l.isContiguous = true := by
  by_cases hcount : l.count = 0
  · simp [isContiguous, hcount]
  · have hne := (exact_of_contiguous h).extent_ne_zero hcount
    obtain ⟨_, rfl⟩ := contiguous_eq_ok_iff.mp h
    have hshape : ∀ d ∈ shape, d ≠ 0 := by
      intro d hd
      rw [← map_extent_zipWith (length_strideWalk shape).symm] at hd
      obtain ⟨a, ha, rfl⟩ := List.mem_map.mp hd
      exact hne a ha
    unfold isContiguous
    rw [(compactFrom_strideWalk hshape).1, Bool.or_true]

/-! ## What packed axes reach -/

theorem toInt_toInt64 {x : UInt64} (h : x.toNat < 2 ^ 63) : x.toInt64.toInt = x.toNat :=
  BitVec.toInt_eq_toNat_of_lt (by simpa using by omega)

/-- A product is rounded to the nearest word. -/
theorem toInt_saturatingMul_clamp (e x : Int64) :
    (saturatingMul e x).toInt = max (-2 ^ 63) (min (e.toInt * x.toInt) (2 ^ 63 - 1)) := by
  rw [saturatingMul, nearestWord, signedBound, Int64.toInt_ofInt_of_le (by omega) (by omega)]
  rfl

theorem toInt_saturatingMul {e x : Int64} (hlow : -2 ^ 63 ≤ e.toInt * x.toInt)
    (hhigh : e.toInt * x.toInt < 2 ^ 63) : (saturatingMul e x).toInt = e.toInt * x.toInt := by
  rw [toInt_saturatingMul_clamp]
  omega

theorem volume_pos {axes : List Axis} (h : ∀ a ∈ axes, a.extent ≠ 0) :
    0 < volume (axes.map Axis.extent) := by
  refine Nat.pos_of_ne_zero fun hzero => ?_
  obtain ⟨a, ha, ha0⟩ := List.mem_map.mp (volume_eq_zero_iff.mp hzero)
  exact h a ha ha0

/-- The expected stride is the product of the extents further in, unless it left the word: then
the axes that are left have one element each. -/
def Expects (e : Int64) (n : Nat) (axes : List Axis) : Prop :=
  e.toInt = n ∨ volume (axes.map Axis.extent) = 1

theorem Expects.outer {e : Int64} {n : Nat} {a : Axis} {axes : List Axis}
    (h : Expects e n (a :: axes)) (hn : 0 < n) (hpos : 0 < volume (axes.map Axis.extent))
    (hword : n * a.extent.toNat * volume (axes.map Axis.extent) < wordBound) :
    Expects (saturatingMul e a.extent.toInt64) (n * a.extent.toNat) axes := by
  rcases h with he | hvolume
  · by_cases hfits : n * a.extent.toNat < 2 ^ 63
    · have hle := Nat.le_mul_of_pos_left a.extent.toNat hn
      have hprod : e.toInt * a.extent.toInt64.toInt = (n * a.extent.toNat : Nat) := by
        rw [he, toInt_toInt64 (by omega), Int.natCast_mul]
      exact .inl ((toInt_saturatingMul (by omega) (by omega)).trans hprod)
    · -- there is no room for a second element in the axes that are left
      refine .inr (Nat.le_antisymm (Nat.not_lt.mp fun htwo => ?_) hpos)
      have := Nat.mul_le_mul (Nat.not_lt.mp hfits) htwo
      rw [wordBound] at hword
      omega
  · rw [List.map_cons, volume_cons] at hvolume
    exact .inr (Nat.eq_one_of_mul_eq_one_left hvolume)

/-- A packed axis reaches as far as its elements follow one another. -/
theorem reach_of_expects {e : Int64} {n size : Nat} {a : Axis} {axes : List Axis}
    (h : Expects e n (a :: axes)) (hhere : (a.extent == 1 || a.stride == e) = true) :
    a.reach size = ((n * a.extent.toNat : Nat) - n : Int) * size := by
  have hone : a.extent.toNat = 1 → a.reach size = ((n * a.extent.toNat : Nat) - n : Int) * size :=
    fun hone => by simp [Axis.reach, hone]
  rcases Bool.or_eq_true_iff.mp hhere with hextent | hexpected
  · exact hone (by rw [beq_iff_eq.mp hextent, UInt64.toNat_one])
  · rcases h with he | hvolume
    · rw [Axis.reach, beq_iff_eq.mp hexpected, he]
      push_cast
      ring
    · rw [List.map_cons, volume_cons] at hvolume
      exact hone (Nat.eq_one_of_mul_eq_one_right hvolume)

/-- Packed axes, innermost first, whose strides begin with `n`: they reach upwards, from the first
of `n` times as many elements as they have to the last that is a multiple of `n`. -/
theorem hull_of_compactFrom {size : Nat} : ∀ {axes : List Axis} {e : Int64} {n : Nat},
    compactFrom e axes = true → (∀ a ∈ axes, a.extent ≠ 0) → 0 < n →
      n * volume (axes.map Axis.extent) < wordBound → Expects e n axes →
        lowest size axes = 0 ∧
          highest size axes = ((n * volume (axes.map Axis.extent) : Nat) - n : Int) * size := by
  intro axes
  induction axes with
  | nil => intro e n _ _ _ _ _; simp
  | cons a axes ih =>
    intro e n hcompact hne hn hword hexpects
    obtain ⟨hhere, hrest⟩ := Bool.and_eq_true_iff.mp hcompact
    have hx := Axis.extent_pos (hne a (List.mem_cons_self ..))
    have hne' : ∀ b ∈ axes, b.extent ≠ 0 := fun b hb => hne b (List.mem_cons_of_mem a hb)
    rw [List.map_cons, volume_cons, ← Nat.mul_assoc] at hword ⊢
    have houter := hexpects.outer hn (volume_pos hne') hword
    obtain ⟨hlow, hhigh⟩ := ih hrest hne' (Nat.mul_pos hn hx) hword houter
    have hreach : a.reach size = ((n * a.extent.toNat : Nat) - n : Int) * size :=
      reach_of_expects hexpects hhere
    have hnonneg : 0 ≤ a.reach size := by
      have : (n : Int) ≤ (n * a.extent.toNat : Nat) :=
        Int.ofNat_le.mpr (Nat.le_mul_of_pos_right n hx)
      rw [hreach]
      exact mul_nonneg (by omega) (Int.natCast_nonneg size)
    rw [lowest_cons, highest_cons, hlow, hhigh, min_eq_right hnonneg, max_eq_left hnonneg, hreach]
    refine ⟨rfl, ?_⟩
    push_cast
    ring

/-- A packed layout with elements reaches the bytes of its elements from its first one on. -/
theorem span_of_isContiguous {l : Layout} (exact : l.Exact) (h : l.isContiguous = true)
    (hne : l.count ≠ 0) (size : Nat) :
    l.start size = l.byteOffset.toNat ∧
      l.stop size = l.byteOffset.toNat + (l.count * size : Nat) := by
  have hcompact : compactFrom 1 l.axes.reverse = true := by
    simpa [isContiguous, hne] using h
  have hvolume : volume (l.axes.reverse.map Axis.extent) = l.count := by
    rw [List.map_reverse, volume_reverse, exact.count_eq, shape]
  have hextents : ∀ a ∈ l.axes.reverse, a.extent ≠ 0 := fun a ha =>
    exact.extent_ne_zero hne a (List.mem_reverse.mp ha)
  have hword : 1 * volume (l.axes.reverse.map Axis.extent) < wordBound := by
    rw [hvolume, Nat.one_mul, exact.count_eq]
    exact exact
  have hhull : lowest size l.axes.reverse = 0 ∧ highest size l.axes.reverse = _ :=
    hull_of_compactFrom hcompact hextents Nat.one_pos hword (.inl rfl)
  rw [lowest_reverse, highest_reverse, hvolume] at hhull
  obtain ⟨hlow, hhigh⟩ := hhull
  rw [start, stop, hlow, hhigh]
  refine ⟨by omega, ?_⟩
  push_cast
  ring

theorem fits_of_isContiguous {l : Layout} (exact : l.Exact) (h : l.isContiguous = true)
    {t : ElementType} {length : Nat}
    (room : l.byteOffset.toNat + l.count * t.size ≤ length) : l.Fits t.size length := by
  intro hne
  obtain ⟨hstart, hstop⟩ := span_of_isContiguous exact h hne t.size
  have hoff := l.byteOffset.toNat_lt
  have hcount : l.count < 2 ^ 64 := by
    rw [exact.count_eq]
    exact exact
  have := Nat.mul_le_mul (Nat.le_of_lt hcount) t.size_le_eight
  omega

/-- The elements of a packed layout that fits lie in memory, one after the other. -/
theorem room_of_fits {l : Layout} (exact : l.Exact) (h : l.isContiguous = true) {size length : Nat}
    (fits : l.Fits size length) (hne : l.count ≠ 0) :
    l.byteOffset.toNat + l.count * size ≤ length := by
  obtain ⟨_, hstop⟩ := span_of_isContiguous exact h hne size
  have := fits hne
  omega

/-! ## Reshaping -/

theorem count?_vector (n : UInt64) : count? (vector n).shape = some n.toNat := by
  simp only [count?, vector, shape, List.map_cons, List.map_nil, countFrom?, Nat.one_mul]
  exact if_pos n.toNat_lt

theorem vector_exact (n : UInt64) : (vector n).Exact := by
  simpa [Exact, vector, shape, wordBound] using n.toNat_lt

theorem vector_isContiguous (n : UInt64) : (vector n).isContiguous = true := by
  simp [vector, isContiguous, compactFrom]

/-- What a reshape is: packed rows of as many elements, moved to the same offset. -/
theorem exists_of_reshaped {l l' : Layout} {shape : List UInt64} (h : l.reshaped shape = .ok l') :
    count? shape = some l.count ∧
      ∃ packed, contiguous shape = .ok packed ∧
        l' = { packed with byteOffset := l.byteOffset } := by
  unfold reshaped at h
  split at h
  next => cases h
  next n hn =>
    obtain ⟨hcount, h⟩ := guard_eq_ok.mp h
    obtain ⟨packed, hpacked, h⟩ := bind_eq_ok.mp h
    exact ⟨Decidable.not_not.mp hcount ▸ hn, packed, hpacked, (pure_eq_ok.mp h).symm⟩

theorem reshaped_eq_ok {l l' : Layout} {shape : List UInt64} (h : l.reshaped shape = .ok l') :
    l'.count = l.count ∧ l'.byteOffset = l.byteOffset ∧ l'.Exact ∧ l'.isContiguous = true := by
  obtain ⟨hcount, packed, hpacked, rfl⟩ := exists_of_reshaped h
  have hexact := exact_of_contiguous hpacked
  have hcompact : packed.isContiguous = true := isContiguous_of_contiguous hpacked
  exact ⟨(count_of_contiguous hpacked).trans (count?_eq_some hcount).1.symm, rfl, hexact, hcompact⟩

theorem shape_of_reshaped {l l' : Layout} {shape : List UInt64} (h : l.reshaped shape = .ok l') :
    l'.shape = shape := by
  obtain ⟨_, packed, hpacked, rfl⟩ := exists_of_reshaped h
  exact (shape_of_contiguous hpacked : packed.shape = shape)

theorem counted_vector {n : UInt64} (hn : n.toNat ≤ maxSize) :
    checkShape (vector n).shape = .ok () := by
  rw [checkShape, count?_vector]
  exact if_pos hn

theorem counted_of_strided {shape : List UInt64} {strides : List Int64} {byteOffset : UInt64}
    {l : Layout} (ok : strided shape strides byteOffset = .ok l) : checkShape l.shape = .ok () := by
  obtain ⟨⟨hshape, _⟩, hcheck⟩ := strided_eq_ok_iff.mp ok
  exact hshape ▸ hcheck

theorem counted_of_contiguous {shape : List UInt64} {l : Layout}
    (ok : contiguous shape = .ok l) : checkShape l.shape = .ok () :=
  shape_of_contiguous ok ▸ (contiguous_eq_ok_iff.mp ok).1

theorem counted_of_reshaped {l l' : Layout} {shape : List UInt64}
    (ok : l.reshaped shape = .ok l') : checkShape l'.shape = .ok () := by
  obtain ⟨_, packed, hpacked, rfl⟩ := exists_of_reshaped ok
  exact counted_of_contiguous (l := packed) hpacked

theorem fits_of_reshaped {l l' : Layout} {t : ElementType} {length : Nat} {shape : List UInt64}
    (exact : l.Exact) (h : l.isContiguous = true) (fits : l.Fits t.size length)
    (ok : l.reshaped shape = .ok l') : l'.Fits t.size length := by
  obtain ⟨hcount, hoff, hexact, hpacked⟩ := reshaped_eq_ok ok
  intro hne
  refine fits_of_isContiguous hexact hpacked ?_ hne
  rw [hcount] at hne ⊢
  rw [hoff]
  exact room_of_fits exact h fits hne

end Layout

end TensorExchange
