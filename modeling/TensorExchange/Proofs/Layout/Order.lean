import TensorExchange.Proofs.Layout.Corners
import TensorExchange.Proofs.Layout.Odometer

/-!
Order: which layouts are packed, and in which order.

The elements of a layout are numbered in two ways, with the last axis running fastest or
with the first.  A layout is checked by its strides alone: each one is compared with the
product of the extents further in, axes with one element being passed over.

Main statement (`Built.ordered`), for every layout that can be built: the strides pass
exactly if every element lies as far from the first one as its number says,

    isContiguous   ↔  no elements, or  displacement index = rowRank index     for every index
    isColumnMajor  ↔  no elements, or  displacement index = columnRank index  for every index

so the order that is reported is the one in which the elements lie, and a layout is reported
as strided exactly if they lie in neither.  A layout in both orders is reported as row-major.

Both directions have a difficulty.  The product that strides are compared with is rounded
where it leaves the signed word; but a layout that was built has a count below the word, so
after that no axis is left with a second element (`Expects` says what the product is worth
until then).  And a wrong stride must show in some element: the second one along its axis,
which exists because axes with one element are not compared.

Columns are rows read from the other end, so only one of the two walks is followed; the
other one is it for the reversed axes (`Inside.columnRank_reverse`).
-/

namespace TensorExchange

/-! ## Numbering from the other end -/

/-- The number of an index in column-major order: a position is worth all elements of the axes
before it. -/
def columnRank : List Axis → List Nat → Nat
  | a :: axes, i :: index => i + a.extent.toNat * columnRank axes index
  | _, _ => 0

section Ranks

variable {axes : List Axis} {index : List Nat}

theorem columnRank_append (inside : Inside axes index) (more : List Axis) (rest : List Nat) :
    columnRank (axes ++ more) (index ++ rest) =
      columnRank axes index + volume (axes.map Axis.extent) * columnRank more rest := by
  induction inside with
  | nil => simp [columnRank]
  | cons _ _ ih =>
    rw [List.cons_append, List.cons_append, columnRank, columnRank, ih, List.map_cons, volume_cons]
    ring

theorem displacement_append (inside : Inside axes index) (more : List Axis) (rest : List Nat) :
    displacement (axes ++ more) (index ++ rest) =
      displacement axes index + displacement more rest := by
  induction inside with
  | nil => simp [displacement]
  | cons _ _ ih =>
    rw [List.cons_append, List.cons_append, displacement, displacement, ih, add_assoc]

/-- With the axes turned around, the two orders change places. -/
theorem Inside.columnRank_reverse (inside : Inside axes index) :
    columnRank axes.reverse index.reverse = rowRank axes index := by
  induction inside with
  | nil => rfl
  | cons _ tail ih =>
    rw [List.reverse_cons, List.reverse_cons,
      columnRank_append (List.forall₂_reverse_iff.mpr tail), ih, List.map_reverse, volume_reverse]
    simp only [columnRank, rowRank, Nat.mul_zero, Nat.add_zero]
    ring

theorem Inside.displacement_reverse (inside : Inside axes index) :
    displacement axes.reverse index.reverse = displacement axes index := by
  induction inside with
  | nil => rfl
  | cons _ tail ih =>
    rw [List.reverse_cons, List.reverse_cons,
      displacement_append (List.forall₂_reverse_iff.mpr tail), ih]
    simp only [displacement, add_zero]
    ring

theorem columnRank_first (axes : List Axis) : columnRank axes (axes.map fun _ => 0) = 0 := by
  induction axes with
  | nil => rfl
  | cons a axes ih => rw [List.map_cons, columnRank, ih, Nat.mul_zero]

theorem displacement_first (axes : List Axis) : displacement axes (axes.map fun _ => 0) = 0 := by
  induction axes with
  | nil => rfl
  | cons a axes ih => rw [List.map_cons, displacement, ih, Nat.cast_zero, zero_mul, zero_add]

end Ranks

namespace Layout

/-! ## Strides that are checked -/

/-- A position on an axis that passes is worth as many elements as the axes further in have. -/
theorem mul_stride_of_expects {e : Int64} {n i : Nat} {a : Axis} {axes : List Axis}
    (h : Expects e n (a :: axes)) (hhere : (a.extent == 1 || a.stride == e) = true)
    (hi : i < a.extent.toNat) : i * a.stride.toInt = i * n := by
  by_cases hone : a.extent = 1
  · obtain rfl : i = 0 := by
      rw [hone, UInt64.toNat_one] at hi
      omega
    rw [Nat.cast_zero, zero_mul, zero_mul]
  · have hstride : a.stride = e := by simpa [hone] using hhere
    rcases h with he | hvolume
    · rw [hstride, he]
    · rw [List.map_cons, volume_cons] at hvolume
      exact absurd (UInt64.toNat_inj.mp (Nat.eq_one_of_mul_eq_one_right hvolume)) hone

/-- An axis passes if a second element on it, where there is one, is worth as many. -/
theorem passes_of_expects {e : Int64} {n : Nat} {a : Axis} {axes : List Axis}
    (h : Expects e n (a :: axes)) (hstride : a.extent ≠ 1 → a.stride.toInt = n) :
    (a.extent == 1 || a.stride == e) = true := by
  by_cases hone : a.extent = 1
  · simp [hone]
  · rcases h with he | hvolume
    · have hstride : a.stride = e := Int64.toInt_inj.mp ((hstride hone).trans he.symm)
      simp [hstride]
    · rw [List.map_cons, volume_cons] at hvolume
      exact absurd (UInt64.toNat_inj.mp (Nat.eq_one_of_mul_eq_one_right hvolume)) hone

/-- Axes, innermost first, pass from the stride `n` on exactly if every element lies `n` times as
far from the first one as its number says. -/
theorem compactFrom_iff : ∀ {axes : List Axis} {e : Int64} {n : Nat},
    (∀ a ∈ axes, a.extent ≠ 0) → 0 < n → n * volume (axes.map Axis.extent) < wordBound →
      Expects e n axes →
        (compactFrom e axes = true ↔
          ∀ index, Inside axes index → displacement axes index = n * columnRank axes index) := by
  intro axes
  induction axes with
  | nil =>
    intro e n _ _ _ _
    refine ⟨fun _ index inside => ?_, fun _ => rfl⟩
    cases inside
    simp [displacement, columnRank]
  | cons a axes ih =>
    intro e n hne hn hword hexpects
    have ha := Axis.extent_pos (hne a (List.mem_cons_self ..))
    have hne' : ∀ b ∈ axes, b.extent ≠ 0 := fun b hb => hne b (List.mem_cons_of_mem a hb)
    rw [List.map_cons, volume_cons, ← Nat.mul_assoc] at hword
    have hrest := ih hne' (Nat.mul_pos hn ha) hword
      (hexpects.outer hn (volume_pos hne') hword)
    rw [compactFrom, Bool.and_eq_true_iff, hrest]
    constructor
    · rintro ⟨hhere, houter⟩ index inside
      cases inside with
      | @cons _ i _ index hi tail =>
        rw [displacement, columnRank, mul_stride_of_expects hexpects hhere hi, houter index tail]
        push_cast
        ring
    · intro hall
      constructor
      · refine passes_of_expects hexpects fun hone => ?_
        -- the second element on this axis, the first one on all others
        have htwo : 1 < a.extent.toNat := by
          have : a.extent.toNat ≠ 1 := fun h => hone (UInt64.toNat_inj.mp h)
          omega
        have hsecond := hall (1 :: axes.map fun _ => 0) (.cons htwo (inside_first hne'))
        rw [displacement, columnRank, displacement_first, columnRank_first] at hsecond
        simpa using hsecond
      · intro index inside
        have hfirst := hall (0 :: index) (.cons ha inside)
        rw [displacement, columnRank, Nat.cast_zero, zero_mul, zero_add, Nat.zero_add] at hfirst
        rw [hfirst]
        push_cast
        ring

/-! ## The order of a layout -/

/-- Every element lies as far from the first one as its row-major number says. -/
def RowMajor (l : Layout) : Prop :=
  0 ∈ l.shape ∨ ∀ index, Inside l.axes index → displacement l.axes index = rowRank l.axes index

/-- Every element lies as far from the first one as its column-major number says. -/
def ColumnMajor (l : Layout) : Prop :=
  0 ∈ l.shape ∨ ∀ index, Inside l.axes index → displacement l.axes index = columnRank l.axes index

/-- What a layout is said to be is how its elements lie. -/
structure Ordered (l : Layout) : Prop where
  contiguous : l.isContiguous = true ↔ l.RowMajor
  columns : l.isColumnMajor = true ↔ l.ColumnMajor
  rowMajor : l.order = .rowMajor ↔ l.RowMajor
  columnMajor : l.order = .columnMajor ↔ ¬ l.RowMajor ∧ l.ColumnMajor
  strided : l.order = .strided ↔ ¬ l.RowMajor ∧ ¬ l.ColumnMajor

variable {l : Layout}

theorem Exact.isColumnMajor_iff (exact : l.Exact) : l.isColumnMajor = true ↔ l.ColumnMajor := by
  rw [isColumnMajor, Bool.or_eq_true, beq_iff_eq, exact.count_eq_zero_iff, ColumnMajor]
  by_cases hempty : 0 ∈ l.shape
  · simp [hempty]
  · have hne := exact.extent_ne_zero (mt exact.count_eq_zero_iff.mp hempty)
    have hword : 1 * volume (l.axes.map Axis.extent) < wordBound := by
      rw [Nat.one_mul]
      exact exact
    have hexpects : Expects 1 1 l.axes := .inl rfl
    simp only [hempty, false_or, compactFrom_iff hne Nat.one_pos hword hexpects, Nat.cast_one,
      one_mul]

/-- Read from the last axis on, a row-major layout is a column-major one. -/
theorem Exact.isContiguous_iff (exact : l.Exact) : l.isContiguous = true ↔ l.RowMajor := by
  have hvolume : volume (l.axes.reverse.map Axis.extent) = volume l.shape := by
    rw [List.map_reverse, volume_reverse, shape]
  have exact' : Exact ⟨l.axes.reverse, l.byteOffset⟩ := Nat.lt_of_le_of_lt hvolume.le exact
  have hcount : count ⟨l.axes.reverse, l.byteOffset⟩ = l.count := by
    rw [exact'.count_eq, exact.count_eq]
    exact hvolume
  have hcolumns := exact'.isColumnMajor_iff
  rw [isColumnMajor, hcount] at hcolumns
  rw [isContiguous, hcolumns, ColumnMajor, RowMajor]
  refine or_congr (by simp [shape]) ⟨fun h index inside => ?_, fun h index inside => ?_⟩
  · rw [← inside.displacement_reverse, ← inside.columnRank_reverse]
    exact h _ (List.forall₂_reverse_iff.mpr inside)
  · have inside' : Inside l.axes index.reverse := by
      simpa using List.forall₂_reverse_iff.mpr inside
    have hrow := h _ inside'
    rw [← inside'.displacement_reverse, ← inside'.columnRank_reverse] at hrow
    simpa using hrow

theorem displacement_of_isContiguous (exact : l.Exact) (h : l.isContiguous = true) {k : Nat}
    (hk : k < l.count) : displacement l.axes (unravel l.axes k) = k := by
  have hne : 0 ∉ l.shape := fun hempty => by
    rw [exact.count_eq_zero_iff.mpr hempty] at hk
    exact absurd hk (Nat.not_lt_zero k)
  rw [(exact.isContiguous_iff.mp h).resolve_left hne _ (exact.inside_unravel hk), rowRank_unravel]
  exact exact.count_eq ▸ hk

/-- Whatever was built is in the order that it is said to be in. -/
theorem Built.ordered (built : l.Built) : l.Ordered := by
  have hrows := built.exact.isContiguous_iff
  have hcolumns := built.exact.isColumnMajor_iff
  refine ⟨hrows, hcolumns, ?_, ?_, ?_⟩
  all_goals
    simp only [← hrows, ← hcolumns, order]
    cases l.isContiguous <;> cases l.isColumnMajor <;> simp

/-- Two rows of three elements that lie column by column. -/
def standingColumns : Layout := ⟨[⟨2, 1⟩, ⟨3, 2⟩], 0⟩

theorem ordered_standingColumns :
    standingColumns.Built ∧ standingColumns.Ordered ∧ standingColumns.order = .columnMajor ∧
      rowRank standingColumns.axes [1, 0] = 3 ∧ displacement standingColumns.axes [1, 0] = 1 := by
  have ok : Layout.strided [2, 3] [1, 2] 0 = .ok standingColumns := by decide +kernel
  exact ⟨.strided ok, (Built.strided ok).ordered, by decide +kernel, by decide +kernel,
    by decide +kernel⟩

end Layout

end TensorExchange
