import Mathlib.Order.Bounds.Basic
import TensorExchange.Proofs.Layout.Index
import TensorExchange.Proofs.Layout.Packed

/-!
Corners: the check of a layout against memory looks at all of its elements.

The check computes two places only, the lowest byte and the end of the highest element, one
axis after the other and in wide arithmetic.  It never looks at an element.  That this is
enough is what has to be proved, for strides of both signs, repeated places, overlapping
axes and any offset.

Main statement (`Built.surveyed`), for every layout that can be built and every size of
elements, with `places` the set of all places where elements begin:

    span = none          there are no elements
    span = some s        s.start is the least place, and s.stop - size the greatest
    span is an error     some element lies outside of any memory that a word can measure

and so a layout is accepted for memory of a length exactly if it has no elements or each of
them lies inside, and a refusal names the two outermost places.

The outermost elements have indices, `lowCorner` and `highCorner`: an axis with a negative
stride contributes its last position to the lowest element and its first to the highest.
That they are indices inside of the axes makes the two places places of elements; that no
element lies further out is in `Proofs/Layout/Index`.

Wide arithmetic ends at 2¹²⁷.  An axis that leaves it, or a sum of axes, has an element that
lies outside of memory by far (`not_fits_of_wideSpan?`), so the error loses nothing.

`turnedRows` has two axes that run backwards and an offset to its last element.
-/

namespace TensorExchange

/-! ## The outermost elements -/

/-- The index of the lowest element: the far end of every axis that runs backwards. -/
def lowCorner (axes : List Axis) : List Nat :=
  axes.map fun a => if a.stride < 0 then a.extent.toNat - 1 else 0

/-- The index of the highest element: the far end of every axis that runs forwards. -/
def highCorner (axes : List Axis) : List Nat :=
  axes.map fun a => if a.stride < 0 then 0 else a.extent.toNat - 1

section Corners

variable {axes : List Axis}

theorem inside_lowCorner (hne : ∀ a ∈ axes, a.extent ≠ 0) : Inside axes (lowCorner axes) := by
  induction axes with
  | nil => exact .nil
  | cons a axes ih =>
    have ha := Axis.extent_pos (hne a (List.mem_cons_self ..))
    refine .cons ?_ (ih fun b hb => hne b (List.mem_cons_of_mem a hb))
    dsimp only
    split <;> omega

theorem inside_highCorner (hne : ∀ a ∈ axes, a.extent ≠ 0) : Inside axes (highCorner axes) := by
  induction axes with
  | nil => exact .nil
  | cons a axes ih =>
    have ha := Axis.extent_pos (hne a (List.mem_cons_self ..))
    refine .cons ?_ (ih fun b hb => hne b (List.mem_cons_of_mem a hb))
    dsimp only
    split <;> omega

theorem Axis.last_mul_stride {a : Axis} (hne : a.extent ≠ 0) (size : Nat) :
    ((a.extent.toNat - 1 : Nat) : Int) * a.stride.toInt * size = a.reach size := by
  have ha := Axis.extent_pos hne
  rw [Axis.reach, Nat.cast_sub ha, Nat.cast_one]

theorem displacement_lowCorner (hne : ∀ a ∈ axes, a.extent ≠ 0) (size : Nat) :
    displacement axes (lowCorner axes) * size = lowest size axes := by
  induction axes with
  | nil => simp [displacement]
  | cons a axes ih =>
    have ha := hne a (List.mem_cons_self ..)
    have hrest := ih fun b hb => hne b (List.mem_cons_of_mem a hb)
    rw [lowest_cons, ← hrest, lowCorner, List.map_cons, displacement, add_mul]
    congr 1
    split
    case isTrue hdown =>
      rw [Axis.last_mul_stride ha, min_eq_left (Axis.reach_nonpos ha hdown size)]
    case isFalse hup => rw [min_eq_right (Axis.reach_nonneg ha hup size)]; simp

theorem displacement_highCorner (hne : ∀ a ∈ axes, a.extent ≠ 0) (size : Nat) :
    displacement axes (highCorner axes) * size = highest size axes := by
  induction axes with
  | nil => simp [displacement]
  | cons a axes ih =>
    have ha := hne a (List.mem_cons_self ..)
    have hrest := ih fun b hb => hne b (List.mem_cons_of_mem a hb)
    rw [highest_cons, ← hrest, highCorner, List.map_cons, displacement, add_mul]
    congr 1
    split
    case isTrue hdown => rw [max_eq_right (Axis.reach_nonpos ha hdown size)]; simp
    case isFalse hup =>
      rw [Axis.last_mul_stride ha, max_eq_left (Axis.reach_nonneg ha hup size)]

end Corners

namespace Layout

/-! ## Layouts that can be built -/

/-- A layout that one of the constructors made. -/
inductive Built : Layout → Prop
  | scalar : Built .scalar
  | vector (n : UInt64) : Built (.vector n)
  | contiguous {shape : List UInt64} {l : Layout} (ok : Layout.contiguous shape = .ok l) : Built l
  | strided {shape : List UInt64} {strides : List Int64} {byteOffset : UInt64} {l : Layout}
    (ok : Layout.strided shape strides byteOffset = .ok l) : Built l
  | reshaped {l l' : Layout} {shape : List UInt64} (built : Built l)
    (ok : l.reshaped shape = .ok l') : Built l'

theorem Built.exact {l : Layout} (built : l.Built) : l.Exact := by
  cases built with
  | scalar => exact (by decide : volume [] < wordBound)
  | vector n => exact vector_exact n
  | contiguous ok => exact exact_of_contiguous ok
  | strided ok => exact exact_of_strided ok
  | reshaped _ ok => exact (reshaped_eq_ok ok).2.2.1

/-! ## The places of the elements -/

/-- Where the elements begin. -/
def places (l : Layout) (size : Nat) : Set Int :=
  {p | ∃ index, Inside l.axes index ∧ p = l.place size index}

variable {l : Layout} {size : Nat}

theorem isLeast_places (hne : ∀ a ∈ l.axes, a.extent ≠ 0) (size : Nat) :
    IsLeast (l.places size) (l.start size) := by
  constructor
  · refine ⟨lowCorner l.axes, inside_lowCorner hne, ?_⟩
    rw [place, displacement_lowCorner hne, start]
  · rintro _ ⟨index, inside, rfl⟩
    have := (inside.displacement_mem size).1
    rw [place, start]
    omega

theorem isGreatest_places (hne : ∀ a ∈ l.axes, a.extent ≠ 0) (size : Nat) :
    IsGreatest (l.places size) (l.stop size - size) := by
  constructor
  · refine ⟨highCorner l.axes, inside_highCorner hne, ?_⟩
    rw [place, displacement_highCorner hne, stop]
    omega
  · rintro _ ⟨index, inside, rfl⟩
    have := (inside.displacement_mem size).2
    rw [place, stop]
    omega

theorem Exact.places_eq_empty_iff (exact : l.Exact) (size : Nat) :
    l.places size = ∅ ↔ l.count = 0 := by
  constructor
  · intro hempty
    by_contra hne
    have := (isLeast_places (exact.extent_ne_zero hne) size).1
    rw [hempty] at this
    exact this
  · intro hcount
    refine Set.eq_empty_of_forall_notMem ?_
    rintro _ ⟨index, inside, _⟩
    exact inside.count_ne_zero exact hcount

/-- All elements lie between two bounds if the outermost ones do. -/
theorem Exact.forall_places_iff (exact : l.Exact) (hne : l.count ≠ 0) (size : Nat) (length : Int) :
    (∀ p ∈ l.places size, 0 ≤ p ∧ p + size ≤ length) ↔
      0 ≤ l.start size ∧ l.stop size ≤ length := by
  have hleast := isLeast_places (exact.extent_ne_zero hne) size
  have hgreatest := isGreatest_places (exact.extent_ne_zero hne) size
  constructor
  · intro h
    have hlow := (h _ hleast.1).1
    have hhigh := (h _ hgreatest.1).2
    omega
  · rintro ⟨hlow, hhigh⟩ p hp
    have hstart := hleast.2 hp
    have hstop := hgreatest.2 hp
    omega

/-! ## What the check finds -/

/-- The span of a layout, and the check of it against memory, say where all of its elements lie. -/
structure Surveyed (l : Layout) (size : Nat) : Prop where
  empty : l.span size = .ok none ↔ l.places size = ∅
  span : ∀ s, l.span size = .ok (some s) →
    IsLeast (l.places size) s.start ∧ IsGreatest (l.places size) (s.stop - size)
  /-- Where there is no span, some element lies outside of any memory that a word measures. -/
  overflow : ∀ e, l.span size = .error e → e = .overflow l.shape ∧
    ∃ p ∈ l.places size, ∀ length < wordBound, ¬ (0 ≤ p ∧ p + size ≤ length)
  accepted : ∀ length < wordBound, l.checkWithin size length = .ok () ↔
    l.count = 0 ∨ ∀ p ∈ l.places size, 0 ≤ p ∧ p + size ≤ length
  /-- A refusal names the outermost places. -/
  refused : ∀ length < wordBound, ∀ e, l.checkWithin size length = .error e →
    l.span size = .error e ∨ ∃ s, l.span size = .ok (some s) ∧
      e = .outOfBounds s.start s.stop length

theorem span_eq_error {e : LayoutError} (h : l.span size = .error e) :
    l.count ≠ 0 ∧ e = .overflow l.shape ∧ l.wideSpan? size = none := by
  unfold span at h
  split at h
  case isTrue => cases h
  case isFalse hne =>
    split at h
    next => cases h
    next hnone => exact ⟨hne, (Except.error.inj h).symm, hnone⟩

/-- Where wide arithmetic is left, the outermost elements are too far away for a word. -/
theorem not_fits_of_wideSpan? (hsize : 0 < size) (h : l.wideSpan? size = none) {length : Nat}
    (hlength : length < wordBound) : ¬ (0 ≤ l.start size ∧ l.stop size ≤ length) := by
  rintro ⟨hlow, hhigh⟩
  have hoff := l.byteOffset.toNat_lt
  have hwide : l.wideSpan? size = some ⟨l.start size, l.stop size⟩ := by
    rw [wordBound] at hlength
    refine (wideSpan?_eq_some_iff hsize).mpr ⟨rfl, ?_, by omega⟩
    unfold start at hlow
    omega
  rw [h] at hwide
  cases hwide

theorem checkWithin_eq_error {length : Nat} {e : LayoutError}
    (h : l.checkWithin size length = .error e) :
    l.span size = .error e ∨ ∃ s, l.span size = .ok (some s) ∧
      e = .outOfBounds s.start s.stop length := by
  unfold checkWithin at h
  cases hspan : l.span size with
  | error cause =>
    rw [hspan] at h
    exact .inl (congrArg Except.error (Except.error.inj h))
  | ok found =>
    rw [hspan] at h
    cases found with
    | none => cases h
    | some s =>
      simp only [bind, Except.bind] at h
      split at h
      · cases h
      · exact .inr ⟨s, rfl, (Except.error.inj h).symm⟩

/-- A layout that was built is surveyed, whatever the size of its elements. -/
theorem Built.surveyed (built : l.Built) (hsize : 0 < size) : l.Surveyed size := by
  have exact := built.exact
  constructor
  case empty => rw [span_eq_none_iff, exact.places_eq_empty_iff]
  case span =>
    intro s hs
    obtain ⟨hne, rfl, _⟩ := (span_eq_some_iff hsize).mp hs
    have hextents := exact.extent_ne_zero hne
    exact ⟨isLeast_places hextents size, isGreatest_places hextents size⟩
  case overflow =>
    intro e he
    obtain ⟨hne, rfl, hnone⟩ := span_eq_error he
    refine ⟨rfl, ?_⟩
    have hextents := exact.extent_ne_zero hne
    -- it is the first one that lies too low, or else the last one that lies too high
    have hlast : wordBound - 1 < wordBound := by decide
    have hfar := not_fits_of_wideSpan? hsize hnone hlast
    by_cases hlow : 0 ≤ l.start size
    · refine ⟨_, (isGreatest_places hextents size).1, fun length hlength h => hfar ⟨hlow, ?_⟩⟩
      omega
    · exact ⟨_, (isLeast_places hextents size).1, fun length _ h => hlow h.1⟩
  case accepted =>
    intro length hlength
    rw [checkWithin_eq_ok_iff hsize, Fits]
    by_cases hcount : l.count = 0
    · simp [hcount]
    · rw [exact.forall_places_iff hcount]
      have : l.stop size ≤ length → l.stop size < 2 ^ 127 := by
        rw [wordBound] at hlength
        omega
      simp only [hcount, ne_eq, not_false_iff, forall_const, false_or]
      exact ⟨fun h => ⟨h.1, h.2.1⟩, fun h => ⟨h.1, h.2, this h.2⟩⟩
  case refused => exact fun length _ e he => checkWithin_eq_error he

/-- Two rows of three elements of eight bytes, the rows from the last one on and each row
backwards. -/
def turnedRows : Layout := ⟨[⟨2, -3⟩, ⟨3, -1⟩], 40⟩

theorem surveyed_turnedRows :
    turnedRows.Built ∧ 0 < 8 ∧ turnedRows.Surveyed 8 ∧
      turnedRows.span 8 = .ok (some ⟨0, 48⟩) ∧ turnedRows.checkWithin 8 48 = .ok () ∧
        turnedRows.checkWithin 8 47 = .error (.outOfBounds 0 48 47) := by
  have ok : Layout.strided [2, 3] [-3, -1] 40 = .ok turnedRows := by decide +kernel
  refine ⟨.strided ok, by decide, (Built.strided ok).surveyed (by decide), ?_, ?_, ?_⟩
  all_goals decide +kernel

end Layout

end TensorExchange
