import Mathlib.Algebra.BigOperators.Group.List.Basic
import Mathlib.Algebra.Order.Ring.Int
import Mathlib.Tactic.Ring
import TensorExchange.Layout.Span
import TensorExchange.Proofs.Result

/-!
Hulls: the lowest and the highest element of a layout, in closed form.

An axis reaches upwards or downwards, depending on its stride, and what all axes reach adds
up.  The function that computes this goes through the axes once and keeps a low and a high
end; in closed form these are two sums,

    lowest   Σ min (reach, 0)        highest   Σ max (reach, 0)

where the reach of an axis is the distance from its first to its last element.  Sums can be
taken apart and put together in any order, which a walk cannot, so nothing but this file
looks at the walk.

The walk is in wide arithmetic, which refuses what leaves it.  `hull?_eq_some_iff` says that
it gives the two sums exactly if they are wide; partial sums need no condition of their own,
since each end only moves one way.

Main statement (`checkWithin_eq_ok_iff`): a layout with elements is accepted for memory of a
length exactly if the bytes from its lowest element to the end of its highest one lie in
that memory (`Fits`), wherever its first element is.  What has no elements fits anywhere.

These are statements about sums.  That the sums are places of elements, and the outermost
ones, is in `Proofs/Layout/Corners`.
-/

namespace TensorExchange

/-- The range of 128-bit arithmetic. -/
def Wide (n : Int) : Prop := -2 ^ 127 ≤ n ∧ n < 2 ^ 127

theorem wide?_eq_some_iff {n m : Int} : wide? n = some m ↔ m = n ∧ Wide n := by
  unfold wide?
  split
  case isTrue h => exact ⟨fun heq => ⟨(Option.some.inj heq).symm, h⟩, fun hm => by rw [hm.1]⟩
  case isFalse h => exact ⟨nofun, fun hm => absurd hm.2 h⟩

/-- How far the last element of an axis lies from its first, in bytes. -/
def Axis.reach (a : Axis) (size : Nat) : Int :=
  ((a.extent.toNat : Int) - 1) * a.stride.toInt * size

theorem Axis.extent_pos {a : Axis} (hne : a.extent ≠ 0) : 0 < a.extent.toNat :=
  Nat.pos_of_ne_zero fun h => hne (UInt64.toNat_inj.mp h)

theorem Axis.reach_nonneg {a : Axis} (hne : a.extent ≠ 0) (hup : ¬ a.stride < 0) (size : Nat) :
    0 ≤ a.reach size := by
  have hextent := Axis.extent_pos hne
  have hstride : 0 ≤ a.stride.toInt := by
    rw [Int64.lt_iff_toInt_lt, Int64.toInt_zero] at hup
    omega
  exact mul_nonneg (mul_nonneg (by omega) hstride) (Int.natCast_nonneg size)

theorem Axis.reach_nonpos {a : Axis} (hne : a.extent ≠ 0) (hdown : a.stride < 0) (size : Nat) :
    a.reach size ≤ 0 := by
  have hextent := Axis.extent_pos hne
  have hstride : a.stride.toInt ≤ 0 := by
    rw [Int64.lt_iff_toInt_lt, Int64.toInt_zero] at hdown
    omega
  exact mul_nonpos_of_nonpos_of_nonneg (mul_nonpos_of_nonneg_of_nonpos (by omega) hstride)
    (Int.natCast_nonneg size)

/-- How far the lowest element lies from the first, in bytes: at most 0. -/
def lowest (size : Nat) (axes : List Axis) : Int := (axes.map fun a => min (a.reach size) 0).sum

/-- How far the highest element lies from the first, in bytes: at least 0. -/
def highest (size : Nat) (axes : List Axis) : Int := (axes.map fun a => max (a.reach size) 0).sum

section Hull

variable {size : Nat} {axes : List Axis}

@[simp] theorem lowest_nil : lowest size [] = 0 := rfl

@[simp] theorem highest_nil : highest size [] = 0 := rfl

@[simp] theorem lowest_cons (a : Axis) (axes : List Axis) :
    lowest size (a :: axes) = min (a.reach size) 0 + lowest size axes := by
  simp [lowest]

@[simp] theorem highest_cons (a : Axis) (axes : List Axis) :
    highest size (a :: axes) = max (a.reach size) 0 + highest size axes := by
  simp [highest]

theorem lowest_append (size : Nat) (axes more : List Axis) :
    lowest size (axes ++ more) = lowest size axes + lowest size more := by
  simp [lowest]

theorem highest_append (size : Nat) (axes more : List Axis) :
    highest size (axes ++ more) = highest size axes + highest size more := by
  simp [highest]

theorem lowest_reverse (size : Nat) (axes : List Axis) :
    lowest size axes.reverse = lowest size axes := by
  simp [lowest, List.map_reverse, List.sum_reverse]

theorem highest_reverse (size : Nat) (axes : List Axis) :
    highest size axes.reverse = highest size axes := by
  simp [highest, List.map_reverse, List.sum_reverse]

theorem lowest_nonpos (size : Nat) (axes : List Axis) : lowest size axes ≤ 0 := by
  induction axes with
  | nil => simp
  | cons a axes ih =>
    rw [lowest_cons]
    omega

theorem highest_nonneg (size : Nat) (axes : List Axis) : 0 ≤ highest size axes := by
  induction axes with
  | nil => simp
  | cons a axes ih =>
    rw [highest_cons]
    omega

theorem Wide.of_mul {e : Int} (h : Wide (e * size)) (hsize : 0 < size) : Wide e := by
  have hone : (1 : Int) ≤ size := by omega
  obtain ⟨hlow, hhigh⟩ := h
  rcases Int.le_total 0 e with he | he
  · have := le_mul_of_one_le_right he hone
    exact ⟨by omega, by omega⟩
  · have := mul_le_mul_of_nonpos_left hone he
    exact ⟨by omega, by omega⟩

theorem Axis.reach?_eq_some_iff (hsize : 0 < size) {a : Axis} {r : Int} :
    a.reach? size = some r ↔ r = a.reach size ∧ Wide r := by
  simp only [reach?, Option.bind_eq_bind, Option.bind_eq_some_iff, wide?_eq_some_iff]
  constructor
  · rintro ⟨e, ⟨rfl, _⟩, rfl, hwide⟩
    exact ⟨rfl, hwide⟩
  · rintro ⟨rfl, hwide⟩
    exact ⟨_, ⟨rfl, hwide.of_mul hsize⟩, rfl, hwide⟩

/-- What is added up leaves 128-bit arithmetic only if the whole sum does, since all that goes to
one side has the same sign. -/
theorem hull?_eq_some_iff (hsize : 0 < size) : ∀ {axes : List Axis} {low high l h : Int},
    -2 ^ 127 ≤ low → low ≤ 0 → 0 ≤ high → high < 2 ^ 127 →
      (hull? size low high axes = some (l, h) ↔
        l = low + lowest size axes ∧ h = high + highest size axes ∧ -2 ^ 127 ≤ l ∧
          h < 2 ^ 127) := by
  intro axes
  induction axes with
  | nil =>
    intro low high l h hlow _ _ hhigh
    simp only [hull?, Option.some.injEq, Prod.mk.injEq, lowest_nil, highest_nil, add_zero]
    constructor
    · rintro ⟨rfl, rfl⟩
      exact ⟨rfl, rfl, hlow, hhigh⟩
    · rintro ⟨rfl, rfl, _, _⟩
      exact ⟨rfl, rfl⟩
  | cons a axes ih =>
    intro low high l h hlow hneg hpos hhigh
    have hrest := lowest_nonpos size axes
    have hrest' := highest_nonneg size axes
    simp only [hull?, Option.bind_eq_bind, Option.bind_eq_some_iff,
      Axis.reach?_eq_some_iff hsize, lowest_cons, highest_cons]
    constructor
    · rintro ⟨r, ⟨rfl, _⟩, hrec⟩
      split at hrec
      · obtain ⟨next, hnext, hrec⟩ := Option.bind_eq_some_iff.mp hrec
        obtain ⟨rfl, hwide, _⟩ := wide?_eq_some_iff.mp hnext
        obtain ⟨rfl, rfl, hl, hh⟩ := (ih hwide (by omega) hpos hhigh).mp hrec
        exact ⟨by omega, by omega, hl, hh⟩
      · obtain ⟨next, hnext, hrec⟩ := Option.bind_eq_some_iff.mp hrec
        obtain ⟨rfl, _, hwide⟩ := wide?_eq_some_iff.mp hnext
        obtain ⟨rfl, rfl, hl, hh⟩ := (ih hlow hneg (by omega) hwide).mp hrec
        exact ⟨by omega, by omega, hl, hh⟩
    · rintro ⟨rfl, rfl, hl, hh⟩
      refine ⟨a.reach size, ⟨rfl, by omega, by omega⟩, ?_⟩
      split
      · refine Option.bind_eq_some_iff.mpr
          ⟨low + a.reach size, wide?_eq_some_iff.mpr ⟨rfl, by omega, by omega⟩, ?_⟩
        exact (ih (by omega) (by omega) hpos hhigh).mpr ⟨by omega, by omega, hl, hh⟩
      · refine Option.bind_eq_some_iff.mpr
          ⟨high + a.reach size, wide?_eq_some_iff.mpr ⟨rfl, by omega, by omega⟩, ?_⟩
        exact (ih hlow hneg (by omega) (by omega)).mpr ⟨by omega, by omega, hl, hh⟩

end Hull

namespace Layout

variable {l : Layout} {size : Nat}

/-- Where the lowest element begins. -/
def start (l : Layout) (size : Nat) : Int := l.byteOffset.toNat + lowest size l.axes

/-- Where the highest element ends. -/
def stop (l : Layout) (size : Nat) : Int := l.byteOffset.toNat + highest size l.axes + size

theorem wideSpan?_eq_some_iff (hsize : 0 < size) {s : Span} :
    l.wideSpan? size = some s ↔
      s = ⟨l.start size, l.stop size⟩ ∧ -2 ^ 127 ≤ lowest size l.axes ∧ l.stop size < 2 ^ 127 := by
  have hoff := l.byteOffset.toNat_lt
  have hlow := lowest_nonpos size l.axes
  have hhigh := highest_nonneg size l.axes
  have hzero : -2 ^ 127 ≤ (0 : Int) ∧ (0 : Int) < 2 ^ 127 := by decide
  simp only [wideSpan?, Option.bind_eq_bind, Option.bind_eq_some_iff, wide?_eq_some_iff,
    Option.pure_def, Option.some.injEq, Prod.exists,
    hull?_eq_some_iff hsize hzero.1 le_rfl le_rfl hzero.2, zero_add, start, stop, Wide]
  constructor
  · rintro ⟨lo, hi, ⟨rfl, rfl, hl, _⟩, _, ⟨rfl, _⟩, _, ⟨rfl, _⟩, _, ⟨rfl, _, hstop⟩, rfl⟩
    exact ⟨rfl, hl, hstop⟩
  · rintro ⟨rfl, hl, hstop⟩
    exact ⟨_, _, ⟨rfl, rfl, hl, by omega⟩, _, ⟨rfl, by omega, by omega⟩, _,
      ⟨rfl, by omega, by omega⟩, _, ⟨rfl, by omega, hstop⟩, rfl⟩

theorem span_eq_none_iff : l.span size = .ok none ↔ l.count = 0 := by
  unfold span
  split
  case isTrue h => simp [h]
  case isFalse h => split <;> simp [h]

theorem span_eq_some_iff (hsize : 0 < size) {s : Span} :
    l.span size = .ok (some s) ↔
      l.count ≠ 0 ∧ s = ⟨l.start size, l.stop size⟩ ∧ -2 ^ 127 ≤ lowest size l.axes ∧
        l.stop size < 2 ^ 127 := by
  rw [← wideSpan?_eq_some_iff hsize]
  unfold span
  split
  case isTrue h => simp [h]
  case isFalse h =>
    split
    next s' hs => simp [h, hs]
    next hnone => simp [hnone]

/-- A layout without elements, or one whose elements lie in memory of a length. -/
def Fits (l : Layout) (size length : Nat) : Prop :=
  l.count ≠ 0 → 0 ≤ l.start size ∧ l.stop size ≤ length ∧ l.stop size < 2 ^ 127

theorem checkWithin_eq_ok_iff (hsize : 0 < size) {length : Nat} :
    l.checkWithin size length = .ok () ↔ l.Fits size length := by
  by_cases hcount : l.count = 0
  · simp [checkWithin, span_eq_none_iff.mpr hcount, Fits, hcount, bind, Except.bind, pure,
      Except.pure]
  · unfold checkWithin Fits
    rw [bind_eq_ok]
    constructor
    · rintro ⟨s, hs, hok⟩ _
      cases s with
      | none => exact absurd (span_eq_none_iff.mp hs) hcount
      | some s =>
        obtain ⟨_, rfl, _, hstop⟩ := (span_eq_some_iff hsize).mp hs
        simp only at hok
        split at hok
        next hin => exact ⟨hin.1, hin.2, hstop⟩
        next => cases hok
    · intro hfits
      obtain ⟨hstart, hin, hstop⟩ := hfits hcount
      have hoff := l.byteOffset.toNat_lt
      have hlow : -2 ^ 127 ≤ lowest size l.axes := by
        unfold start at hstart
        omega
      refine ⟨some ⟨l.start size, l.stop size⟩,
        (span_eq_some_iff hsize).mpr ⟨hcount, rfl, hlow, hstop⟩, ?_⟩
      simp only
      rw [if_pos ⟨hstart, hin⟩]
      rfl

end Layout

end TensorExchange
