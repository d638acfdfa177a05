import TensorExchange.Proofs.Layout.Corners

/-!
Counting: what the count of a layout is worth after it was checked.

The extents of a shape are multiplied one after the other with a check at each step when a
layout is built, and again without any check whenever its elements are counted later.

Main statement (`Built.sized`), for any layout that was built, by whatever sequence of
constructors and reshapes: there are as many extents as strides and as axes, the product
without checks is exact at each of its steps, and the bytes of a layout are told exactly if
memory can hold them.

Exact at each step is more than exact at the end.  A product may leave the word on the way
and still end as 0 when an axis without elements follows, and word arithmetic would be right
about the end by accident.  The check refuses such shapes (`count?_eq_some_iff`: a shape is
counted exactly if no product of its first extents leaves the word), and counting goes
through the extents in the same order, so what was checked is what is computed.  Which
shapes are refused by that, and what follows of their order, is in `Proofs/Admission`.

The count does not see strides.  `broadcast` has 2⁶² elements in all, which lie at one place
and need a handful of bytes; its bytes are told all the same, since a copy of it would be
that large.
-/

namespace TensorExchange

/-! ## Products on the way -/

section Shapes

variable {shape : List UInt64} {n : Nat}

theorem prefixes_of_countFrom? : ∀ {shape : List UInt64} {k : Nat}, k < wordBound →
    countFrom? k shape = some n → ∀ j, k * volume (shape.take j) < wordBound := by
  intro shape
  induction shape with
  | nil =>
    intro k hk _ j
    simpa using hk
  | cons d ds ih =>
    intro k hk h j
    rw [countFrom?] at h
    split at h
    next hfirst =>
      cases j with
      | zero => simpa using hk
      | succ j =>
        rw [List.take_succ_cons, volume_cons, ← Nat.mul_assoc]
        exact ih hfirst h j
    next => cases h

theorem count?_eq_some_iff :
    count? shape = some n ↔ n = volume shape ∧ ∀ j, volume (shape.take j) < wordBound := by
  constructor
  · intro h
    have steps := prefixes_of_countFrom? (by decide) h
    simp only [Nat.one_mul] at steps
    exact ⟨(count?_eq_some h).1, steps⟩
  · rintro ⟨rfl, steps⟩
    exact count?_of_prefixes steps

theorem checkShape_eq_ok_iff :
    checkShape shape = .ok () ↔ count? shape = some (volume shape) ∧ volume shape ≤ maxSize := by
  rw [checkShape]
  cases hcount : count? shape with
  | none => simp
  | some n =>
    obtain ⟨rfl, _⟩ := count?_eq_some hcount
    simp

end Shapes

/-! ## Counting without checks -/

namespace Layout

variable {l : Layout}

theorem Built.count?_shape (built : l.Built) : count? l.shape = some (volume l.shape) := by
  cases built with
  | scalar => rfl
  | vector n =>
    rw [count?_vector]
    simp [Layout.vector, shape]
  | contiguous ok => exact (checkShape_eq_ok_iff.mp (counted_of_contiguous ok)).1
  | strided ok => exact (checkShape_eq_ok_iff.mp (counted_of_strided ok)).1
  | reshaped _ ok => exact (checkShape_eq_ok_iff.mp (counted_of_reshaped ok)).1

/-- The product of the first extents in word arithmetic, as far as counting gets in `j` steps. -/
def partialCount (l : Layout) (j : Nat) : UInt64 :=
  (l.axes.take j).foldl (fun n a => n * a.extent) 1

theorem toNat_partialCount {j : Nat} (step : volume (l.shape.take j) < wordBound) :
    (l.partialCount j).toNat = volume (l.shape.take j) := by
  rw [partialCount, count_foldl, UInt64.toNat_one, Nat.one_mul, List.map_take]
  exact Nat.mod_eq_of_lt step

/-- What the count of a layout is worth. -/
structure Sized (l : Layout) : Prop where
  lengths : l.shape.length = l.rank ∧ l.strides.length = l.rank
  /-- Nothing that was asked for is lost: there is a stride for each extent. -/
  ofContiguous : ∀ shape, contiguous shape = .ok l → l.shape = shape
  ofStrided : ∀ shape strides byteOffset, strided shape strides byteOffset = .ok l →
    l.shape = shape ∧ l.strides = strides
  ofReshaped : ∀ (l₀ : Layout) (shape), l₀.reshaped shape = .ok l → l.shape = shape
  /-- No step of the product in word arithmetic wraps. -/
  steps : ∀ j, (l.partialCount j).toNat = volume (l.shape.take j)
  count : l.count = volume l.shape
  bytes : ∀ size n, l.bytes? size = some n ↔ n = volume l.shape * size ∧ n ≤ maxSize

/-- Whatever was built is counted exactly, without a check on the way. -/
theorem Built.sized (built : l.Built) : l.Sized := by
  have hcount : l.count = volume l.shape := built.exact.count_eq
  obtain ⟨_, steps⟩ := count?_eq_some_iff.mp built.count?_shape
  constructor
  case lengths => exact ⟨List.length_map _, List.length_map _⟩
  case ofContiguous => exact fun shape ok => shape_of_contiguous ok
  case ofStrided =>
    intro shape strides byteOffset ok
    obtain ⟨⟨hshape, hstrides, _⟩, _⟩ := strided_eq_ok_iff.mp ok
    exact ⟨hshape, hstrides⟩
  case ofReshaped => exact fun l₀ shape ok => shape_of_reshaped ok
  case steps => exact fun j => toNat_partialCount (steps j)
  case count => exact hcount
  case bytes =>
    intro size n
    rw [bytes?, hcount]
    split
    case isTrue hsmall =>
      rw [Option.some.injEq]
      exact ⟨fun h => ⟨h.symm, h ▸ hsmall⟩, fun h => h.1.symm⟩
    case isFalse hlarge =>
      refine ⟨nofun, ?_⟩
      rintro ⟨rfl, hsmall⟩
      exact absurd hsmall hlarge

/-- Two axes over a single element that is shown again and again. -/
def broadcast : Layout := ⟨[⟨0x80000000, 0⟩, ⟨0x80000000, 0⟩], 0⟩

theorem sized_broadcast :
    broadcast.Built ∧ broadcast.Sized ∧ broadcast.bytes? 1 = some 0x4000000000000000 ∧
      broadcast.bytes? 2 = none := by
  have built : broadcast.Built := .strided
    (by decide +kernel : Layout.strided [0x80000000, 0x80000000] [0, 0] 0 = .ok broadcast)
  have sized := built.sized
  have hvolume : volume broadcast.shape = 0x4000000000000000 := by decide +kernel
  refine ⟨built, sized, ?_, ?_⟩
  · exact (sized.bytes 1 _).mpr ⟨by rw [hvolume], by decide⟩
  · exact Option.eq_none_iff_forall_ne_some.mpr fun n hn => by
      obtain ⟨rfl, hsmall⟩ := (sized.bytes 2 n).mp hn
      rw [hvolume] at hsmall
      exact absurd hsmall (by decide)

end Layout

end TensorExchange
