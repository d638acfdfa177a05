import TensorExchange.Proofs.Layout.Index

/-!
The odometer: indices in row-major order.

Elements are visited by stepping an index: the last position is raised, and one that reaches
its extent returns to 0 and raises the position before it.  Such loops are compared here
with plain numbers.  An index is the row-major number of its element written in mixed
digits, one for each axis with the extent of the axis as the base:

    unravel axes k     the digits of k
    rowRank axes i     the number with the digits i

Main statements: the odometer counts, from each number to the next and from the last one
back to 0 (`advance_unravel`); each number below the count gives an index inside of the axes
(`inside_unravel`), and each index inside has one number, below the count
(`Inside.unravel_rowRank`, `rowRank_unravel`, `Inside.rowRank_lt`).

So a loop that visits `n` elements from the first one on visits those with the numbers below
`n`, in order, and none twice; and what is said of every number is said of every element.

All of it is for axes with any strides, and most of it does not even need the extents to
multiply to a word: numbers are natural here.  The words come in where a layout tells its
count, and then `Layout.Exact` says that the count is the product.

The induction is on the axes from the first one on, the digit of the first axis being the
quotient by the volume of the others.
-/

namespace TensorExchange

variable {axes : List Axis} {index : List Nat}

/-! ## Counting -/

/-- One step of the outermost digit is worth all elements of the axes further in. -/
theorem unravel_cons (a : Axis) (axes : List Axis) (k : Nat) :
    unravel (a :: axes) k =
      k / volume (axes.map Axis.extent) ::
        unravel axes (k % volume (axes.map Axis.extent)) := by
  have hinner : (axes.map fun a => a.extent.toNat).foldr (· * ·) 1 =
      volume (axes.map Axis.extent) := by
    rw [volume, List.map_map, List.prod_eq_foldr]
    rfl
  rw [unravel, hinner]

theorem unravel_congr {axes axes' : List Axis} (same : axes'.map Axis.extent = axes.map Axis.extent)
    (k : Nat) : unravel axes' k = unravel axes k := by
  induction axes generalizing axes' k with
  | nil => rw [List.map_eq_nil_iff.mp same]
  | cons a axes ih =>
    cases axes' with
    | nil => cases same
    | cons a' axes' =>
      obtain ⟨_, hrest⟩ := List.cons.inj same
      rw [unravel_cons, unravel_cons, hrest, ih hrest]

theorem unravel_zero (axes : List Axis) : unravel axes 0 = axes.map fun _ => 0 := by
  induction axes with
  | nil => rfl
  | cons a axes ih => rw [unravel_cons, Nat.zero_div, Nat.zero_mod, ih, List.map_cons]

theorem inside_unravel {k : Nat} (hk : k < volume (axes.map Axis.extent)) :
    Inside axes (unravel axes k) := by
  induction axes generalizing k with
  | nil => exact .nil
  | cons a axes ih =>
    rw [List.map_cons, volume_cons] at hk
    have hinner : 0 < volume (axes.map Axis.extent) :=
      Nat.pos_of_ne_zero fun hzero => by simp [hzero] at hk
    rw [unravel_cons]
    exact .cons (Nat.div_lt_of_lt_mul (Nat.mul_comm .. ▸ hk)) (ih (Nat.mod_lt k hinner))

theorem Layout.Exact.inside_unravel {l : Layout} (exact : l.Exact) {k : Nat} (hk : k < l.count) :
    Inside l.axes (unravel l.axes k) := by
  rw [exact.count_eq] at hk
  exact TensorExchange.inside_unravel hk

/-- The odometer moves on to the next number, and from the last one it starts over. -/
theorem advance_unravel {k : Nat} (hk : k < volume (axes.map Axis.extent)) :
    advance axes (unravel axes k) =
      if k + 1 < volume (axes.map Axis.extent) then (unravel axes (k + 1), false)
      else (unravel axes 0, true) := by
  induction axes generalizing k with
  | nil =>
    obtain rfl : k = 0 := by simpa using hk
    rfl
  | cons a axes ih =>
    simp only [List.map_cons, volume_cons] at hk ⊢
    generalize hn : volume (axes.map Axis.extent) = n at hk ih ⊢
    have hinner : 0 < n := Nat.pos_of_ne_zero fun hzero => by simp [hzero] at hk
    have hsplit : n * (k / n) + k % n = k := Nat.div_add_mod k n
    have hdigit : k % n < n := Nat.mod_lt k hinner
    have hplace : k / n < a.extent.toNat := Nat.div_lt_of_lt_mul (Nat.mul_comm .. ▸ hk)
    simp only [unravel_cons, hn, advance, ih hdigit]
    by_cases hinside : k % n + 1 < n
    · -- the digits further in take the step alone
      have hnext : k + 1 = n * (k / n) + (k % n + 1) := by omega
      have hdiv : (k + 1) / n = k / n := by
        rw [hnext, Nat.mul_add_div hinner, Nat.div_eq_of_lt hinside, Nat.add_zero]
      have hmod : (k + 1) % n = k % n + 1 := by
        rw [hnext, Nat.mul_add_mod, Nat.mod_eq_of_lt hinside]
      have hroom : k + 1 < a.extent.toNat * n := by
        have := Nat.mul_le_mul_right n (Nat.succ_le_of_lt hplace)
        rw [Nat.succ_mul, Nat.mul_comm (k / n)] at this
        omega
      simp [hinside, hroom, hdiv, hmod]
    · -- they start over and carry
      have hnext : k + 1 = n * (k / n + 1) := by
        rw [Nat.mul_add, Nat.mul_one]
        omega
      have hdiv : (k + 1) / n = k / n + 1 := by rw [hnext, Nat.mul_div_cancel_left _ hinner]
      have hmod : (k + 1) % n = 0 := by rw [hnext, Nat.mul_mod_right]
      have hcarry : k / n + 1 < a.extent.toNat ↔ k + 1 < a.extent.toNat * n := by
        rw [hnext, Nat.mul_comm a.extent.toNat, Nat.mul_lt_mul_left hinner]
      simp only [hinside, if_false, if_true, hcarry, hdiv, hmod, Nat.zero_div, Nat.zero_mod]

/-! ## Numbering -/

/-- The number of an index in row-major order: a position is worth all elements of the axes further
in. -/
def rowRank : List Axis → List Nat → Nat
  | _ :: axes, i :: index => i * volume (axes.map Axis.extent) + rowRank axes index
  | _, _ => 0

theorem rowRank_congr {axes axes' : List Axis} (same : axes'.map Axis.extent = axes.map Axis.extent)
    (index : List Nat) : rowRank axes' index = rowRank axes index := by
  induction axes generalizing axes' index with
  | nil => rw [List.map_eq_nil_iff.mp same]
  | cons a axes ih =>
    cases axes' with
    | nil => cases same
    | cons a' axes' =>
      obtain ⟨_, hrest⟩ := List.cons.inj same
      cases index with
      | nil => rfl
      | cons i index => rw [rowRank, rowRank, hrest, ih hrest]

theorem Inside.rowRank_lt (inside : Inside axes index) :
    rowRank axes index < volume (axes.map Axis.extent) := by
  induction inside with
  | nil => exact Nat.one_pos
  | @cons a i axes index hi _ ih =>
    rw [rowRank, List.map_cons, volume_cons]
    calc i * volume (axes.map Axis.extent) + rowRank axes index
        < i * volume (axes.map Axis.extent) + volume (axes.map Axis.extent) := by omega
      _ = (i + 1) * volume (axes.map Axis.extent) := (Nat.succ_mul ..).symm
      _ ≤ a.extent.toNat * volume (axes.map Axis.extent) := Nat.mul_le_mul_right _ hi

theorem Inside.unravel_rowRank (inside : Inside axes index) :
    unravel axes (rowRank axes index) = index := by
  induction inside with
  | nil => rfl
  | @cons a i axes index hi tail ih =>
    have hlt : rowRank axes index < _ := Inside.rowRank_lt tail
    have hpos : 0 < volume (axes.map Axis.extent) := Nat.zero_lt_of_lt hlt
    rw [unravel_cons, rowRank, Nat.mul_comm i, Nat.mul_add_div hpos, Nat.div_eq_of_lt hlt,
      Nat.mul_add_mod, Nat.mod_eq_of_lt hlt, ih, Nat.add_zero]

theorem rowRank_unravel {k : Nat} (hk : k < volume (axes.map Axis.extent)) :
    rowRank axes (unravel axes k) = k := by
  induction axes generalizing k with
  | nil => exact (by simpa using hk : k = 0).symm
  | cons a axes ih =>
    rw [List.map_cons, volume_cons] at hk
    have hpos : 0 < volume (axes.map Axis.extent) :=
      Nat.pos_of_ne_zero fun hzero => by simp [hzero] at hk
    rw [unravel_cons, rowRank, ih (Nat.mod_lt k hpos), Nat.div_add_mod']

end TensorExchange
