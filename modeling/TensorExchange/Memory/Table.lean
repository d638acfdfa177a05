/-!
Tables of things that have an identity.

Adding a thing gives it a number that nothing had before; the number stays its
own, also after it was erased, so it can never name another thing by mistake.
Main statements: what is looked up after each operation, and that erasing what
is there makes the table smaller.
-/

namespace TensorExchange

/-- Things by number; an erased one leaves its place empty. -/
structure Table (α : Type) where
  cells : List (Option α)

namespace Table

variable {α : Type}

def empty : Table α := ⟨[]⟩

instance : Inhabited (Table α) := ⟨empty⟩

/-- The number that the next thing gets. -/
def next (t : Table α) : Nat := t.cells.length

def get? (t : Table α) (id : Nat) : Option α := (t.cells[id]?).join

def add (t : Table α) (a : α) : Table α × Nat := (⟨t.cells ++ [some a]⟩, t.next)

/-- Replaces the thing with a number. -/
def set (t : Table α) (id : Nat) (a : α) : Table α := ⟨t.cells.set id (some a)⟩

def erase (t : Table α) (id : Nat) : Table α := ⟨t.cells.set id none⟩

/-- How many things the table has. -/
def size (t : Table α) : Nat := t.cells.countP Option.isSome

/-! ## What is looked up -/

theorem lt_next_of_get? {t : Table α} {id : Nat} {a : α} (h : t.get? id = some a) :
    id < t.next := by
  by_cases hid : id < t.cells.length
  · exact hid
  · simp [get?, List.getElem?_eq_none (Nat.le_of_not_lt hid)] at h

theorem get?_next (t : Table α) : t.get? t.next = none := by
  simp [get?, next]

theorem get?_add_next (t : Table α) (a : α) : (t.add a).1.get? t.next = some a := by
  simp [add, get?, next]

theorem get?_add_of_ne (t : Table α) (a : α) {id : Nat} (h : id ≠ t.next) :
    (t.add a).1.get? id = t.get? id := by
  simp only [add, get?, next] at *
  rcases Nat.lt_or_gt_of_ne h with hlt | hgt
  · rw [List.getElem?_append_left hlt]
  · rw [List.getElem?_eq_none (by simp; omega), List.getElem?_eq_none (by omega)]

theorem get?_set_self {t : Table α} {id : Nat} (h : id < t.next) (a : α) :
    (t.set id a).get? id = some a := by
  simp only [next] at h
  simp [set, get?, h]

theorem get?_set_of_ne (t : Table α) (a : α) {id other : Nat} (h : id ≠ other) :
    (t.set id a).get? other = t.get? other := by
  simp [set, get?, List.getElem?_set_ne h]

theorem get?_erase_self (t : Table α) (id : Nat) : (t.erase id).get? id = none := by
  by_cases h : id < t.cells.length
  · simp [erase, get?, h]
  · have hle : t.cells.length ≤ id := Nat.le_of_not_lt h
    have hnone : (t.cells.set id none)[id]? = none := List.getElem?_eq_none (by simpa using hle)
    simp [erase, get?, hnone]

theorem get?_erase_of_ne (t : Table α) {id other : Nat} (h : id ≠ other) :
    (t.erase id).get? other = t.get? other := by
  simp [erase, get?, List.getElem?_set_ne h]

theorem set_eq_self {t : Table α} {id : Nat} {a : α} (found : t.get? id = some a) :
    t.set id a = t := by
  have hcell : t.cells[id]? = some (some a) := Option.join_eq_some_iff.mp found
  obtain ⟨hid, hcell⟩ := List.getElem?_eq_some_iff.mp hcell
  rw [set, ← hcell, List.set_getElem_self]

theorem set_set (t : Table α) (id : Nat) (a b : α) : (t.set id b).set id a = t.set id a := by
  simp [set]

/-! ## What holds of all things -/

theorem forall_add {t : Table α} {a : α} {p : α → Prop} (h : ∀ id a, t.get? id = some a → p a)
    (ha : p a) : ∀ id b, (t.add a).1.get? id = some b → p b := by
  intro id b found
  by_cases hid : id = t.next
  · subst hid
    rw [get?_add_next] at found
    exact Option.some.inj found ▸ ha
  · exact h id b ((get?_add_of_ne _ _ hid).symm.trans found)

theorem forall_set {t : Table α} {id : Nat} {a b : α} {p : α → Prop}
    (h : ∀ id a, t.get? id = some a → p a) (hid : t.get? id = some a) (hb : p b) :
    ∀ other c, (t.set id b).get? other = some c → p c := by
  intro other c found
  by_cases hother : id = other
  · subst hother
    rw [get?_set_self (lt_next_of_get? hid)] at found
    exact Option.some.inj found ▸ hb
  · exact h other c ((get?_set_of_ne _ _ hother).symm.trans found)

theorem forall_erase {t : Table α} {p : α → Prop} (h : ∀ id a, t.get? id = some a → p a)
    (id : Nat) : ∀ other c, (t.erase id).get? other = some c → p c := by
  intro other c found
  by_cases hother : id = other
  · subst hother
    simp [get?_erase_self] at found
  · exact h other c ((get?_erase_of_ne _ hother).symm.trans found)

/-! ## Size -/

theorem countP_set_none_lt (cells : List (Option α)) :
    ∀ {id : Nat} {a : α}, cells[id]? = some (some a) →
      (cells.set id none).countP Option.isSome < cells.countP Option.isSome := by
  induction cells with
  | nil => simp
  | cons c rest ih =>
    intro id a h
    cases id with
    | zero =>
      simp only [List.getElem?_cons_zero, Option.some.injEq] at h
      subst h
      simp
    | succ id =>
      simp only [List.getElem?_cons_succ] at h
      have := ih h
      simp only [List.set_cons_succ, List.countP_cons]
      omega

theorem size_erase_lt {t : Table α} {id : Nat} {a : α} (h : t.get? id = some a) :
    (t.erase id).size < t.size := by
  have hcell : t.cells[id]? = some (some a) := by
    simpa [get?, Option.join_eq_some_iff] using h
  exact countP_set_none_lt t.cells hcell

end Table

end TensorExchange
