import Mathlib.Algebra.Group.Basic
import Mathlib.Algebra.Group.Pi.Basic
import Mathlib.Algebra.GroupWithZero.Nat
import Mathlib.Algebra.Notation.Pi.Basic
import TensorExchange.Memory.Heap

/-!
Stakes: which resources a thing keeps alive, and how often.

A resource is whatever is released once: a storage, memory of a backend, memory that was
handed in by value, a tensor of another runtime that has a deleter.  `Stakes` says for each
resource how often it is held, as a function to the natural numbers, so that the stakes of
several things are their sum.

A buffer has a stake in its storage.  What it has of the memory behind the storage it has
through the owner of the storage, whose stakes are counted once however many buffers there
are.  A tensor has the stakes of whoever keeps it: those of the buffer that was exported, or
the deleter of another runtime.  A tensor of another runtime that deletes nothing has none.

So the stakes of everything there is can be added up and compared with the counts that the
heap keeps.  The owners of storages are in a table, and the first half of the file is about
such sums: how the total over a table changes when an entry is added, set or erased, and that
one entry, or two different ones, weigh no more than all.  A `weight` is what one entry
contributes, and 0 where there is none, so that nothing has to be said about numbers that
were never given or are no longer used.

No property of the heap is stated here.
-/

namespace TensorExchange

/-! ## Adding up a table -/

namespace Table

variable {α : Type}

/-- What the things of a table add up to. -/
def total (t : Table α) (f : α → Nat) : Nat := (t.cells.map fun c => c.elim 0 f).sum

@[simp] theorem total_add (t : Table α) (a : α) (f : α → Nat) :
    (t.add a).1.total f = t.total f + f a := by
  simp [total, add]

theorem sum_set_add {M : Type} [AddCommMonoid M] (f : α → M) (c : Option α) :
    ∀ {cells : List (Option α)} {id : Nat} {a : α}, cells[id]? = some (some a) →
      ((cells.set id c).map fun c => c.elim 0 f).sum + f a =
        (cells.map fun c => c.elim 0 f).sum + c.elim 0 f
  | [], _, _, h => by simp at h
  | d :: rest, 0, a, h => by
    obtain rfl : d = some a := by simpa using h
    simp only [List.set_cons_zero, List.map_cons, List.sum_cons, Option.elim_some]
    rw [add_comm (c.elim 0 f), add_right_comm, add_comm _ (f a)]
  | d :: rest, id + 1, a, h => by
    have hrest : rest[id]? = some (some a) := by simpa using h
    have ih := sum_set_add f c hrest
    simp only [List.set_cons_succ, List.map_cons, List.sum_cons]
    rw [add_assoc, ih, add_assoc]

theorem cell_of_get? {t : Table α} {id : Nat} {a : α} (h : t.get? id = some a) :
    t.cells[id]? = some (some a) := by
  simpa [get?, Option.join_eq_some_iff] using h

theorem total_set_add {t : Table α} {id : Nat} {a : α} (h : t.get? id = some a) (b : α)
    (f : α → Nat) : (t.set id b).total f + f a = t.total f + f b :=
  sum_set_add f (some b) (cell_of_get? h)

theorem total_erase_add {t : Table α} {id : Nat} {a : α} (h : t.get? id = some a) (f : α → Nat) :
    (t.erase id).total f + f a = t.total f :=
  sum_set_add f none (cell_of_get? h)

theorem le_total {t : Table α} {id : Nat} {a : α} (h : t.get? id = some a) (f : α → Nat) :
    f a ≤ t.total f := by
  have := total_erase_add h f
  omega

theorem add_le_total {t : Table α} {id id' : Nat} {a a' : α} (h : t.get? id = some a)
    (h' : t.get? id' = some a') (hne : id ≠ id') (f : α → Nat) : f a + f a' ≤ t.total f := by
  have hrest : (t.erase id).get? id' = some a' := by rwa [get?_erase_of_ne t hne]
  have := total_erase_add h f
  have := le_total hrest f
  omega

/-- What adds up to more than nothing is more than nothing somewhere. -/
theorem exists_of_total_ne_zero {t : Table α} {f : α → Nat} (h : t.total f ≠ 0) :
    ∃ id a, t.get? id = some a ∧ f a ≠ 0 := by
  obtain ⟨n, hn, hpos⟩ := List.sum_pos_iff_exists_pos_nat.mp (Nat.pos_of_ne_zero h)
  obtain ⟨c, hc, rfl⟩ := List.mem_map.mp hn
  obtain ⟨id, hid⟩ := List.getElem?_of_mem hc
  cases c with
  | none => simp at hpos
  | some a => exact ⟨id, a, by simp [get?, hid], Nat.ne_of_gt hpos⟩

/-- What the thing with a number adds, nothing where there is none. -/
def weight (t : Table α) (f : α → Nat) (id : Nat) : Nat := (t.get? id).elim 0 f

theorem weight_le_total (t : Table α) (f : α → Nat) (id : Nat) : t.weight f id ≤ t.total f := by
  unfold weight
  cases found : t.get? id with
  | none => exact Nat.zero_le _
  | some a => exact le_total found f

theorem weight_add_weight_le_total (t : Table α) (f : α → Nat) {id other : Nat} (h : id ≠ other) :
    t.weight f id + t.weight f other ≤ t.total f := by
  cases found : t.get? id with
  | none => simpa [weight, found] using weight_le_total t f other
  | some a =>
    cases found' : t.get? other with
    | none => simpa [weight, found'] using weight_le_total t f id
    | some a' => simpa [weight, found, found'] using add_le_total found found' h f

theorem weight_ne_zero_iff {t : Table α} {f : α → Nat} {id : Nat} :
    t.weight f id ≠ 0 ↔ ∃ a, t.get? id = some a ∧ f a ≠ 0 := by
  cases found : t.get? id <;> simp [weight, found]

theorem exists_weight_ne_zero {t : Table α} {f : α → Nat} (h : t.total f ≠ 0) :
    ∃ id, t.weight f id ≠ 0 := by
  obtain ⟨id, a, found, ha⟩ := exists_of_total_ne_zero h
  exact ⟨id, weight_ne_zero_iff.mpr ⟨a, found, ha⟩⟩

theorem weight_of_get? {t : Table α} {id : Nat} {a : α} (h : t.get? id = some a) (f : α → Nat) :
    t.weight f id = f a := by
  rw [weight, h, Option.elim_some]

theorem weight_add (t : Table α) (a : α) (f : α → Nat) (id : Nat) :
    (t.add a).1.weight f id = if id = t.next then f a else t.weight f id := by
  unfold weight
  split
  next h => rw [h, get?_add_next, Option.elim_some]
  next h => rw [get?_add_of_ne t a h]

theorem weight_set {t : Table α} {id : Nat} {a : α} (h : t.get? id = some a) (b : α) (f : α → Nat)
    (other : Nat) : (t.set id b).weight f other = if other = id then f b else t.weight f other := by
  unfold weight
  split
  next heq => rw [heq, get?_set_self (lt_next_of_get? h), Option.elim_some]
  next hne => rw [get?_set_of_ne t b (Ne.symm hne)]

theorem weight_erase (t : Table α) (id : Nat) (f : α → Nat) (other : Nat) :
    (t.erase id).weight f other = if other = id then 0 else t.weight f other := by
  unfold weight
  split
  next heq => rw [heq, get?_erase_self, Option.elim_none]
  next hne => rw [get?_erase_of_ne t (Ne.symm hne)]

end Table

/-! ## Resources -/

/-- What is released once. -/
inductive Resource where
  | storage (id : Nat)
  /-- Memory of a backend, which is given back. -/
  | allocation (allocation : Allocation)
  /-- A block that was handed in by value. -/
  | adopted (block : Nat)
  /-- A tensor of another runtime, whose deleter is called. -/
  | foreign (tensor : Nat)
deriving DecidableEq

/-- How often each resource is held. -/
abbrev Stakes := Resource → Nat

theorem Stakes.add_ne_zero {s : Stakes} {r : Resource} (h : s r ≠ 0) (other : Stakes) :
    (s + other) r ≠ 0 := by
  rw [Pi.add_apply]
  omega

/-- A single stake. -/
def Resource.stake (r : Resource) : Stakes := Pi.single r 1

@[simp] theorem Resource.stake_self (r : Resource) : r.stake r = 1 := Pi.single_eq_same r 1

theorem Resource.stake_apply (r r' : Resource) : r.stake r' = if r' = r then 1 else 0 :=
  Pi.single_apply r 1 r'

theorem Resource.stake_of_ne {r r' : Resource} (h : r' ≠ r) : r.stake r' = 0 :=
  Pi.single_eq_of_ne h 1

theorem Resource.eq_of_stake {r r' : Resource} (h : r.stake r' ≠ 0) : r' = r := by
  by_contra hne
  exact h (stake_of_ne hne)

/-- A buffer holds its storage. -/
def Buffer.stakes (b : Buffer) : Stakes := (Resource.storage b.storage.id).stake

theorem Buffer.stakes_self (b : Buffer) : b.stakes (.storage b.storage.id) ≠ 0 := by
  simp [stakes]

/-- What a tensor holds as long as it is not deleted. -/
def Keeper.stakes : Keeper → Stakes
  | exported buffer => buffer.stakes
  | runtime tensor true => (Resource.foreign tensor).stake
  | runtime _ false => 0
  | nobody => 0

/-- What the owner of a storage holds as long as somebody holds the storage. -/
def Owner.stakes : Owner → Stakes
  | backend allocation => (Resource.allocation allocation).stake
  | adopted block => (Resource.adopted block).stake
  | imported tensor => tensor.keeper.stakes
  | nobody => 0

/-- An owner that holds a storage holds it through a tensor that was exported. -/
theorem Owner.exported_of_stakes {owner : Owner} {id : Nat}
    (h : owner.stakes (.storage id) ≠ 0) :
    ∃ tensor buffer, owner = .imported tensor ∧ tensor.keeper = .exported buffer ∧
      buffer.storage.id = id := by
  cases owner with
  | backend a => exact absurd (Resource.stake_of_ne (by simp)) h
  | adopted block => exact absurd (Resource.stake_of_ne (by simp)) h
  | nobody => exact absurd rfl h
  | imported tensor =>
    cases hkeeper : tensor.keeper with
    | exported buffer =>
      simp only [stakes, hkeeper] at h
      exact ⟨tensor, buffer, rfl, hkeeper, by simpa using (Resource.eq_of_stake h).symm⟩
    | runtime n deletes =>
      simp only [stakes, hkeeper] at h
      cases deletes with
      | false => exact absurd rfl h
      | true => exact absurd (Resource.stake_of_ne (by simp)) h
    | nobody =>
      simp only [stakes, hkeeper] at h
      exact absurd rfl h

/-- What the owners of all storages hold. -/
def Table.owned (t : Table Holding) : Stakes := fun r => t.total fun x => x.owner.stakes r

namespace Table

theorem owned_apply (t : Table Holding) (r : Resource) :
    t.owned r = t.total fun x => x.owner.stakes r := rfl

@[simp] theorem owned_add (t : Table Holding) (x : Holding) :
    (t.add x).1.owned = t.owned + x.owner.stakes := by
  funext r
  exact total_add t x _

/-- The owner alone decides what is held, not how many hold the storage. -/
theorem owned_set_holders {t : Table Holding} {id : Nat} {x : Holding} (h : t.get? id = some x)
    (n : Nat) : (t.set id { x with holders := n }).owned = t.owned := by
  funext r
  exact Nat.add_right_cancel (total_set_add h { x with holders := n } fun x => x.owner.stakes r)

theorem owned_erase {t : Table Holding} {id : Nat} {x : Holding} (h : t.get? id = some x) :
    (t.erase id).owned + x.owner.stakes = t.owned := by
  funext r
  exact total_erase_add h _

end Table

end TensorExchange
