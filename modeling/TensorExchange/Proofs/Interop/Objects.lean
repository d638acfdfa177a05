import Mathlib.Tactic.Abel
import TensorExchange.Interop.Run
import TensorExchange.Proofs.Interop.Deals
import TensorExchange.Proofs.OneShot

/-!
What the objects of a script hold.

A tensor object holds its capsule until that is consumed, and a handle holds its tensor
until that is claimed; after that, as all other objects, they hold nothing.  The bag of all
objects of a script is what it holds, and what a step has taken from one object and not yet
given to another is loose.

A step leads from what is held and loose to what is held and loose after it, by deals:
`Script.Leads strays s loose s' loose'`.  All that is proved of single steps has this form
(`Proofs/Interop/Steps`), and it composes; a step that takes something has it in the second
bag and one that gives something away in the first.

Not everything can be accounted for.  A handle of another runtime that deletes nothing
leaves its tensor to nobody when it goes away unclaimed, which is lawful in the exchange
format.  Such tensors are numbered in `strays`, and `Leads` allows to leave those and no
others.

Objects are known to come about in one of few ways.  `Object.Made` says so of capsules and
handles: a capsule carries a tensor that was read or a buffer, and a handle carries either a
tensor that this library exported, with the deleter that goes with it, or one of another
runtime.  Steps keep it, and `Leads` takes it along, so that what is dropped can be told
from what is left.

Operations on the tables of objects come in pairs here: what they do to the objects, and
that they lead from one bag to the other (`leads_add`, `leads_update`, `leads_release`).
-/

namespace TensorExchange

/-! ## Tables as bags -/

namespace Table

variable {α β : Type} {t : Table α} {id : Nat} {a : α}

/-- What the things of a table hold, all together. -/
def bag (t : Table α) (f : α → Multiset β) : Multiset β := (t.cells.map fun c => c.elim 0 f).sum

@[simp] theorem bag_add (t : Table α) (a : α) (f : α → Multiset β) :
    (t.add a).1.bag f = t.bag f + f a := by
  simp [bag, add]

theorem bag_set_add (h : t.get? id = some a) (b : α) (f : α → Multiset β) :
    (t.set id b).bag f + f a = t.bag f + f b :=
  sum_set_add f (some b) (cell_of_get? h)

theorem bag_erase_add (h : t.get? id = some a) (f : α → Multiset β) :
    (t.erase id).bag f + f a = t.bag f :=
  (sum_set_add f none (cell_of_get? h)).trans (add_zero _)

theorem mem_bag (h : t.get? id = some a) {f : α → Multiset β} {b : β} (hb : b ∈ f a) :
    b ∈ t.bag f := by
  rw [← bag_erase_add h]
  exact Multiset.mem_add.mpr (.inr hb)

theorem exists_of_mem_sum {f : α → Multiset β} {b : β} {cells : List (Option α)}
    (hb : b ∈ (cells.map fun c => c.elim 0 f).sum) : ∃ a, some a ∈ cells ∧ b ∈ f a := by
  induction cells with
  | nil => simp at hb
  | cons c rest ih =>
    rw [List.map_cons, List.sum_cons, Multiset.mem_add] at hb
    rcases hb with hc | hrest
    · cases c with
      | none => simp at hc
      | some a => exact ⟨a, List.mem_cons_self, hc⟩
    · obtain ⟨a, hmem, ha⟩ := ih hrest
      exact ⟨a, List.mem_cons_of_mem _ hmem, ha⟩

theorem exists_of_mem_bag {f : α → Multiset β} {b : β} (hb : b ∈ t.bag f) :
    ∃ id a, t.get? id = some a ∧ b ∈ f a := by
  obtain ⟨a, hmem, ha⟩ := exists_of_mem_sum hb
  obtain ⟨id, hid⟩ := List.getElem?_of_mem hmem
  exact ⟨id, a, by simp [get?, hid], ha⟩

end Table

/-- A capsule as it is made of a tensor whose shape was counted. -/
structure Capsule.Made (c : Capsule) : Prop where
  fresh : c.Fresh
  counted : checkShape c.info.layout.shape = .ok ()

namespace Interop

/-! ## Holding -/

/-- Whether the tensor of a handle can still be claimed. -/
def Handle.unclaimed (x : Handle) : Bool :=
  CapsuleFormat.all.any fun f => x.name == some f.handleName

def Object.things : Object → Multiset Thing
  | tensor c => if c.isConsumed then 0 else {.capsule c}
  | handle x => if x.unclaimed then {.tensor x.tensor} else 0
  | producer .. | plain => 0

/-- A thing that holds nothing but tensors of other runtimes, of those with these numbers. -/
def Stray (strays : List Nat) (x : Thing) : Prop :=
  ∀ r, x.stakes r ≠ 0 → ∃ n ∈ strays, r = .foreign n

/-- A handle that deletes its tensor has the name that tells so until the tensor is claimed; the
tensor of one that does not may be lost. -/
structure Handle.Made (strays : List Nat) (x : Handle) : Prop where
  named : x.deletes = true → x.unclaimed = true → x.name = some x.tensor.format.handleName
  stray : x.deletes = false → x.unclaimed = true → Stray strays (.tensor x.tensor)

/-- The capsule of a tensor object is as it was made, or its tensor was taken. -/
def Object.Made (strays : List Nat) : Object → Prop
  | tensor c => c.Made ∨ ∃ c' : Capsule, c = c'.spent
  | handle x => x.Made strays
  | producer .. | plain => True

theorem stray_of_runtime {strays : List Nat} {t : ManagedTensor} {n : Nat} {deletes : Bool}
    (hkeeper : t.keeper = .runtime n deletes) (hn : n ∈ strays) : Stray strays (.tensor t) := by
  intro r stake
  simp only [Thing.stakes, hkeeper] at stake
  cases deletes with
  | false => exact absurd rfl stake
  | true => exact ⟨n, hn, Resource.eq_of_stake stake⟩

theorem Stray.mono {strays strays' : List Nat} {x : Thing} (h : Stray strays x)
    (sub : strays ⊆ strays') : Stray strays' x := fun r stake =>
  let ⟨n, hn, heq⟩ := h r stake
  ⟨n, sub hn, heq⟩

theorem Object.Made.mono {strays strays' : List Nat} {o : Object} (made : o.Made strays)
    (sub : strays ⊆ strays') : o.Made strays' := by
  cases o with
  | tensor c => exact made
  | handle x =>
    have made : x.Made strays := made
    exact ⟨made.named, fun h h' => (made.stray h h').mono sub⟩
  | producer mode result log => trivial
  | plain => trivial

theorem made_handleOf (strays : List Nat) (t : ManagedTensor) :
    (Script.handleOf t).Made strays :=
  ⟨fun _ _ => rfl, nofun⟩

@[simp] theorem things_spent (c : Capsule) : (Object.tensor c.spent).things = 0 := by
  simp [Object.things, c.isConsumed_spent]

theorem things_of_fresh {c : Capsule} (fresh : c.Fresh) :
    (Object.tensor c).things = {.capsule c} := by
  simp [Object.things, fresh.isOpen.unconsumed]

theorem things_of_named {x : Handle} {f : CapsuleFormat} (h : x.name = some f.handleName) :
    (Object.handle x).things = {.tensor x.tensor} := by
  have hheld : x.unclaimed = true := by
    simp only [Handle.unclaimed, h]
    cases f <;> decide
  simp [Object.things, hheld]

theorem things_of_used {x : Handle} {f : CapsuleFormat} (h : x.name = some f.usedName) :
    (Object.handle x).things = 0 := by
  have hheld : x.unclaimed = false := by
    simp only [Handle.unclaimed, h]
    cases f <;> decide
  simp [Object.things, hheld]

namespace Script

/-- All that the objects of a script hold. -/
def things (s : Script) : Multiset Thing := s.objects.bag fun e => e.object.things

/-- A script as a world, with loose things beside the objects. -/
def world (s : Script) (loose : Multiset Thing) : World := ⟨s.heap, loose + s.things, s.numbered⟩

/-- All handles are as they are made. -/
def Made (strays : List Nat) (s : Script) : Prop :=
  ∀ id e, s.objects.get? id = some e → e.object.Made strays

/-- From a script and loose things deals lead to another script and loose things, apart from
tensors that are left to nobody. -/
structure Leads (strays : List Nat) (s : Script) (loose : Multiset Thing) (s' : Script)
    (loose' : Multiset Thing) : Prop where
  keep : s.Made strays → s'.Made strays ∧
    ∃ left : Multiset Thing, (∀ x ∈ left, Stray strays x) ∧
      Deal (s.world loose) ((s'.world loose').add left)

namespace Leads

variable {strays : List Nat} {s s' s'' : Script} {loose loose' loose'' : Multiset Thing}

theorem of_eq (objects : s'.objects = s.objects) (world : s.world loose = s'.world loose') :
    Leads strays s loose s' loose' := by
  refine ⟨fun made => ⟨fun id e found => made id e (objects ▸ found), 0, by simp, ?_⟩⟩
  rw [world, World.add_zero]
  exact .refl _

theorem refl (s : Script) (loose : Multiset Thing) : Leads strays s loose s loose :=
  of_eq rfl rfl

theorem of_same (same : s' = s) (loose : Multiset Thing) : Leads strays s loose s' loose := by
  rw [same]
  exact refl s loose

theorem trans (l : Leads strays s loose s' loose') (l' : Leads strays s' loose' s'' loose'') :
    Leads strays s loose s'' loose'' := by
  constructor
  intro made
  obtain ⟨made', left, hleft, deal⟩ := l.keep made
  obtain ⟨made'', left', hleft', deal'⟩ := l'.keep made'
  refine ⟨made'', left' + left, fun x hx => ?_, ?_⟩
  · exact (Multiset.mem_add.mp hx).elim (hleft' x) (hleft x)
  · rw [← World.add_add]
    exact deal.trans (deal'.frame left)

theorem of_deal {h : Heap} {n : Nat}
    (deal : Deal (s.world loose) ⟨h, loose' + s.things, n⟩) :
    Leads strays s loose { s with heap := h, numbered := n } loose' := by
  refine ⟨fun made => ⟨made, 0, by simp, ?_⟩⟩
  rw [World.add_zero]
  exact deal

end Leads

/-! ## References and names -/

section References

variable {strays : List Nat} {s : Script} {loose : Multiset Thing} {id : Nat} {e : Entry}

/-- Objects may change hands with what is loose. -/
theorem leads_of_objects {objects : Table Entry} {loose' : Multiset Thing}
    (made : s.Made strays → Made strays { s with objects })
    (same : loose + s.things = loose' + objects.bag fun e => e.object.things) :
    Leads strays s loose { s with objects } loose' := by
  refine ⟨fun k => ⟨made k, 0, by simp, ?_⟩⟩
  rw [World.add_zero, world, same]
  exact .refl _

theorem leads_add {o : Object} (made : o.Made strays) :
    Leads strays s (o.things + loose) (s.add o).1 loose := by
  have hadd : (s.add o).1 = { s with objects := (s.objects.add ⟨o, 1⟩).1 } := rfl
  rw [hadd]
  refine leads_of_objects (fun k => Table.forall_add k made) ?_
  rw [Table.bag_add, ← things]
  abel

/-- An object that is changed gives what it held and takes up what it holds then. -/
theorem leads_update {o : Object} (found : s.objects.get? id = some e) (made : o.Made strays) :
    Leads strays s (o.things + loose) (s.update id o) (e.object.things + loose) := by
  have hupdate : s.update id o = { s with objects := s.objects.set id { e with object := o } } := by
    simp only [update, found]
  rw [hupdate]
  refine leads_of_objects (fun k => Table.forall_set k found made) ?_
  have hthings := Table.bag_set_add found { e with object := o } fun e => e.object.things
  calc o.things + loose + s.things = loose + (s.things + o.things) := by abel
    _ = e.object.things + loose + (s.objects.set id { e with object := o }).bag
        fun e => e.object.things := by
      rw [things, ← hthings]
      abel

/-- The number of references is no matter of what objects hold. -/
theorem leads_count (found : s.objects.get? id = some e) (n : Nat) :
    Leads strays s loose { s with objects := s.objects.set id { e with references := n } }
      loose := by
  refine leads_of_objects (fun k => Table.forall_set k found (k id e found)) ?_
  have hthings := Table.bag_set_add found { e with references := n } fun e => e.object.things
  rw [add_right_cancel hthings, ← things]

theorem leads_retain (s : Script) (id : Nat) (loose : Multiset Thing) :
    Leads strays s loose (s.retain id) loose := by
  unfold retain
  split
  next e found => exact leads_count found _
  next => exact .refl s loose

theorem leads_erase {o : Object} (found : s.objects.get? id = some e) (hobject : e.object = o) :
    Leads strays s loose { s with objects := s.objects.erase id } (o.things + loose) := by
  subst hobject
  refine leads_of_objects (fun k => Table.forall_erase k id) ?_
  have hthings := Table.bag_erase_add found fun e => e.object.things
  rw [things, ← hthings]
  abel

theorem leads_erase_idle {o : Object} (found : s.objects.get? id = some e) (hobject : e.object = o)
    (idle : o.things = 0) :
    Leads strays s loose { s with objects := s.objects.erase id } loose := by
  have herase : Leads strays s loose { s with objects := s.objects.erase id } (o.things + loose) :=
    leads_erase found hobject
  rwa [idle, zero_add] at herase

/-- What holds nothing else may be left to nobody. -/
theorem leads_leave {left : Multiset Thing} (hleft : ∀ x ∈ left, Stray strays x) :
    Leads strays s (left + loose) s loose := by
  refine ⟨fun k => ⟨k, left, hleft, ?_⟩⟩
  rw [world, add_assoc, add_comm left]
  exact .refl _

/-- A handle that goes away deletes the tensor that it holds, or leaves it to nobody. -/
theorem leads_dropHandle {x : Handle} (made : x.Made strays) :
    Leads strays s ((Object.handle x).things + loose) { s with heap := dropHandle s.heap x }
      loose := by
  unfold dropHandle
  split
  case isTrue h =>
    refine .of_deal ?_
    simp only [things_of_named h.2, world, Multiset.singleton_add, Multiset.cons_add]
    exact .delete x.tensor
  case isFalse h =>
    refine leads_leave fun y hy => ?_
    by_cases hheld : x.unclaimed = true
    · have hdeletes : x.deletes = false :=
        Bool.eq_false_iff.mpr fun hdeletes => h ⟨hdeletes, made.named hdeletes hheld⟩
      obtain rfl : y = .tensor x.tensor := by simpa [Object.things, hheld] using hy
      exact made.stray hdeletes hheld
    · simp [Object.things, hheld] at hy

/-- A tensor object that goes away deletes the tensor that it holds. -/
theorem leads_dropCapsule {c : Capsule} (made : Object.Made strays (.tensor c)) :
    Leads strays s ((Object.tensor c).things + loose) { s with heap := s.heap.dropCapsule c }
      loose := by
  rcases made with made | ⟨c', rfl⟩
  · refine .of_deal ?_
    simp only [things_of_fresh made.fresh, world, Multiset.singleton_add, Multiset.cons_add]
    exact .dropCapsule c
  · rw [things_spent, zero_add, Heap.dropCapsule_spent]
    exact .refl s loose

/-- A change that may rely on how the handles and tensor objects are made. -/
theorem Leads.of_made {s' : Script} {loose' : Multiset Thing}
    (l : s.Made strays → Leads strays s loose s' loose') : Leads strays s loose s' loose' :=
  ⟨fun made => (l made).keep made⟩

theorem leads_release (s : Script) (id : Nat) (loose : Multiset Thing) :
    Leads strays s loose (s.release id) loose := by
  fun_induction Script.release s id with
  | case1 s id gone => exact .refl s loose
  | case2 s id e found hmore => exact leads_count found _
  | case3 s id e found hlast rest c hobject =>
    refine .of_made fun k => (leads_erase found hobject).trans (leads_dropCapsule (s := rest) ?_)
    exact hobject ▸ k id e found
  | case4 s id e found hlast rest x hobject =>
    refine .of_made fun k => (leads_erase found hobject).trans
      (leads_dropHandle (s := rest) (x := x) ?_)
    have made := k id e found
    rwa [hobject] at made
  | case5 s id e found hlast rest mode result log hobject ih =>
    exact (leads_erase_idle found hobject rfl).trans ih
  | case6 s id e found hlast rest mode log hobject => exact leads_erase_idle found hobject rfl
  | case7 s id e found hlast rest hobject => exact leads_erase_idle found hobject rfl

theorem leads_names (s : Script) (names : Slots Nat) (loose : Multiset Thing) :
    Leads strays s loose { s with names } loose := .of_eq rfl rfl

theorem leads_logs (s : Script) (logs : Table (List Request)) (loose : Multiset Thing) :
    Leads strays s loose { s with logs } loose := .of_eq rfl rfl

theorem leads_foreigners (s : Script) (foreigners : Slots Nat) (loose : Multiset Thing) :
    Leads strays s loose { s with foreigners } loose := .of_eq rfl rfl

theorem leads_unbind (s : Script) (name : String) (loose : Multiset Thing) :
    Leads strays s loose (s.unbind name) loose := by
  unfold unbind
  split
  next id _ => exact (leads_names s _ loose).trans (leads_release _ id loose)
  next => exact .refl s loose

theorem leads_bind (s : Script) (name : String) {o : Object} (made : o.Made strays)
    (loose : Multiset Thing) : Leads strays s (o.things + loose) (s.bind name o) loose :=
  (leads_add made).trans
    ((leads_unbind (s.add o).1 name loose).trans (leads_names _ _ loose))

end References

end Script

end Interop

end TensorExchange
