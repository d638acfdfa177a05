import Mathlib.Algebra.BigOperators.Group.Multiset.Basic
import Mathlib.Logic.Relation
import TensorExchange.Buffer.Array
import TensorExchange.Buffer.Write
import TensorExchange.Exchange.Foreign
import TensorExchange.Proofs.Exchange.Describe
import TensorExchange.Proofs.Ownership.Balance
import TensorExchange.Proofs.Result
import TensorExchange.Registry

/-!
Worlds: a heap with everything that clients hold, and the moves it can make.

A client holds buffers, capsules, tensors on their way and raw memory.  A world is a heap and
the bag of all that is held, by whomever and under whatever name, with the number of tensors
that other runtimes have lent so far.

A move is one elementary operation on what is held: something is made, or made of something
that is held, or let go.  What a session or a script does is a chain of moves.  Whatever each
move keeps therefore holds in every world that can be reached, and all invariants of this
library are proved by cases on `Move`:

    Proofs/Ownership/Reachable   the books are balanced
    Proofs/Ownership/Journal     a move is one event at most
    Proofs/Soundness             buffers lie in their storages, storages in memory
    Proofs/Soundness/Rooted      facts that are settled when a thing is made

A move takes a thing out of the bag only by letting go of it or by making something of it, so
that nothing is used after it was given away.  Where an operation needs a thing and does not
take it, as a view does, the bag has to contain it.

The second half of the file inverts the operations on capsules: what they give if they
succeed, and that they leave what they were given if they are refused
(`Capsule.leaves_consumeAs`, `Capsule.leaves_takeTensor`, `Allocator.leaves_allocate`).
Other proofs cite these and do not open the operations.
-/

namespace TensorExchange

/-- Something that a client holds. -/
inductive Thing where
  | buffer (buffer : Buffer)
  | capsule (capsule : Capsule)
  /-- A managed tensor on its way. -/
  | tensor (tensor : ManagedTensor)
  /-- Raw memory. -/
  | allocation (allocation : Allocation)

/-- A consumed capsule holds nothing any more. -/
def Contents.stakes : Contents → Stakes
  | native (some buffer) => buffer.stakes
  | foreign _ (some tensor) => tensor.keeper.stakes
  | native none | foreign _ none => 0

def Thing.stakes : Thing → Stakes
  | buffer b => b.stakes
  | capsule c => c.contents.stakes
  | tensor t => t.keeper.stakes
  | allocation a => (Resource.allocation a).stake

/-- A heap, what clients hold, and how many tensors of other runtimes and accounts there were. -/
structure World where
  heap : Heap
  things : Multiset Thing
  numbered : Nat

namespace World

/-- The stakes of what clients hold. -/
def held (things : Multiset Thing) : Stakes := (things.map Thing.stakes).sum

@[simp] theorem held_cons (x : Thing) (things : Multiset Thing) :
    held (x ::ₘ things) = held things + x.stakes := by
  simp [held, add_comm]

theorem held_add (things more : Multiset Thing) :
    held (things + more) = held things + held more := by
  simp [held]

theorem stakes_le_held {x : Thing} {things : Multiset Thing} (h : x ∈ things) (r : Resource) :
    x.stakes r ≤ held things r := by
  obtain ⟨rest, rfl⟩ := Multiset.exists_cons_of_mem h
  simp

theorem held_ne_zero {x : Thing} {things : Multiset Thing} {r : Resource} (h : x ∈ things)
    (stake : x.stakes r ≠ 0) : held things r ≠ 0 := by
  have := stakes_le_held h r
  omega

/-- What clients hold has the stakes of one of them at least. -/
theorem exists_of_held {things : Multiset Thing} {r : Resource} (h : held things r ≠ 0) :
    ∃ x ∈ things, x.stakes r ≠ 0 := by
  induction things using Multiset.induction with
  | empty => exact absurd rfl h
  | cons x rest ih =>
    by_cases hx : x.stakes r = 0
    · obtain ⟨y, hy, hstake⟩ := ih (by simpa [hx] using h)
      exact ⟨y, Multiset.mem_cons_of_mem hy, hstake⟩
    · exact ⟨x, Multiset.mem_cons_self x rest, hx⟩

end World

/-! ## Moves -/

/-- The elementary operations on what clients hold. -/
inductive Move : World → World → Prop
  | adopt (h things n type bytes) (small : Array.size bytes ≤ maxSize) :
    Move ⟨h, things, n⟩
      ⟨(Buffer.ofBytes h type bytes).1, .buffer (Buffer.ofBytes h type bytes).2 ::ₘ things, n⟩
  | allocate {h things n a type shape device h' b}
      (ok : Allocator.allocate a h type shape device = .ok (h', b)) :
    Move ⟨h, things, n⟩ ⟨h', .buffer b ::ₘ things, n⟩
  | view {h things n b shape strides byteOffset layout} (mem : .buffer b ∈ things)
      (ok : b.viewLayout shape strides byteOffset = .ok layout) :
    Move ⟨h, things, n⟩ ⟨h.retain b.storage, .buffer (b.withLayout layout) ::ₘ things, n⟩
  | reshape {h things n b shape layout} (mem : .buffer b ∈ things)
      (ok : b.reshapeLayout shape = .ok layout) :
    Move ⟨h, things, n⟩ ⟨h.retain b.storage, .buffer (b.withLayout layout) ::ₘ things, n⟩
  | write {h things n b w} (position data) (mem : .buffer b ∈ things) (ok : b.window h = .ok w) :
    Move ⟨h, things, n⟩ ⟨h.writeWindow w position data, things, n⟩
  | drop (h things n b) : Move ⟨h, .buffer b ::ₘ things, n⟩ ⟨h.drop b, things, n⟩
  | wrap (h things n b o) :
    Move ⟨h, .buffer b ::ₘ things, n⟩ ⟨h, .capsule (.wrapWith b o) ::ₘ things, n⟩
  | consume {h things n c a h' c' b} (ok : Capsule.consumeAs h c a = .ok (h', c', b)) :
    Move ⟨h, .capsule c ::ₘ things, n⟩ ⟨h', .capsule c' ::ₘ .buffer b ::ₘ things, n⟩
  | takeTensor {h things n c c' t} (ok : Capsule.takeTensor c = .ok (c', t)) :
    Move ⟨h, .capsule c ::ₘ things, n⟩ ⟨h, .capsule c' ::ₘ .tensor t ::ₘ things, n⟩
  | dropCapsule (h things n c) : Move ⟨h, .capsule c ::ₘ things, n⟩ ⟨h.dropCapsule c, things, n⟩
  | importTensor {h things n t c} (ok : Capsule.ofTensor t = .ok c) :
    Move ⟨h, .tensor t ::ₘ things, n⟩ ⟨h, .capsule c ::ₘ things, n⟩
  | delete (h things n t) : Move ⟨h, .tensor t ::ₘ things, n⟩ ⟨h.delete t, things, n⟩
  | lend (h things n f) :
    Move ⟨h, things, n⟩
      ⟨(h.addForeign f (n + 1)).1, .tensor (h.addForeign f (n + 1)).2 ::ₘ things, n + 1⟩
  | skip (h things n) : Move ⟨h, things, n⟩ ⟨h, things, n + 1⟩
  | obtain {h things n backend size alignment device h' a}
      (ok : Heap.allocate h backend size alignment device = .ok (h', a)) :
    Move ⟨h, things, n⟩ ⟨h', .allocation a ::ₘ things, n⟩
  | giveBack (h things n a) : Move ⟨h, .allocation a ::ₘ things, n⟩ ⟨h.free a, things, n⟩

/-- A chain of moves. -/
abbrev Moves : World → World → Prop := Relation.ReflTransGen Move

/-! ## What operations do to capsules -/

theorem Contents.stakes_spent (c : Capsule) : c.spent.contents.stakes = 0 := by
  unfold Capsule.spent Capsule.emptied
  split <;> rfl

theorem Capsule.storage_deliver (c : Capsule) (b : Buffer) : (c.deliver b).storage = b.storage := by
  unfold Capsule.deliver
  split <;> rfl

theorem Capsule.isConsumed_eq_false_iff {c : Capsule} :
    c.isConsumed = false ↔ c.state = .unconsumed := by
  simp [isConsumed]

theorem Capsule.cargo?_eq_some_iff {c : Capsule} {cargo : Cargo} :
    c.cargo? = some cargo ↔
      (∃ b, c.contents = .native (some b) ∧ cargo = .buffer b) ∨
        ∃ d t, c.contents = .foreign d (some t) ∧ cargo = .tensor d t := by
  unfold cargo?
  split
  next b hcontents => cases b <;> simp [hcontents, eq_comm]
  next d t hcontents => cases t <;> simp [hcontents, eq_comm]

theorem Capsule.emptied_of_cargo?_none {c : Capsule} (h : c.cargo? = none) : c.emptied = c := by
  obtain ⟨info, base, state, contents⟩ := c
  cases contents with
  | native b =>
    cases b with
    | none => rfl
    | some b => cases h
  | foreign d t =>
    cases t with
    | none => rfl
    | some t => cases h

theorem Capsule.cargo?_spent (c : Capsule) : c.spent.cargo? = none := by
  obtain ⟨info, base, state, contents⟩ := c
  cases contents <;> rfl

theorem Heap.dropCapsule_spent (h : Heap) (c : Capsule) : h.dropCapsule c.spent = h := by
  simp only [dropCapsule, Capsule.tensor?, c.cargo?_spent, Option.map_none]

/-! ### Consuming -/

/-- A capsule is consumed if it was not before, the consumer may, and something is in it. -/
theorem Capsule.take_eq_ok {c c' : Capsule} {check : Except Error Unit} {cargo : Cargo}
    (ok : c.take check = .ok (c', cargo)) :
    c.state = .unconsumed ∧ check = .ok () ∧ c' = c.spent ∧ c.cargo? = some cargo := by
  obtain ⟨hunconsumed, ok⟩ := guard_eq_ok.mp ok
  obtain ⟨⟨⟩, hcheck, ok⟩ := bind_eq_ok.mp ok
  split at ok
  next cargo' hcargo =>
    obtain ⟨rfl, rfl⟩ := Prod.mk.inj (pure_eq_ok.mp ok)
    rw [Bool.not_eq_true, isConsumed_eq_false_iff] at hunconsumed
    exact ⟨hunconsumed, leaving_eq_ok.mp hcheck, rfl, hcargo⟩
  next => cases ok

/-- However the step fails, the capsule is as it was: the checks come before anything leaves it, and
when nothing is in it, emptying it does nothing. -/
theorem Capsule.leaves_take {c : Capsule} {check : Except Error Unit} :
    Leaves c (c.take check) := by
  unfold take
  by_cases hconsumed : c.isConsumed = true
  · rw [if_pos hconsumed]
    exact .error
  rw [if_neg hconsumed]
  refine .bind leaves_leaving fun _ _ => ?_
  cases hcargo : c.cargo? with
  | some cargo => exact .ok
  | none =>
    change Leaves c (.error ⟨Error.alreadyConsumed, c.emptied⟩)
    rw [emptied_of_cargo?_none hcargo]
    exact .error

/-- A consumer that succeeds found the tensor there and accepts its device; the tensor leaves the
capsule as a buffer. -/
theorem Capsule.consumeAs_eq_ok {h h' : Heap} {c c' : Capsule} {a : Accept} {b : Buffer}
    (ok : c.consumeAs h a = .ok (h', c', b)) :
    a.permits c.info.device = true ∧ c' = c.spent ∧
      ((∃ inner, c.contents = .native (some inner) ∧ h' = h ∧ b = c.deliver inner) ∨
        ∃ d t, c.contents = .foreign d (some t) ∧ h' = (h.adopt t d).1 ∧
          b = c.deliver (h.adopt t d).2) := by
  obtain ⟨⟨spent, cargo⟩, htake, ok⟩ := bind_eq_ok.mp ok
  obtain ⟨_, hcheck, rfl, hcargo⟩ := take_eq_ok (mapError_eq_ok.mp htake)
  have hpermits := Accept.check_eq_ok_iff.mp hcheck
  rcases cargo?_eq_some_iff.mp hcargo with ⟨inner, hcontents, rfl⟩ | ⟨d, t, hcontents, rfl⟩
  · obtain ⟨rfl, rfl, rfl⟩ := by simpa [pure_eq_ok] using ok
    exact ⟨hpermits, rfl, .inl ⟨inner, hcontents, rfl, rfl⟩⟩
  · obtain ⟨rfl, rfl, rfl⟩ := by simpa [pure_eq_ok] using ok
    exact ⟨hpermits, rfl, .inr ⟨d, t, hcontents, rfl, rfl⟩⟩

theorem Capsule.unconsumed_of_consumeAs {h : Heap} {c : Capsule} {a : Accept}
    {r : Heap × Capsule × Buffer} (ok : c.consumeAs h a = .ok r) : c.isConsumed = false := by
  obtain ⟨_, htake, _⟩ := bind_eq_ok.mp ok
  exact isConsumed_eq_false_iff.mpr (take_eq_ok (mapError_eq_ok.mp htake)).1

/-- A consumer that fails leaves the heap and the capsule; once it has the tensor it cannot fail. -/
theorem Capsule.leaves_consumeAs {h : Heap} {c : Capsule} {a : Accept} :
    Leaves (h, c) (c.consumeAs h a) := by
  refine .bind (leaves_take.mapError fun _ => rfl) fun ⟨spent, cargo⟩ _ => ?_
  cases cargo with
  | buffer b => exact .ok
  | tensor d t => exact .ok

theorem Capsule.tensor?_eq_some {c : Capsule} {t : ManagedTensor} (h : c.tensor? = some t) :
    (∃ inner, c.contents = .native (some inner) ∧
        t = .ofBuffer inner c.info.format c.info.readOnly) ∨
      ∃ d t', c.contents = .foreign d (some t') ∧ t = { t' with handedOut := true } := by
  obtain ⟨cargo, hcargo, rfl⟩ := Option.map_eq_some_iff.mp h
  rcases cargo?_eq_some_iff.mp hcargo with ⟨inner, hcontents, rfl⟩ | ⟨d, t', hcontents, rfl⟩
  · exact .inl ⟨inner, hcontents, rfl⟩
  · exact .inr ⟨d, t', hcontents, rfl⟩

theorem Capsule.stakes_tensor? {c : Capsule} {t : ManagedTensor} (h : c.tensor? = some t) :
    t.keeper.stakes = c.contents.stakes := by
  rcases tensor?_eq_some h with ⟨inner, hcontents, rfl⟩ | ⟨d, t', hcontents, rfl⟩
  · rw [hcontents]
    rfl
  · rw [hcontents]
    rfl

theorem Capsule.stakes_of_tensor?_none {c : Capsule} (h : c.tensor? = none) :
    c.contents.stakes = 0 := by
  rw [tensor?, Option.map_eq_none_iff] at h
  rw [← Contents.stakes_spent c, spent, emptied_of_cargo?_none h]

theorem Capsule.takeTensor_eq_ok {c c' : Capsule} {t : ManagedTensor}
    (ok : c.takeTensor = .ok (c', t)) : c' = c.spent ∧ c.tensor? = some t := by
  obtain ⟨⟨spent, cargo⟩, htake, ok⟩ := bind_eq_ok.mp ok
  obtain ⟨rfl, rfl⟩ := Prod.mk.inj (pure_eq_ok.mp ok)
  obtain ⟨_, _, rfl, hcargo⟩ := take_eq_ok htake
  exact ⟨rfl, by rw [tensor?, hcargo, Option.map_some]⟩

theorem Capsule.unconsumed_of_takeTensor {c : Capsule} {r : Capsule × ManagedTensor}
    (ok : c.takeTensor = .ok r) : c.isConsumed = false := by
  obtain ⟨_, htake, _⟩ := bind_eq_ok.mp ok
  exact isConsumed_eq_false_iff.mpr (take_eq_ok htake).1

theorem Capsule.leaves_takeTensor {c : Capsule} : Leaves c c.takeTensor :=
  .bind leaves_take fun _ _ => .ok

/-! ### Importing -/

/-- An imported tensor is described before it is put into a capsule. -/
theorem Capsule.ofTensor_eq_ok {t : ManagedTensor} {c : Capsule} (ok : Capsule.ofTensor t = .ok c) :
    ∃ d, Described.ofTensor t = .ok d ∧
      c = ⟨⟨d.layout, d.type, d.device, t.format, d.readOnly⟩, d.base, .unconsumed,
        .foreign d (some t)⟩ := by
  obtain ⟨d, hd, hc⟩ := bind_eq_ok.mp ok
  exact ⟨d, hd, (pure_eq_ok.mp hc).symm⟩

/-- Importing a tensor leaves the heap alone, whether the tensor is refused or not. -/
theorem Capsule.importTensor_eq (h : Heap) (t : ManagedTensor) :
    importTensor h t = unchanged h (ofTensor t) := by
  rw [importTensor, Described.read_eq, ofTensor]
  cases Described.ofTensor t <;> rfl

theorem Capsule.importTensor_eq_ok {h h' : Heap} {t : ManagedTensor} {c : Capsule}
    (ok : importTensor h t = .ok (h', c)) : h' = h ∧ ofTensor t = .ok c := by
  rw [importTensor_eq] at ok
  exact unchanged_eq_ok_iff.mp ok

theorem Capsule.leaves_importTensor {h : Heap} {t : ManagedTensor} :
    Leaves h (importTensor h t) := by
  rw [importTensor_eq]
  exact leaves_unchanged

/-! ## Allocating -/

theorem Allocator.allocate_eq_ok {a : Allocator} {h h' : Heap} {type : ElementType}
    {shape : List UInt64} {device : Device} {b : Buffer}
    (ok : a.allocate h type shape device = .ok (h', b)) :
    ∃ layout n, a.plan type shape device = .ok (layout, n) ∧
      ((n = 0 ∧ ∃ s, h.addEmptyStorage (a.alignmentFor type) device = (h', s) ∧
          b = .ofStorage s layout type) ∨
        ∃ h₁ allocation s, n ≠ 0 ∧
          h.allocate a.backend n (a.alignmentFor type) device = .ok (h₁, allocation) ∧
          h₁.addStorage (.backend allocation) (.within allocation.block 0) n
            (some (a.alignmentFor type)) device false = (h', s) ∧
          b = .ofStorage s layout type) := by
  obtain ⟨⟨layout, n⟩, hplan, ok⟩ := bind_eq_ok.mp ok
  refine ⟨layout, n, leaving_eq_ok.mp hplan, ?_⟩
  by_cases hn : n = 0
  · simp only [hn, if_true, pure_eq_ok] at ok
    obtain ⟨rfl, rfl⟩ := by simpa using ok
    exact .inl ⟨hn, _, rfl, rfl⟩
  · simp only [hn, if_false] at ok
    obtain ⟨⟨h₁, allocation⟩, halloc, ok⟩ := bind_eq_ok.mp ok
    obtain ⟨rfl, rfl⟩ := by simpa [pure_eq_ok] using ok
    exact .inr ⟨h₁, allocation, _, hn, halloc, rfl, rfl⟩

theorem Heap.leaves_allocate {h : Heap} {backend : Backend} {size alignment : Nat}
    {device : Device} : Leaves h (h.allocate backend size alignment device) :=
  .bind leaves_leaving fun _ _ => .ok

theorem Allocator.leaves_allocate {a : Allocator} {h : Heap} {type : ElementType}
    {shape : List UInt64} {device : Device} : Leaves h (a.allocate h type shape device) := by
  refine .bind leaves_leaving fun ⟨layout, n⟩ _ => ?_
  by_cases hn : n = 0
  · simp only [if_pos hn]
    exact .ok
  · simp only [if_neg hn]
    exact .bind Heap.leaves_allocate fun _ _ => .ok

end TensorExchange
