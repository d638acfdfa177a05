import TensorExchange.Proofs.Interop.References
import TensorExchange.Proofs.Release

/-!
Custody: every tensor has exactly one custodian until its deleter runs.

A tensor travels.  It is made by one runtime, put in a handle, claimed by another, imported
and consumed, and at each stop somebody has to delete it or to pass it on: a tensor object
that was not consumed, a handle under an unclaimed name, a consumer elsewhere that took it,
or a storage that was made of it.  These are the custodians.

Main statement (`Scene.custody_run`): whatever the script and the other runtimes do, in any
order, nothing ever has two custodians.  As long as a tensor has one its deleter did not
run, and when it has none any more the deleter ran once.  The same holds for storages and
for memory.  A claim that is refused takes nothing: what it leaves behind is said with the
script that the refusal carries.

The one way to lose a tensor is a handle of another runtime that deletes nothing when it
goes away unclaimed.  `Settled` is said of all others, and of those as soon as they were
claimed.

Custody would say little if objects stayed for ever.  Names are references to objects, and
an object goes with its last reference (`Proofs/Interop/References`), so a script that ends
by deleting its names (`Scene.close`) has no objects then (`closed`).  If consumers have
deleted what they took, nothing is left at all: no storage, no memory that was not given
back once, and no deleter of a settled tensor that did not run once (`ended`).

The proof counts.  Each custodian has a weight in each resource, the weights add up to the
stakes that the books are kept in (`stakes_eq`), and balanced books allow a stake of one at
most (`stakes_le_one`); so there is at most one custodian with a weight, and one exactly
while the resource is out.
-/

namespace TensorExchange

theorem World.held_bag {α : Type} (t : Table α) (f : α → Multiset Thing) (r : Resource) :
    held (t.bag f) r = t.total fun a => held (f a) r := by
  unfold Table.bag Table.total
  induction t.cells with
  | nil => rfl
  | cons c rest ih =>
    rw [List.map_cons, List.sum_cons, held_add, Pi.add_apply, ih, List.map_cons, List.sum_cons]
    cases c <;> rfl

namespace Interop

theorem held_things_tensor (c : Capsule) : World.held (Object.tensor c).things =
    if c.isConsumed then 0 else c.contents.stakes := by
  cases h : c.isConsumed <;> simp [Object.things, h, World.held, Thing.stakes]

theorem held_things_handle (x : Handle) : World.held (Object.handle x).things =
    if x.unclaimed then x.tensor.keeper.stakes else 0 := by
  cases h : x.unclaimed <;> simp [Object.things, h, World.held, Thing.stakes]

/-! ## Custodians -/

/-- Whoever has to delete something, or to pass it on. -/
inductive Custodian where
  | object (id : Nat)
  | consumer (id : Nat)
  | storage (id : Nat)
deriving DecidableEq

/-- In whose custody something is. -/
inductive Scene.Keeps (s : Scene) (r : Resource) : Custodian → Prop
  /-- A tensor object that was not consumed. -/
  | tensor {id : Nat} {c : Capsule} {n : Nat}
      (found : s.script.objects.get? id = some ⟨.tensor c, n⟩) (unconsumed : c.isConsumed = false)
      (stake : c.contents.stakes r ≠ 0) : Keeps s r (.object id)
  /-- A handle under its unclaimed name. -/
  | handle {id : Nat} {x : Handle} {n : Nat}
      (found : s.script.objects.get? id = some ⟨.handle x, n⟩) (unclaimed : x.unclaimed = true)
      (stake : x.tensor.keeper.stakes r ≠ 0) : Keeps s r (.object id)
  /-- The consumer that took a tensor. -/
  | consumer {id : Nat} {t : ManagedTensor} (found : s.abroad.get? id = some t)
      (stake : t.keeper.stakes r ≠ 0) : Keeps s r (.consumer id)
  /-- A storage, whose owner was a tensor or memory before. -/
  | storage {id : Nat} {x : Holding} (found : s.heap.holdings.get? id = some x)
      (stake : x.owner.stakes r ≠ 0) : Keeps s r (.storage id)

namespace Scene

/-- The stakes that are in the custody of somebody. -/
def weight (s : Scene) (r : Resource) : Custodian → Nat
  | .object id => s.script.objects.weight (fun e => World.held e.object.things r) id
  | .consumer id => s.abroad.weight (fun t => t.keeper.stakes r) id
  | .storage id => s.heap.holdings.weight (fun x => x.owner.stakes r) id

theorem keeps_iff {s : Scene} {r : Resource} {k : Custodian} :
    s.Keeps r k ↔ s.weight r k ≠ 0 := by
  cases k with
  | object id =>
    rw [weight, Table.weight_ne_zero_iff]
    constructor
    · intro h
      cases h with
      | tensor found unconsumed stake =>
        exact ⟨_, found, by rwa [held_things_tensor, if_neg (by simp [unconsumed])]⟩
      | handle found unclaimed stake =>
        exact ⟨_, found, by rwa [held_things_handle, if_pos unclaimed]⟩
    · rintro ⟨⟨o, n⟩, found, stake⟩
      cases o with
      | tensor c =>
        rw [held_things_tensor] at stake
        split at stake
        next => exact absurd rfl stake
        next unconsumed => exact .tensor found (Bool.eq_false_iff.mpr unconsumed) stake
      | handle x =>
        rw [held_things_handle] at stake
        split at stake
        next unclaimed => exact .handle found unclaimed stake
        next => exact absurd rfl stake
      | producer mode result log => exact absurd rfl stake
      | plain => exact absurd rfl stake
  | consumer id =>
    rw [weight, Table.weight_ne_zero_iff]
    exact ⟨fun | .consumer found stake => ⟨_, found, stake⟩,
      fun ⟨_, found, stake⟩ => .consumer found stake⟩
  | storage id =>
    rw [weight, Table.weight_ne_zero_iff]
    exact ⟨fun | .storage found stake => ⟨_, found, stake⟩,
      fun ⟨_, found, stake⟩ => .storage found stake⟩

theorem stakes_eq (s : Scene) (r : Resource) :
    s.heap.stakes (World.held s.world.things) r =
      s.script.objects.total (fun e => World.held e.object.things r) +
        s.abroad.total (fun t => t.keeper.stakes r) +
          s.heap.holdings.total fun x => x.owner.stakes r := by
  have htaken : World.held s.taken r = s.abroad.total fun t => t.keeper.stakes r := by
    rw [taken, World.held_bag]
    simp [World.held, Thing.stakes]
  rw [Heap.stakes, Pi.add_apply, Table.owned_apply, world, Script.world, World.held_add,
    Pi.add_apply, htaken, Script.things, World.held_bag]
  omega

theorem weight_add_weight_le (s : Scene) (r : Resource) {k k' : Custodian} (h : k ≠ k') :
    s.weight r k + s.weight r k' ≤ s.heap.stakes (World.held s.world.things) r := by
  rw [stakes_eq]
  cases k <;> cases k'
  case object.object id other =>
    have hne : id ≠ other := by simpa using h
    have := s.script.objects.weight_add_weight_le_total
      (fun e => World.held e.object.things r) hne
    simp only [weight]
    omega
  case consumer.consumer id other =>
    have hne : id ≠ other := by simpa using h
    have := s.abroad.weight_add_weight_le_total (fun t => t.keeper.stakes r) hne
    simp only [weight]
    omega
  case storage.storage id other =>
    have hne : id ≠ other := by simpa using h
    have := s.heap.holdings.weight_add_weight_le_total (fun x => x.owner.stakes r) hne
    simp only [weight]
    omega
  all_goals grind [weight, Table.weight_le_total]

/-- Nobody has a part of a single stake. -/
theorem keeps_unique {s : Scene} {r : Resource}
    (one : s.heap.stakes (World.held s.world.things) r ≤ 1) {k k' : Custodian} (h : s.Keeps r k)
    (h' : s.Keeps r k') : k = k' := by
  by_contra hne
  have := s.weight_add_weight_le r hne
  have := keeps_iff.mp h
  have := keeps_iff.mp h'
  omega

theorem exists_keeps_iff {s : Scene} {r : Resource} :
    (∃ k, s.Keeps r k) ↔ s.heap.stakes (World.held s.world.things) r ≠ 0 := by
  rw [stakes_eq]
  constructor
  · rintro ⟨k, h⟩
    have := keeps_iff.mp h
    cases k <;> grind [weight, Table.weight_le_total]
  · intro h
    by_cases hobjects : s.script.objects.total (fun e => World.held e.object.things r) = 0
    · by_cases habroad : s.abroad.total (fun t => t.keeper.stakes r) = 0
      · obtain ⟨id, hid⟩ := Table.exists_weight_ne_zero
          (show s.heap.holdings.total (fun x => x.owner.stakes r) ≠ 0 by omega)
        exact ⟨.storage id, keeps_iff.mpr hid⟩
      · obtain ⟨id, hid⟩ := Table.exists_weight_ne_zero habroad
        exact ⟨.consumer id, keeps_iff.mpr hid⟩
    · obtain ⟨id, hid⟩ := Table.exists_weight_ne_zero hobjects
      exact ⟨.object id, keeps_iff.mpr hid⟩

/-! ## What was left to nobody -/

/-- What was left to nobody has no part in anything but tensors that may be lost. -/
theorem held_strays {strays : List Nat} {left : Multiset Thing}
    (hleft : ∀ x ∈ left, Stray strays x) {r : Resource} (hr : ∀ n ∈ strays, r ≠ .foreign n) :
    World.held left r = 0 := by
  by_contra hheld
  obtain ⟨x, hx, stake⟩ := World.exists_of_held hheld
  obtain ⟨n, hn, heq⟩ := hleft x hx r stake
  exact hr n hn heq

theorem stakes_add_left (s : Scene) (left : Multiset Thing) (r : Resource) :
    s.heap.stakes (World.held (s.world.add left).things) r =
      s.heap.stakes (World.held s.world.things) r + World.held left r := by
  simp only [World.add, World.held_add, Heap.stakes, Pi.add_apply]
  omega

/-- Nor does it reach anything else. -/
theorem reaches_of_add_left {s : Scene} {strays : List Nat} {left : Multiset Thing}
    (hleft : ∀ x ∈ left, Stray strays x) {r : Resource}
    (h : s.heap.Reaches (s.world.add left).things r) (hr : ∀ n ∈ strays, r ≠ .foreign n) :
    s.heap.Reaches s.world.things r := by
  induction h with
  | held mem stake =>
    rcases Multiset.mem_add.mp mem with hx | hx
    · exact .held hx stake
    · exact absurd (held_strays hleft hr) (World.held_ne_zero hx stake)
  | owned _ found stake ih => exact .owned (ih (by simp)) found stake

/-- What an object or a consumer has in its custody is reached, and so is what belongs to a storage
that is reached. -/
theorem Keeps.reached {s : Scene} {r : Resource} {k : Custodian} (h : s.Keeps r k)
    (storages : ∀ id x, s.heap.holdings.get? id = some x →
      s.heap.Reaches s.world.things (.storage id)) : s.heap.Reaches s.world.things r := by
  have hobject : ∀ {id : Nat} {e : Entry} {x : Thing}, s.script.objects.get? id = some e →
      x ∈ e.object.things → x ∈ s.world.things := fun found hx =>
    Multiset.mem_add.mpr (.inr (Table.mem_bag found hx))
  cases h with
  | tensor found unconsumed stake =>
    exact .held (hobject found (by simp [Object.things, unconsumed])) (x := .capsule _) stake
  | handle found unclaimed stake =>
    exact .held (hobject found (by simp [Object.things, unclaimed])) (x := .tensor _) stake
  | @consumer id t found stake =>
    have ht : Thing.tensor t ∈ s.taken := Table.mem_bag found (Multiset.mem_singleton_self _)
    exact .held (Multiset.mem_add.mpr (.inl ht)) stake
  | storage found stake => exact .owned (storages _ _ found) found stake

/-- Balanced books, and storages with one holder, leave one stake in anything. -/
theorem stakes_le_one {h : Heap} {held : Stakes} {n : Nat} (b : h.Balanced held n)
    (single : h.Single) (r : Resource) : h.stakes held r ≤ 1 := by
  cases r with
  | storage id =>
    rw [← b.storages.holders id]
    cases found : h.holdings.get? id with
    | none => exact Nat.zero_le 1
    | some x => exact Nat.le_of_eq (single.one id x found)
  | allocation a => exact b.memory.stake_le_one a
  | adopted block => exact Nat.le_of_add_left_le (b.memory.once block)
  | foreign n =>
    have := b.tensors.deleted n
    have := b.tensors.once n
    omega

/-! ## Tensors that are not lost -/

/-- In the custody of somebody, or deleted once. -/
def Settled (s : Scene) (n : Nat) : Prop :=
  (s.heap.deletions n = 0 ∧ ∃ k, s.Keeps (.foreign n) k) ∨
    (s.heap.deletions n = 1 ∧ ∀ k, ¬ s.Keeps (.foreign n) k)

/-- A handle that deletes nothing when it goes away. -/
def Leaves (s : Scene) (k : Custodian) : Prop :=
  ∃ id x n, k = .object id ∧ s.script.objects.get? id = some ⟨.handle x, n⟩ ∧ x.deletes = false

section Settling

variable {strays : List Nat} {s : Scene} {n : Nat}

theorem Kept.sole (k : s.Kept strays) {r : Resource} {k₁ k₂ : Custodian} (h₁ : s.Keeps r k₁)
    (h₂ : s.Keeps r k₂) : k₁ = k₂ := by
  obtain ⟨left, _, b⟩ := k.exists_left
  have hone := stakes_le_one b k.single r
  rw [stakes_add_left] at hone
  exact keeps_unique (by omega) h₁ h₂

/-- What was left does not count, but for tensors that may be lost. -/
theorem stakes_add_strays {left : Multiset Thing} (hleft : ∀ x ∈ left, Stray strays x)
    {r : Resource} (hr : ∀ n ∈ strays, r ≠ .foreign n) :
    s.heap.stakes (World.held (s.world.add left).things) r =
      s.heap.stakes (World.held s.world.things) r := by
  rw [stakes_add_left, held_strays hleft hr, Nat.add_zero]

theorem Kept.settled (k : s.Kept strays) (hn : n ∉ strays)
    (lent : .lent n true ∈ s.heap.journal) : s.Settled n := by
  obtain ⟨left, hleft, b⟩ := k.exists_left
  have hcount := b.tensors.deleted n
  have honce := b.tensors.once n
  have hpos := List.count_pos_iff.mpr lent
  have hguarded : ∀ m ∈ strays, Resource.foreign n ≠ .foreign m := fun m hm heq =>
    hn (Resource.foreign.inj heq ▸ hm)
  rw [stakes_add_strays hleft hguarded] at hcount
  unfold Settled Heap.deletions
  by_cases hkeeps : ∃ k, s.Keeps (.foreign n) k
  · have := exists_keeps_iff.mp hkeeps
    exact .inl ⟨by omega, hkeeps⟩
  · have := mt exists_keeps_iff.mpr hkeeps
    exact .inr ⟨by omega, not_exists.mp hkeeps⟩

/-- What is in somebody's custody was lent, and what was lent has a number already. -/
theorem Kept.lent_of_keeps (k : s.Kept strays) {k₁ : Custodian} (h : s.Keeps (.foreign n) k₁) :
    .lent n true ∈ s.heap.journal := by
  obtain ⟨left, _, b⟩ := k.exists_left
  have hcount := b.tensors.deleted n
  have hstake := exists_keeps_iff.mp ⟨k₁, h⟩
  rw [stakes_add_left] at hcount
  exact List.count_pos_iff.mp (by omega)

theorem Kept.le_numbered (k : s.Kept strays) (lent : .lent n true ∈ s.heap.journal) :
    n ≤ s.script.numbered := by
  obtain ⟨left, _, b⟩ := k.exists_left
  by_contra hnew
  have hfresh := b.tensors.fresh n true (Nat.lt_of_not_le hnew)
  exact List.count_eq_zero.mp hfresh lent

/-- A tensor that is not among those that may be lost never will be. -/
theorem Kept.settled_run (k : s.Kept strays) (hn : n ∉ strays)
    (lent : .lent n true ∈ s.heap.journal) (acts : List Act) : (s.run acts).Settled n := by
  obtain ⟨strays', krun, hmem, hgrown⟩ := k.run acts
  refine krun.settled (fun hn' => ?_) (hgrown.journal lent)
  rcases hmem n hn' with hold | hnew
  · exact hn hold
  · exact absurd (k.le_numbered lent) (Nat.not_le_of_lt hnew)

/-- A tensor cannot be lost if no handle that leaves it has custody of it, and if somebody else has
or if it was not made yet. -/
theorem Kept.without (k : s.Kept strays) (safe : ∀ k₁, s.Keeps (.foreign n) k₁ → ¬ s.Leaves k₁)
    (sure : (∃ k₁, s.Keeps (.foreign n) k₁) ∨ s.script.numbered < n) :
    s.Kept (strays.filter (· ≠ n)) := by
  obtain ⟨left, hleft, b⟩ := k.exists_left
  have hzero : World.held left (.foreign n) = 0 := by
    rcases sure with hkeeps | hnew
    · have hone := stakes_le_one b k.single (.foreign n)
      have hstake := exists_keeps_iff.mp hkeeps
      rw [stakes_add_left] at hone
      omega
    · have hcount := b.tensors.deleted n
      have hfresh := b.tensors.fresh n true hnew
      rw [stakes_add_left] at hcount
      omega
  have hother : ∀ {x : Thing} {r : Resource}, Stray strays x → x.stakes r ≠ 0 → r ≠ .foreign n →
      ∃ m ∈ strays.filter (· ≠ n), r = .foreign m := by
    rintro x r hx stake hr
    obtain ⟨m, hm, rfl⟩ := hx r stake
    exact ⟨m, List.mem_filter.mpr ⟨hm, decide_eq_true fun heq => hr (heq ▸ rfl)⟩, rfl⟩
  refine ⟨fun id e found => ?_, k.single, left, fun x hx r stake => ?_, b⟩
  · have made := k.made id e found
    obtain ⟨o, references⟩ := e
    cases o with
    | tensor c => exact made
    | handle x =>
      have made : x.Made strays := made
      refine ⟨made.named, fun hdeletes hheld r stake => hother (made.stray hdeletes hheld) stake ?_⟩
      rintro rfl
      exact safe _ (.handle found hheld stake) ⟨id, x, references, rfl, found, hdeletes⟩
    | producer mode result log => trivial
    | plain => trivial
  · refine hother (hleft x hx) stake ?_
    rintro rfl
    exact World.held_ne_zero hx stake hzero

/-- A tensor that another runtime makes in a handle that deletes it is not lost. -/
theorem Kept.settled_produce (k : s.Kept strays) (out : String) {f : ForeignTensor}
    (deletes : f.deletes = true) (acts : List Act) :
    ((s.step (.produce out f)).run acts).Settled (s.script.numbered + 1) := by
  have hnew := Nat.lt_succ_self s.script.numbered
  have k' : s.Kept (strays.filter (· ≠ s.script.numbered + 1)) :=
    k.without (fun k₁ h => absurd (k.le_numbered (k.lent_of_keeps h)) (Nat.not_le_of_lt hnew))
      (.inr hnew)
  have lent := Script.lent_produce k'.made out f
  rw [deletes] at lent
  have kstep := (k'.leads (List.Subset.refl _) (s.leads_step (.produce out f) _)).1
  exact kstep.settled_run (by simp) lent acts

/-- Nor is one that is in the custody of anybody else than a handle that leaves it. -/
theorem Kept.settled_keeps (k : s.Kept strays) {k₁ : Custodian} (h : s.Keeps (.foreign n) k₁)
    (hsafe : ¬ s.Leaves k₁) (acts : List Act) : (s.run acts).Settled n := by
  have k' : s.Kept (strays.filter (· ≠ n)) :=
    k.without (fun k₂ h' => k.sole h h' ▸ hsafe) (.inl ⟨k₁, h⟩)
  exact k'.settled_run (by simp) (k.lent_of_keeps h) acts

end Settling

/-! ## The rules of custody -/

/-- Everything that is released once has one custodian until then. -/
structure Guarded (s : Scene) : Prop where
  /-- Nothing is in the custody of two. -/
  sole : ∀ r k₁ k₂, s.Keeps r k₁ → s.Keeps r k₂ → k₁ = k₂
  /-- A storage has one holder, in the custody of somebody. -/
  storage : ∀ id x, s.heap.holdings.get? id = some x →
    x.holders = 1 ∧ ∃ k, s.Keeps (.storage id) k
  /-- Whoever has custody of a storage finds it there. -/
  live : ∀ id k, s.Keeps (.storage id) k → ∃ x, s.heap.holdings.get? id = some x
  /-- A storage that is gone never comes back, whatever is done afterwards. -/
  gone : ∀ id, id < s.heap.holdings.next → s.heap.holdings.get? id = none →
    ∀ acts, (s.run acts).heap.holdings.get? id = none
  /-- Memory is in the custody of somebody, or it was given back once. -/
  memory : ∀ a, .allocated a ∈ s.heap.journal →
    (s.heap.journal.count (.freed a) = 0 ∧ ∃ k, s.Keeps (.allocation a) k) ∨
      (s.heap.journal.count (.freed a) = 1 ∧ ∀ k, ¬ s.Keeps (.allocation a) k)
  /-- A deleter does not run twice, and not while somebody has custody of the tensor. -/
  deletions : ∀ n, s.heap.deletions n ≤ 1 ∧ ∀ k, s.Keeps (.foreign n) k → s.heap.deletions n = 0
  /-- A tensor that another runtime makes, in a handle that deletes it, is in the custody of
  somebody or deleted once, whatever is done afterwards. -/
  produced : ∀ out f, f.deletes = true →
    ∀ acts, ((s.step (.produce out f)).run acts).Settled (s.script.numbered + 1)
  /-- So is a tensor in the custody of anybody else than a handle that leaves it, as soon as it was
  claimed from such a handle. -/
  claimed : ∀ n k, s.Keeps (.foreign n) k → ¬ s.Leaves k → ∀ acts, (s.run acts).Settled n
  /-- Whatever is in somebody's custody is held in the end by an object or by a consumer. -/
  reached : ∀ r k, s.Keeps r k → s.heap.Reaches s.world.things r
  /-- The references to objects are counted, and an object goes with the last one. -/
  referenced : s.script.Referenced 0
  /-- A script ends by deleting its names, and then has no objects. -/
  closed : (∃ acts, s.close = s.run acts) ∧ ∀ id, s.close.script.objects.get? id = none
  /-- If consumers have deleted what they took, nothing is left then: no storage, no memory that was
  not given back once, and no deleter of a settled tensor that did not run once. -/
  ended : (∀ id, s.abroad.get? id = none) →
    (∀ id, s.close.heap.holdings.get? id = none) ∧
      (∀ a, .allocated a ∈ s.close.heap.journal → s.close.heap.journal.count (.freed a) = 1) ∧
        ∀ n, s.close.Settled n → s.close.heap.deletions n = 1

section Rules

variable {s : Scene} {strays : List Nat}

theorem Kept.stakes_storage (k : s.Kept strays) {id : Nat} {x : Holding}
    (found : s.heap.holdings.get? id = some x) :
    x.holders = 1 ∧ s.heap.stakes (World.held s.world.things) (.storage id) = 1 := by
  obtain ⟨left, hleft, b⟩ := k.exists_left
  have hstakes := b.storages.holders_of_get? found
  have hx := k.single.one id x found
  rw [stakes_add_strays hleft (by simp)] at hstakes
  exact ⟨hx, by omega⟩

theorem Kept.storage (k : s.Kept strays) {id : Nat} {x : Holding}
    (found : s.heap.holdings.get? id = some x) : ∃ k, s.Keeps (.storage id) k := by
  have hone := (k.stakes_storage found).2
  exact exists_keeps_iff.mpr (by omega)

theorem Kept.memory (k : s.Kept strays) {a : Allocation}
    (ha : .allocated a ∈ s.heap.journal) :
    (s.heap.journal.count (.freed a) = 0 ∧ ∃ k, s.Keeps (.allocation a) k) ∨
      (s.heap.journal.count (.freed a) = 1 ∧ ∀ k, ¬ s.Keeps (.allocation a) k) := by
  obtain ⟨left, hleft, b⟩ := k.exists_left
  have hcount := b.memory.returned a
  have honce := b.memory.count_allocated_le_one a
  have hpos := List.count_pos_iff.mpr ha
  rw [stakes_add_strays hleft (by simp)] at hcount
  by_cases hkeeps : ∃ k, s.Keeps (.allocation a) k
  · have := exists_keeps_iff.mp hkeeps
    exact .inl ⟨by omega, hkeeps⟩
  · have := mt exists_keeps_iff.mpr hkeeps
    exact .inr ⟨by omega, not_exists.mp hkeeps⟩

theorem Kept.reached (k : s.Kept strays) {r : Resource} {k₁ : Custodian} (h : s.Keeps r k₁) :
    s.heap.Reaches s.world.things r := by
  obtain ⟨left, hleft, b⟩ := k.exists_left
  refine h.reached fun id x found => reaches_of_add_left hleft ?_ (by simp)
  have hone := (k.stakes_storage found).2
  rw [← stakes_add_strays hleft (by simp)] at hone
  exact b.reaches_iff.mpr (by omega)

/-- Where there are no objects, and no consumers, nobody has custody of anything. -/
theorem Kept.not_keeps (k : s.Kept strays) (objects : ∀ id, s.script.objects.get? id = none)
    (abroad : ∀ id, s.abroad.get? id = none) (r : Resource) (k₁ : Custodian) : ¬ s.Keeps r k₁ := by
  have hnothing : ∀ x, x ∉ s.world.things := by
    intro x hx
    rcases Multiset.mem_add.mp hx with hx | hx
    · obtain ⟨id, t, found, _⟩ := Table.exists_of_mem_bag hx
      rw [abroad] at found
      cases found
    · obtain ⟨id, e, found, _⟩ := Table.exists_of_mem_bag hx
      rw [objects] at found
      cases found
  intro h
  have hreached := k.reached h
  clear h
  induction hreached with
  | held mem _ => exact hnothing _ mem
  | owned _ _ _ ih => exact ih

/-- When a script has ended and consumers have nothing, everything was released. -/
theorem Kept.ended (k : s.Kept strays) (referenced : s.script.Referenced 0)
    (abroad : ∀ id, s.abroad.get? id = none) :
    (∀ id, s.close.heap.holdings.get? id = none) ∧
      (∀ a, .allocated a ∈ s.close.heap.journal → s.close.heap.journal.count (.freed a) = 1) ∧
        ∀ n, s.close.Settled n → s.close.heap.deletions n = 1 := by
  obtain ⟨acts, hclose⟩ := exists_close_eq_run referenced
  obtain ⟨strays', kclose, _⟩ := hclose ▸ k.run acts
  have hnobody : ∀ r k₁, ¬ s.close.Keeps r k₁ := kclose.not_keeps referenced.get?_close abroad
  refine ⟨fun id => ?_, fun a ha => ?_, fun n settled => ?_⟩
  · by_contra hsome
    obtain ⟨x, found⟩ := Option.ne_none_iff_exists'.mp hsome
    obtain ⟨k₁, h⟩ := kclose.storage found
    exact hnobody _ k₁ h
  · rcases kclose.memory ha with ⟨_, k₁, h⟩ | ⟨hfreed, _⟩
    · exact absurd h (hnobody _ k₁)
    · exact hfreed
  · rcases settled with ⟨_, k₁, h⟩ | ⟨hdeleted, _⟩
    · exact absurd h (hnobody _ k₁)
    · exact hdeleted

theorem Kept.guarded (k : s.Kept strays) (referenced : s.script.Referenced 0) : s.Guarded := by
  obtain ⟨left, hleft, b⟩ := k.exists_left
  constructor
  case sole => exact fun r k₁ k₂ => k.sole
  case storage => exact fun id x found => ⟨(k.stakes_storage found).1, k.storage found⟩
  case live =>
    intro id k₁ h
    have hstake := exists_keeps_iff.mp ⟨k₁, h⟩
    rw [← stakes_add_strays hleft (by simp)] at hstake
    exact b.storages.exists_of_stake hstake
  case gone =>
    intro id hid hnone acts
    obtain ⟨_, _, _, hgrown⟩ := k.run acts
    cases found : (s.run acts).heap.holdings.get? id with
    | none => rfl
    | some x =>
      rcases hgrown.holdings.kept id x found with ⟨y, hy, _⟩ | ⟨hnew, _⟩
      · rw [hnone] at hy
        cases hy
      · omega
  case memory => exact fun a => k.memory
  case deletions =>
    intro n
    have hcount := b.tensors.deleted n
    have honce := b.tensors.once n
    rw [stakes_add_left] at hcount
    unfold Heap.deletions
    refine ⟨by omega, fun k₁ h => ?_⟩
    have := exists_keeps_iff.mp ⟨k₁, h⟩
    omega
  case produced => exact fun out f => k.settled_produce out
  case claimed => exact fun n k₁ => k.settled_keeps
  case reached => exact fun r k₁ => k.reached
  case referenced => exact referenced
  case closed => exact ⟨exists_close_eq_run referenced, referenced.get?_close⟩
  case ended => exact k.ended referenced

end Rules

end Scene

/-- A claim that is refused takes nothing. -/
structure Script.Refusing (s : Script) : Prop where
  /-- A handle whose tensor was claimed is refused for that, whatever it carries. -/
  used : ∀ id x n (f : CapsuleFormat), s.objects.get? id = some ⟨.handle x, n⟩ →
    x.name = some f.usedName → s.claim id = .error ⟨.ofError .alreadyConsumed, s⟩
  /-- A step that claims a handle and is refused leaves the script as it was. -/
  handle : ∀ name id x f, s.object? name = some (id, .handle x) → s.claim id = .error f →
    (∀ out, s.step (.adopt name out) = (s, .error (.raised f.cause))) ∧
      s.step (.print name) = (s, .error (.raised f.cause))
  /-- If a producer gave the handle, the producer has logged the request, but no object changed. -/
  producer : ∀ id mode result log s' e,
    s.importObject id (.producer mode result log) = (s', .error e) →
      s'.objects = s.objects ∧ s'.heap = s.heap
  /-- If a tensor object gave the handle for this claim alone, the handle still had its name, and
  deleted what it carried when it went away. -/
  fresh : ∀ x s' e, s.claimFresh x = (s', .error e) →
    s'.heap = Script.dropHandle s.heap x ∧ ∀ id, s'.objects.get? id = s.objects.get? id

theorem Script.refusing (s : Script) : s.Refusing where
  used := fun _ _ _ _ => claim_used
  handle := fun _ _ _ _ => step_of_refused
  producer := fun _ _ _ _ _ _ => importObject_of_refused
  fresh := fun _ _ _ => claimFresh_of_refused

/-- Whatever a script and other runtimes do, in any order, everything has one custodian until it is
released, which happens once, and claims that are refused take nothing. -/
theorem Scene.custody_run (m : Machine) (env : Config.Environment) (acts : List Act) :
    ((start m env).run acts).Guarded ∧ ((start m env).run acts).script.Refusing := by
  obtain ⟨strays, k, _⟩ := (kept_start m env).run acts
  exact ⟨k.guarded (referenced_run (referenced_start m env) acts), Script.refusing _⟩

end Interop

end TensorExchange
