import TensorExchange.Proofs.Interop.Steps

/-!
Scenes: a script among other runtimes.

A script is not alone.  Other runtimes make handles of their own, which it may claim, and
claim handles that it made.  A consumer elsewhere keeps what it took until it deletes it.
A scene is a script and what such consumers have, and an act is a step of the script or one
of the three things that others do: to produce a handle, to take the tensor of an object,
and to discard what was taken.

Other runtimes obey the protocol of handles and nothing else is asked of them.  They claim
as this library does, by changing the name of the handle; what they do with a tensor before
they delete it is not followed.

Whatever the script and the others do, in any order, the books stay balanced with what the
objects of the script and the consumers hold, apart from what was left to nobody: that is
`Kept strays s`, where `strays` are the numbers of the tensors that were made in handles
which delete nothing.  It holds of a scene that was just started, is kept by every act
(`leads_step`), and so by every run of acts (`Kept.run`), which also says what does not
happen on the way: a storage that is gone does not come back.

The statements about what a user can rely on are in `Proofs/Interop/Custody`; here is only
the induction.
-/

namespace TensorExchange.Interop

/-- A script among other runtimes. -/
structure Scene where
  script : Script
  /-- What consumers of other runtimes took and did not delete yet. -/
  abroad : Table ManagedTensor

/-- What is done by a script or by another runtime. -/
inductive Act where
  | script (step : Step)
  /-- Another runtime makes a tensor, in a handle that deletes it. -/
  | produce (out : String) (tensor : ForeignTensor)
  /-- A consumer of another runtime claims the tensor of an object. -/
  | take (object : Nat)
  /-- A consumer deletes a tensor that it took. -/
  | discard (tensor : Nat)

/-- The numbers of the tensors that are made in handles that do not delete them. -/
def Act.strays (numbered : Nat) : Act → List Nat
  | script (.foreignHandle ..) => [numbered + 1]
  | script _ | produce .. | take _ | discard _ => []

namespace Script

/-- A handle of another runtime, which deletes its tensor as those of this library do. -/
def produce (s : Script) (out : String) (f : ForeignTensor) : Script :=
  let number := s.numbered + 1
  let (heap, t) := s.heap.addForeign f number
  { s with heap, numbered := number, foreigners := s.foreigners.put out number }.bind out
    (.handle (handleOf t))

/-- A consumer of another runtime claims a tensor as this library does. -/
def take (s : Script) (id : Nat) : Option (Script × ManagedTensor) :=
  match s.objects.get? id with
  | some ⟨.handle x, _⟩ =>
    match claimable x with
    | .ok f => some (s.update id (.handle { x with name := some f.usedName }), x.tensor)
    | .error _ => none
  | _ => none

theorem leads_produce {strays : List Nat} (s : Script) (out : String) (f : ForeignTensor)
    (loose : Multiset Thing) : Leads strays s loose (s.produce out f) loose := by
  have hlend : Leads strays s loose
      { s with heap := (s.heap.addForeign f (s.numbered + 1)).1, numbered := s.numbered + 1 }
      ({.tensor (s.heap.addForeign f (s.numbered + 1)).2} + loose) := by
    refine .of_deal ?_
    simp only [world, Multiset.singleton_add, Multiset.cons_add]
    exact .lend f
  exact hlend.trans (Leads.trans (leads_foreigners _ _ _) (leads_bindHandle _ out _ loose))

/-- The tensor has been lent when its handle is there. -/
theorem lent_produce {strays : List Nat} {s : Script} (made : s.Made strays) (out : String)
    (f : ForeignTensor) :
    .lent (s.numbered + 1) f.deletes ∈ (s.produce out f).heap.journal := by
  let s₁ : Script :=
    { s with
      heap := (s.heap.addForeign f (s.numbered + 1)).1
      numbered := s.numbered + 1
      foreigners := s.foreigners.put out (s.numbered + 1) }
  have made : s₁.Made strays := made
  obtain ⟨_, _, _, deal⟩ := (leads_bindHandle s₁ out _ 0).keep made
  exact deal.grown.journal List.mem_cons_self

theorem leads_take {strays : List Nat} {s s' : Script} {id : Nat} {t : ManagedTensor}
    {loose : Multiset Thing} (ok : s.take id = some (s', t)) :
    Leads strays s loose s' ({.tensor t} + loose) := by
  unfold take at ok
  split at ok
  next x n found =>
    split at ok
    next f hclaimable =>
      obtain ⟨rfl, rfl⟩ := Prod.mk.inj (Option.some.inj ok)
      exact leads_rename found (claimable_eq_ok hclaimable)
    next => cases ok
  next => cases ok

end Script

namespace Scene

/-- A script in a process with this environment, before anybody did anything. -/
def start (m : Machine) (env : Config.Environment) : Scene := ⟨.start m env, .empty⟩

def step (s : Scene) : Act → Scene
  | .script c => { s with script := (s.script.step c).1 }
  | .produce out f => { s with script := s.script.produce out f }
  | .take id =>
    match s.script.take id with
    | some (script, t) => ⟨script, (s.abroad.add t).1⟩
    | none => s
  | .discard id =>
    match s.abroad.get? id with
    | some t => ⟨{ s.script with heap := s.script.heap.delete t }, s.abroad.erase id⟩
    | none => s

def run (s : Scene) (acts : List Act) : Scene := acts.foldl step s

/-- The script after acts, on a machine that never runs out of memory. -/
abbrev after (acts : List Act) : Script := ((start .boundless fun _ => none).run acts).script

def heap (s : Scene) : Heap := s.script.heap

/-- What consumers of other runtimes hold. -/
def taken (s : Scene) : Multiset Thing := s.abroad.bag fun t => {.tensor t}

/-- All that the objects of the script and the consumers hold. -/
def world (s : Scene) : World := s.script.world s.taken

/-! ## What every act keeps -/

theorem leads_step (s : Scene) (a : Act) (strays : List Nat) :
    Script.Leads (a.strays s.script.numbered ++ strays) s.script s.taken (s.step a).script
      (s.step a).taken := by
  cases a with
  | script c =>
    refine Script.leads_step s.script c s.taken ?_
    rintro out name f rfl
    exact List.mem_cons_self
  | produce out f => exact Script.leads_produce ..
  | take id =>
    simp only [step]
    split
    next script t ok =>
      rw [taken, taken, Table.bag_add, add_comm _ {_}]
      exact Script.leads_take ok
    next => exact .refl _ _
  | discard id =>
    simp only [step]
    split
    next t found =>
      refine .of_deal (n := s.script.numbered) ?_
      rw [taken, taken, ← Table.bag_erase_add found, Script.world, add_comm _ {_}, add_assoc]
      exact .delete t
    next => exact .refl _ _

/-- The books are balanced with what is held and what was left to nobody. -/
structure Kept (strays : List Nat) (s : Scene) : Prop where
  made : s.script.Made strays
  single : s.heap.Single
  books : ∃ left : Multiset Thing, (∀ x ∈ left, Stray strays x) ∧ (s.world.add left).Balanced

theorem Kept.exists_left {strays : List Nat} {s : Scene} (k : s.Kept strays) :
    ∃ left : Multiset Thing, (∀ x ∈ left, Stray strays x) ∧
      s.heap.Balanced (World.held (s.world.add left).things) s.script.numbered :=
  k.books

theorem kept_start (m : Machine) (env : Config.Environment) : (start m env).Kept [] where
  made := by
    intro id e found
    simp [start, Script.start, Table.empty, Table.get?] at found
  single := ⟨fun id x found => by
    simp [heap, start, Script.start, Heap.empty, Table.empty, Table.get?] at found⟩
  books := ⟨0, by simp, Heap.balanced_empty m⟩

theorem Kept.leads {s s' : Scene} {strays strays' : List Nat} (k : s.Kept strays)
    (sub : strays ⊆ strays') (l : Script.Leads strays' s.script s.taken s'.script s'.taken) :
    s'.Kept strays' ∧ s.heap.Grown (fun _ => True) s'.heap ∧
      s.script.numbered ≤ s'.script.numbered := by
  obtain ⟨made, more, hmore, deal⟩ := l.keep fun id e found => (k.made id e found).mono sub
  obtain ⟨left, hleft, balanced⟩ := k.books
  refine ⟨⟨made, deal.single k.single, more + left, fun x hx => ?_, ?_⟩, deal.grown, deal.numbered⟩
  · exact (Multiset.mem_add.mp hx).elim (hmore x) fun hx => (hleft x hx).mono sub
  · rw [← World.add_add]
    exact deal.balanced left balanced

/-- After any acts, no tensor that was there before is new among those that may be lost. -/
theorem Kept.run {s : Scene} {strays : List Nat} (k : s.Kept strays) (acts : List Act) :
    ∃ strays', (s.run acts).Kept strays' ∧ (∀ n ∈ strays', n ∈ strays ∨ s.script.numbered < n) ∧
      s.heap.Grown (fun _ => True) (s.run acts).heap := by
  induction acts generalizing s strays with
  | nil => exact ⟨strays, k, fun n => .inl, .refl _⟩
  | cons a rest ih =>
    obtain ⟨kstep, hgrown, hnumbered⟩ :=
      k.leads (List.subset_append_right _ _) (s.leads_step a strays)
    obtain ⟨strays', krun, hmem, hgrown'⟩ := ih kstep
    refine ⟨strays', krun, fun n hn => ?_, hgrown.trans hgrown'⟩
    rcases hmem n hn with hn | hn
    · rcases List.mem_append.mp hn with hn | hn
      · refine .inr ?_
        unfold Act.strays at hn
        split at hn
        · rw [List.mem_singleton.mp hn]
          exact Nat.lt_succ_self _
        all_goals cases hn
      · exact .inl hn
    · exact .inr (Nat.lt_of_le_of_lt hnumbered hn)

end Scene

end TensorExchange.Interop
