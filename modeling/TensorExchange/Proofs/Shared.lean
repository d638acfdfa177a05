import TensorExchange.Proofs.Registry
import TensorExchange.Proofs.Release

/-!
Shared registries: any number of clients register, take and drain.

Registering and taking happen at one moment each.  A drain does not: it lists the names at one
moment and removes them at later ones, each by itself, and between two of these moments other
clients may take an entry, or take it and register another one under its name.  A schedule puts
the moments of all clients in an order, and a shared registry keeps the history of what
happened, newest first.

Main statement (`conserved_run`), for every schedule:

* each capsule that was registered is in the registry until exactly one take or drain gets it,
  under the name that it was registered under, and nothing else happens under the name in
  between; what was got was registered before and nobody else got it since;
* a capsule that comes to an occupied name is let go, and that is all that happens;
* a drain returns what it removed itself, in the order of the names, each name at most once;
  one that nobody comes between returns everything (`run_drain`);
* no capsule is lost or doubled on the heap: a schedule is a chain of moves (`moves_of_run`);
* collecting is registering one after the other, so the first of each name stays.

Histories are lawful if each event follows what happened under its name before (`Follows`), a
condition on one event and its past.  One moment extends a lawful history (`Kept.step`), which
is the only place where the operations of the registry are looked at; that a capsule is got
once is then a fact about lawful histories (`Lawful.registered`, `Lawful.returned`).
-/

namespace TensorExchange

/-! ## Schedules -/

/-- What happens at one moment. -/
inductive RegistryMoment where
  | register (name : String) (capsule : Capsule)
  | take (name : String)
  /-- A drain begins: it lists the names. -/
  | list
  /-- The drain with a number removes the next one of its names. -/
  | remove (drain : Nat)

/-- The entry that a client wants to add. -/
def RegistryMoment.offered? : RegistryMoment → Option (String × Capsule)
  | register name c => some (name, c)
  | _ => none

/-- What became of a capsule. -/
inductive RegistryEvent where
  | registered (name : String) (capsule : Capsule)
  /-- Its name was occupied, and it was let go. -/
  | refused (name : String) (capsule : Capsule)
  /-- A client got it: by a take, or by the drain with a number. -/
  | returned (drain : Option Nat) (name : String) (capsule : Capsule)

/-- A drain under way. -/
structure Drain where
  /-- The names that it has listed and not come to yet. -/
  pending : List String
  taken : List (String × Capsule)

/-- A registry that clients share. -/
structure SharedRegistry where
  heap : Heap
  registry : Registry
  drains : Table Drain
  /-- What became of capsules, the latest first. -/
  history : List RegistryEvent

namespace SharedRegistry

/-- A registry without entries. -/
def new (h : Heap) : SharedRegistry := ⟨h, .empty, .empty, []⟩

/-- One moment.  A capsule that is refused is let go; a name that is absent is passed over. -/
def step (s : SharedRegistry) : RegistryMoment → SharedRegistry
  | .register name c =>
    match s.registry.register name c with
    | .ok registry => { s with registry, history := .registered name c :: s.history }
    | .error f =>
      { s with
        heap := s.heap.dropCapsule c
        registry := f.state
        history := .refused name c :: s.history }
  | .take name =>
    match s.registry.take name with
    | .ok (registry, c) => { s with registry, history := .returned none name c :: s.history }
    | .error f => { s with registry := f.state }
  | .list => { s with drains := (s.drains.add ⟨s.registry.names, []⟩).1 }
  | .remove id =>
    match s.drains.get? id with
    | some ⟨name :: pending, taken⟩ =>
      match s.registry.take name with
      | .ok (registry, c) =>
        { s with
          registry
          drains := s.drains.set id ⟨pending, taken ++ [(name, c)]⟩
          history := .returned (some id) name c :: s.history }
      | .error f => { s with registry := f.state, drains := s.drains.set id ⟨pending, taken⟩ }
    | some ⟨[], _⟩ | none => s

def run (s : SharedRegistry) (schedule : List RegistryMoment) : SharedRegistry :=
  schedule.foldl step s

@[simp] theorem run_nil (s : SharedRegistry) : s.run [] = s := rfl

@[simp] theorem run_cons (s : SharedRegistry) (moment : RegistryMoment)
    (rest : List RegistryMoment) : s.run (moment :: rest) = (s.step moment).run rest := rfl

end SharedRegistry

/-! ## Histories -/

namespace RegistryEvent

/-- Whether an event puts a capsule under a name or removes the one there. -/
def Concerns (name : String) : RegistryEvent → Prop
  | registered key _ | returned _ key _ => key = name
  | refused .. => False

/-- The capsule that is under a name after a history, the latest event first. -/
def held (name : String) : List RegistryEvent → Option Capsule
  | [] => none
  | registered key c :: earlier => if name = key then some c else held name earlier
  | returned _ key _ :: earlier => if name = key then none else held name earlier
  | refused .. :: earlier => held name earlier

/-- Whether an event can come after a history: a free name is registered, an occupied one is
refused, and what is returned is the capsule that is there. -/
def Follows (earlier : List RegistryEvent) : RegistryEvent → Prop
  | registered name _ => held name earlier = none
  | refused name _ => (held name earlier).isSome
  | returned _ name c => held name earlier = some c

/-- Histories in which every event follows those before it. -/
def Lawful : List RegistryEvent → Prop
  | [] => True
  | e :: earlier => e.Follows earlier ∧ Lawful earlier

/-- What the drain with a number got. -/
def gotBy? (id : Nat) : RegistryEvent → Option (String × Capsule)
  | returned (some drain) name c => if drain = id then some (name, c) else none
  | _ => none

/-- What the drain with a number got in a history, in its order. -/
def gotBy (id : Nat) (history : List RegistryEvent) : List (String × Capsule) :=
  (history.filterMap (gotBy? id)).reverse

/-- An entry that was put into the registry. -/
def registered? : RegistryEvent → Option (String × Capsule)
  | registered name c => some (name, c)
  | _ => none

/-- An entry that clients got back, by whatever request. -/
def returned? : RegistryEvent → Option (String × Capsule)
  | returned _ name c => some (name, c)
  | _ => none

variable {name : String} {c : Capsule} {earlier later : List RegistryEvent} {e : RegistryEvent}
  {drain : Option Nat}

theorem Lawful.follows (k : Lawful (later ++ e :: earlier)) : e.Follows earlier := by
  induction later with
  | nil => exact k.1
  | cons _ _ ih => exact ih k.2

theorem held_append (h : ∀ e ∈ later, ¬ e.Concerns name) :
    held name (later ++ earlier) = held name earlier := by
  induction later with
  | nil => rfl
  | cons e rest ih =>
    obtain ⟨hne, hrest⟩ := List.forall_mem_cons.mp h
    cases e with
    | registered key c =>
      rw [List.cons_append, held, if_neg (Ne.symm hne)]
      exact ih hrest
    | refused key c => exact ih hrest
    | returned drain key c =>
      rw [List.cons_append, held, if_neg (Ne.symm hne)]
      exact ih hrest

/-- What is under a name was registered, and nothing concerned the name since. -/
theorem exists_of_held {history : List RegistryEvent} (h : held name history = some c) :
    ∃ later earlier, history = later ++ registered name c :: earlier ∧
      ∀ e ∈ later, ¬ e.Concerns name := by
  induction history with
  | nil => cases h
  | cons e rest ih =>
    have skip : ¬ e.Concerns name → held name rest = some c →
        ∃ later earlier, e :: rest = later ++ registered name c :: earlier ∧
          ∀ e ∈ later, ¬ e.Concerns name := by
      intro hne hheld
      obtain ⟨later, earlier, rfl, hlater⟩ := ih hheld
      exact ⟨e :: later, earlier, rfl, List.forall_mem_cons.mpr ⟨hne, hlater⟩⟩
    cases e with
    | registered key c' =>
      by_cases hkey : name = key
      · subst hkey
        obtain rfl : c' = c := by simpa [held] using h
        exact ⟨[], rest, rfl, by simp⟩
      · exact skip (Ne.symm hkey) (by simpa [held, hkey] using h)
    | refused key c' => exact skip id h
    | returned drain key c' =>
      by_cases hkey : name = key
      · simp [held, hkey] at h
      · exact skip (Ne.symm hkey) (by simpa [held, hkey] using h)

theorem exists_first_concerning (name : String) (later : List RegistryEvent) :
    (∀ e ∈ later, ¬ e.Concerns name) ∨
      ∃ after e between, later = after ++ e :: between ∧ e.Concerns name ∧
        ∀ e ∈ between, ¬ e.Concerns name := by
  induction later with
  | nil => exact .inl (by simp)
  | cons e rest ih =>
    rcases ih with hno | ⟨after, e', between, rfl, he', hbetween⟩
    · by_cases he : e.Concerns name
      · exact .inr ⟨[], e, rest, rfl, he, hno⟩
      · exact .inl (List.forall_mem_cons.mpr ⟨he, hno⟩)
    · exact .inr ⟨e :: after, e', between, rfl, he', hbetween⟩

/-- After a capsule was registered the next event under its name returns it, or there is none and
the capsule is there. -/
theorem Lawful.registered (k : Lawful (later ++ RegistryEvent.registered name c :: earlier)) :
    ((∀ e ∈ later, ¬ e.Concerns name) ∧
        held name (later ++ RegistryEvent.registered name c :: earlier) = some c) ∨
      ∃ after drain between, later = after ++ returned drain name c :: between ∧
        ∀ e ∈ between, ¬ e.Concerns name := by
  have hself : held name (RegistryEvent.registered name c :: earlier) = some c := by simp [held]
  rcases exists_first_concerning name later with hno | ⟨after, e, between, rfl, he, hbetween⟩
  · exact .inl ⟨hno, (held_append hno).trans hself⟩
  · have hheld : held name (between ++ RegistryEvent.registered name c :: earlier) = some c :=
      (held_append hbetween).trans hself
    rw [List.append_assoc, List.cons_append] at k
    have hfollows := k.follows
    cases e with
    | registered key c' =>
      obtain rfl : key = name := he
      exact absurd (hheld.symm.trans hfollows) (by simp)
    | refused key c' => exact absurd he id
    | returned drain key c' =>
      obtain rfl : key = name := he
      obtain rfl : c = c' := Option.some.inj (hheld.symm.trans hfollows)
      exact .inr ⟨after, drain, between, rfl, hbetween⟩

@[simp] theorem gotBy_cons (id : Nat) (e : RegistryEvent) (history : List RegistryEvent) :
    gotBy id (e :: history) = gotBy id history ++ (e.gotBy? id).toList := by
  unfold gotBy
  cases h : e.gotBy? id <;> simp [h]

theorem Lawful.returned
    (k : Lawful (later ++ RegistryEvent.returned drain name c :: earlier)) :
    ∃ between before, earlier = between ++ .registered name c :: before ∧
      ∀ e ∈ between, ¬ e.Concerns name :=
  exists_of_held k.follows

end RegistryEvent

/-! ## What every moment keeps -/

namespace SharedRegistry

open RegistryEvent

/-- The history says what is in a registry, and what the drains got. -/
structure Kept (s : SharedRegistry) : Prop where
  found : ∀ name, s.registry.get? name = held name s.history
  lawful : Lawful s.history
  counted : (s.history.filterMap registered?).Perm
    (s.registry.entries ++ s.history.filterMap returned?)
  collected : ∀ id, (s.drains.get? id).elim [] Drain.taken = gotBy id s.history
  /-- A drain comes to its names in their order. -/
  ordered : ∀ id d, s.drains.get? id = some d →
    (d.taken.map Prod.fst ++ d.pending).Pairwise (· < ·)

theorem kept_new (h : Heap) : (new h).Kept where
  found := fun _ => rfl
  lawful := trivial
  counted := .refl _
  collected := fun _ => rfl
  ordered := fun _ _ found => by cases found

section Steps

variable {s : SharedRegistry} {name : String} {c : Capsule} {registry : Registry}

theorem Kept.registered (k : s.Kept) (h : s.registry.register name c = .ok registry) :
    Kept { s with registry, history := .registered name c :: s.history } where
  found := by
    intro other
    rw [Registry.get?_of_register h, k.found]
    rfl
  lawful := ⟨(k.found name).symm.trans (Registry.get?_eq_none_of_register h), k.lawful⟩
  counted := ((k.counted.cons (name, c)).trans
    ((Registry.entries_perm_of_register h).symm.append_right _))
  collected := fun id => by simpa [gotBy?] using k.collected id
  ordered := k.ordered

theorem Kept.refused (k : s.Kept) (h : (s.registry.get? name).isSome) (heap : Heap) :
    Kept { s with heap, history := .refused name c :: s.history } where
  found := k.found
  lawful := ⟨(k.found name ▸ h : (held name s.history).isSome), k.lawful⟩
  counted := k.counted
  collected := fun id => by simpa [gotBy?] using k.collected id
  ordered := k.ordered

theorem Kept.returned (k : s.Kept) (h : s.registry.take name = .ok (registry, c))
    {drains : Table Drain} {drain : Option Nat}
    (collected : ∀ id, (drains.get? id).elim [] Drain.taken =
      gotBy id (.returned drain name c :: s.history))
    (ordered : ∀ id d, drains.get? id = some d →
      (d.taken.map Prod.fst ++ d.pending).Pairwise (· < ·)) :
    Kept { s with registry, drains, history := .returned drain name c :: s.history } where
  found := by
    intro other
    rw [Registry.get?_of_take h, k.found]
    rfl
  lawful := ⟨(k.found name).symm.trans (Registry.get?_self_of_take h), k.lawful⟩
  counted := by
    refine k.counted.trans ?_
    exact ((Registry.entries_perm_of_take h).append_right _).trans List.perm_middle.symm
  collected := collected
  ordered := ordered

theorem Kept.step (k : s.Kept) (moment : RegistryMoment) : (s.step moment).Kept := by
  cases moment with
  | register name c =>
    simp only [SharedRegistry.step]
    split
    next registry h => exact k.registered h
    next f h =>
      rw [Registry.leaves_register f h]
      exact k.refused (Registry.register_eq_error_iff.mp h).1 _
  | take name =>
    simp only [SharedRegistry.step]
    split
    next registry c h =>
      exact k.returned h (fun id => by simpa [gotBy?] using k.collected id) k.ordered
    next f h =>
      rw [Registry.leaves_take f h]
      exact k
  | list =>
    refine { k with
      collected := fun id => ?_, ordered := Table.forall_add k.ordered s.registry.sorted }
    · by_cases hid : id = s.drains.next
      · have hnone : gotBy id s.history = [] := by
          rw [← k.collected id, hid, Table.get?_next]
          rfl
        simp [SharedRegistry.step, hid ▸ hnone, hid, Table.get?_add_next]
      · simpa [SharedRegistry.step, Table.get?_add_of_ne _ _ hid] using k.collected id
  | remove id =>
    simp only [SharedRegistry.step]
    split
    next name pending taken hd =>
      have hordered := k.ordered id _ hd
      have hid := Table.lt_next_of_get? hd
      split
      next registry c h =>
        refine k.returned h (fun other => ?_)
          (Table.forall_set k.ordered hd (by simpa using hordered))
        have hcollected := k.collected other
        by_cases hother : id = other
        · subst hother
          rw [hd] at hcollected
          simpa [gotBy?, Table.get?_set_self hid] using hcollected
        · simpa [gotBy?, hother, Table.get?_set_of_ne _ _ hother] using hcollected
      next f h =>
        rw [Registry.leaves_take f h]
        refine { k with collected := fun other => ?_, ordered := Table.forall_set k.ordered hd ?_ }
        · have hcollected := k.collected other
          by_cases hother : id = other
          · subst hother
            rw [hd] at hcollected
            simpa [Table.get?_set_self hid] using hcollected
          · simpa [Table.get?_set_of_ne _ _ hother] using hcollected
        · exact hordered.sublist ((List.sublist_cons_self ..).append_left _)
    next => exact k
    next => exact k

theorem Kept.run (k : s.Kept) (schedule : List RegistryMoment) : (s.run schedule).Kept := by
  induction schedule generalizing s with
  | nil => exact k
  | cons moment rest ih => exact ih (k.step moment)

/-! ## What is let go -/

/-- The capsules of a registry, and those that clients got back. -/
def things (s : SharedRegistry) : Multiset Thing :=
  s.registry.things + Registry.named (s.history.filterMap returned?)

theorem things_returned (h : s.registry.take name = .ok (registry, c)) (drains : Table Drain)
    (drain : Option Nat) :
    things { s with registry, drains, history := .returned drain name c :: s.history } =
      s.things := by
  simp [things, returned?, Registry.things_of_take h]

/-- A capsule that is offered comes to the others or is let go, and nothing else is let go. -/
theorem moves_of_step (s : SharedRegistry) (moment : RegistryMoment) (others : Multiset Thing)
    (n : Nat) :
    Moves ⟨s.heap, Registry.named moment.offered?.toList + (s.things + others), n⟩
      ⟨(s.step moment).heap, (s.step moment).things + others, n⟩ := by
  cases moment with
  | register name c =>
    simp only [SharedRegistry.step, RegistryMoment.offered?, Option.toList_some,
      Registry.named_cons, Registry.named_nil, Multiset.cons_add, zero_add]
    split
    next registry h =>
      simp only [things, List.filterMap_cons, returned?, Registry.things_of_register h,
        Multiset.cons_add]
      exact .refl
    next f h =>
      rw [Registry.leaves_register f h]
      exact .single (.dropCapsule ..)
  | take name =>
    simp only [SharedRegistry.step, RegistryMoment.offered?, Option.toList_none,
      Registry.named_nil, zero_add]
    split
    next registry c h =>
      rw [things_returned h]
    next f h => rw [Registry.leaves_take f h]
  | list =>
    simp only [RegistryMoment.offered?, Option.toList_none, Registry.named_nil, zero_add]
    exact .refl
  | remove id =>
    simp only [SharedRegistry.step, RegistryMoment.offered?, Option.toList_none,
      Registry.named_nil, zero_add]
    split
    next name pending taken hd =>
      split
      next registry c h =>
        rw [things_returned h]
      next f h =>
        rw [Registry.leaves_take f h]
        exact .refl
    next => exact .refl
    next => exact .refl

theorem moves_of_run (s : SharedRegistry) (schedule : List RegistryMoment)
    (others : Multiset Thing) (n : Nat) :
    Moves
      ⟨s.heap, Registry.named (schedule.filterMap RegistryMoment.offered?) + (s.things + others), n⟩
      ⟨(s.run schedule).heap, (s.run schedule).things + others, n⟩ := by
  induction schedule generalizing s with
  | nil => simpa using Relation.ReflTransGen.refl
  | cons moment rest ih =>
    let later := Registry.named (rest.filterMap RegistryMoment.offered?)
    have hoffered : Registry.named ((moment :: rest).filterMap RegistryMoment.offered?) =
        Registry.named moment.offered?.toList + later := by
      rcases h : moment.offered? with _ | ⟨name, c⟩ <;> simp [h, later]
    have hstep := moves_of_step s moment (later + others) n
    rw [add_left_comm (s.step moment).things] at hstep
    rw [hoffered, add_assoc, add_left_comm later]
    exact hstep.trans (ih (s.step moment))

/-! ## Drains that nobody comes between -/

theorem run_remove_finished {id : Nat} {taken : List (String × Capsule)}
    (hd : s.drains.get? id = some ⟨[], taken⟩) (k : Nat) :
    s.run (List.replicate k (.remove id)) = s := by
  induction k with
  | zero => rfl
  | succ k ih =>
    have hstep : s.step (.remove id) = s := by simp only [SharedRegistry.step, hd]
    rw [List.replicate_succ, run_cons, hstep, ih]

theorem run_remove {id : Nat} {pending : List String} {taken : List (String × Capsule)} {k : Nat}
    (hd : s.drains.get? id = some ⟨pending, taken⟩) (hk : pending.length ≤ k) :
    (s.run (List.replicate k (.remove id))).registry = (s.registry.takeEach pending).1 ∧
      (s.run (List.replicate k (.remove id))).drains.get? id =
        some ⟨[], taken ++ (s.registry.takeEach pending).2⟩ := by
  induction pending generalizing s taken k with
  | nil => simp [run_remove_finished hd, Registry.takeEach, hd]
  | cons name pending ih =>
    obtain ⟨k, rfl⟩ : ∃ k', k = k' + 1 := ⟨k - 1, by simp at hk; omega⟩
    have hk : pending.length ≤ k := by simpa using hk
    have hid := Table.lt_next_of_get? hd
    rw [List.replicate_succ]
    have hnext (d : Drain) : (s.drains.set id d).get? id = some d := Table.get?_set_self hid d
    cases htake : s.registry.take name with
    | ok x =>
      obtain ⟨registry, c⟩ := x
      have hstep : s.step (.remove id) =
          { s with
            registry
            drains := s.drains.set id ⟨pending, taken ++ [(name, c)]⟩
            history := .returned (some id) name c :: s.history } := by
        simp only [SharedRegistry.step, hd, htake]
      have hrun := ih (s := s.step (.remove id)) (by rw [hstep]; exact hnext _) hk
      simpa [hstep, Registry.takeEach, htake] using hrun
    | error f =>
      have hstep : s.step (.remove id) =
          { s with drains := s.drains.set id ⟨pending, taken⟩ } := by
        simp only [SharedRegistry.step, hd, htake, Registry.leaves_take f htake]
      have hrun := ih (s := s.step (.remove id)) (by rw [hstep]; exact hnext _) hk
      simpa [hstep, Registry.takeEach, htake, Registry.leaves_take f htake] using hrun

/-- A drain that nobody comes between gives every entry and leaves none. -/
theorem run_drain (s : SharedRegistry) {k : Nat} (hk : s.registry.size ≤ k) :
    (s.run (.list :: List.replicate k (.remove s.drains.next))).registry = .empty ∧
      (s.run (.list :: List.replicate k (.remove s.drains.next))).drains.get? s.drains.next =
        some ⟨[], s.registry.entries⟩ := by
  have hd : (s.step .list).drains.get? s.drains.next = some ⟨s.registry.names, []⟩ :=
    Table.get?_add_next ..
  have hdrain := s.registry.drain_eq
  unfold Registry.drain at hdrain
  have hrun := run_remove hd (k := k) (by simpa [Registry.names, Registry.size] using hk)
  simpa [SharedRegistry.step, hdrain] using hrun

/-! ## Collecting -/

/-- Collecting is registering one after the other. -/
theorem collect_eq_run (entries : List (String × Capsule)) (s : SharedRegistry) :
    Registry.collect s.heap entries s.registry =
      ((s.run (entries.map fun e => .register e.1 e.2)).heap,
        (s.run (entries.map fun e => .register e.1 e.2)).registry) := by
  induction entries generalizing s with
  | nil => rfl
  | cons e rest ih =>
    rw [List.map_cons, run_cons, ← ih]
    cases h : s.registry.register e.1 e.2 <;> simp only [Registry.collect, SharedRegistry.step, h]

end Steps

/-! ## Conservation -/

/-- What a schedule did to the capsules that clients brought. -/
structure Conserved (h : Heap) (schedule : List RegistryMoment) (s : SharedRegistry) : Prop where
  distinct : s.registry.names.Nodup
  /-- A capsule that was registered is under its name, or a take or a drain got it, and until then
  nothing else happened under the name. -/
  registered : ∀ later name c earlier, s.history = later ++ .registered name c :: earlier →
    (s.registry.get? name = some c ∧ ∀ e ∈ later, ¬ e.Concerns name) ∨
      ∃ after drain between, later = after ++ .returned drain name c :: between ∧
        ∀ e ∈ between, ¬ e.Concerns name
  /-- Whatever was got was registered before, and nobody else got it since. -/
  returned : ∀ later drain name c earlier, s.history = later ++ .returned drain name c :: earlier →
    ∃ between before, earlier = between ++ .registered name c :: before ∧
      ∀ e ∈ between, ¬ e.Concerns name
  counted : (s.history.filterMap registered?).Perm
    (s.registry.entries ++ s.history.filterMap returned?)
  /-- A capsule that comes to an occupied name is let go, and that is all. -/
  refused : ∀ name c, (s.registry.get? name).isSome → s.step (.register name c) =
    { s with heap := s.heap.dropCapsule c, history := .refused name c :: s.history }
  accepted : ∀ name c, s.registry.get? name = none →
    ∃ registry, s.step (.register name c) =
        { s with registry, history := .registered name c :: s.history } ∧
      ∀ other, registry.get? other = if other = name then some c else s.registry.get? other
  taken : ∀ name c, s.registry.get? name = some c →
    ∃ registry, s.step (.take name) =
        { s with registry, history := .returned none name c :: s.history } ∧
      ∀ other, registry.get? other = if other = name then none else s.registry.get? other
  absent : ∀ name, s.registry.get? name = none → s.step (.take name) = s
  /-- What was let go is released, and nothing that is in the registry or that clients have. -/
  released : ∀ others n,
    let offered := Registry.named (schedule.filterMap RegistryMoment.offered?)
    World.Balanced ⟨h, offered + others, n⟩ → World.Sound ⟨h, offered + others, n⟩ →
      World.Released ⟨s.heap, s.things + others, n⟩
  /-- A drain gets what it removed, in the order of the names. -/
  drains : ∀ id d, s.drains.get? id = some d →
    d.taken = gotBy id s.history ∧ (d.taken.map Prod.fst).Pairwise (· < ·)
  /-- One that nobody comes between gets all there is. -/
  alone : ∀ k, s.registry.size ≤ k →
    let drained := s.run (.list :: List.replicate k (.remove s.drains.next))
    drained.registry = .empty ∧
      drained.drains.get? s.drains.next = some ⟨[], s.registry.entries⟩ ∧
      s.registry.drain = (.empty, s.registry.entries)

/-- No schedule loses or duplicates a capsule, and collecting is registering in turn: each name
gets the first of its capsules. -/
theorem conserved_run (h : Heap) (schedule : List RegistryMoment)
    (entries : List (String × Capsule)) :
    Conserved h schedule ((new h).run schedule) ∧
      Registry.collect h entries .empty =
        (((new h).run (entries.map fun e => .register e.1 e.2)).heap,
          ((new h).run (entries.map fun e => .register e.1 e.2)).registry) ∧
      ∀ name, (Registry.collect h entries .empty).2.get? name = entries.lookup name := by
  refine ⟨?_, collect_eq_run entries (new h),
    fun name => Registry.get?_collect entries h .empty name⟩
  have k := (kept_new h).run schedule
  have hmoves := moves_of_run (new h) schedule
  generalize (new h).run schedule = s at k hmoves ⊢
  constructor
  case distinct => exact s.registry.distinct
  case registered =>
    intro later name c earlier hhistory
    rw [k.found, hhistory]
    exact (hhistory ▸ k.lawful).registered.imp_left And.symm
  case returned =>
    intro later drain name c earlier hhistory
    exact (hhistory ▸ k.lawful).returned
  case counted => exact k.counted
  case refused =>
    intro name c hsome
    simp only [step, Registry.register_eq_error_iff.mpr ⟨hsome, rfl⟩]
  case accepted =>
    intro name c hnone
    cases hregister : s.registry.register name c with
    | ok registry =>
      exact ⟨registry, by simp only [step, hregister], Registry.get?_of_register hregister⟩
    | error e => simp [hnone, Registry.register_eq_error_iff] at hregister
  case taken =>
    intro name c hsome
    cases htake : s.registry.take name with
    | ok x =>
      obtain ⟨registry, c'⟩ := x
      obtain rfl : c' = c :=
        Option.some.inj ((Registry.get?_self_of_take htake).symm.trans hsome)
      exact ⟨registry, by simp only [step, htake], Registry.get?_of_take htake⟩
    | error e => simp [hsome, Registry.take_eq_error_iff] at htake
  case absent =>
    intro name hnone
    simp only [step, Registry.take_eq_error_iff.mpr ⟨hnone, rfl⟩]
  case released =>
    intro others n offered balanced sound
    have hmoves := hmoves others n
    simp only [new, things, Registry.things_empty, List.filterMap_nil, Registry.named_nil,
      add_zero, zero_add] at hmoves
    exact (hmoves.balanced balanced).released (hmoves.sound sound)
  case drains =>
    intro id d hd
    have hcollected := k.collected id
    rw [hd] at hcollected
    exact ⟨hcollected, (k.ordered id d hd).sublist (List.sublist_append_left ..)⟩
  case alone =>
    intro n hn
    exact ⟨(run_drain s hn).1, (run_drain s hn).2, s.registry.drain_eq⟩

end SharedRegistry

end TensorExchange
