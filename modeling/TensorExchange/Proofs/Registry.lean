import TensorExchange.Registry

/-!
Registries by themselves: what is found under the names, draining and collecting.

A registry is a list of capsules sorted by name, in which each name is at most once.  Whether
entries stay sorted and distinct is carried by its type; here is what clients see.

Main statements, for one client alone:

* registering and taking change what is under one name and nothing else
  (`get?_of_register`, `get?_of_take`);
* registering is refused exactly if the name is there, and taking exactly if it is not
  (`register_eq_error_iff`, `take_eq_error_iff`), and a refusal carries the registry as it was;
* draining gives all entries in the order of their names and leaves nothing (`drain_eq`);
* collecting keeps the first capsule of each name and lets go of the others (`get?_collect`).

Draining is defined by what it does: list the names, then remove one after the other.  That
this gives the entries as they are follows the sorted list from its first name on
(`take_first`).  With other clients in between it gives less, which is the subject of
`Proofs/Shared`; the statements here are used there for the moments at which a registry is
alone with one client.
-/

namespace TensorExchange

namespace Registry

/-! ## What is found -/

theorem lookup_insertEntry {name : String} (c : Capsule) {entries : List (String × Capsule)}
    (fresh : name ∉ entries.map Prod.fst) (other : String) :
    (insertEntry name c entries).lookup other =
      if other = name then some c else entries.lookup other := by
  have front (rest : List (String × Capsule)) : ((name, c) :: rest).lookup other =
      if other = name then some c else rest.lookup other := by
    by_cases h : other = name
    · simp [h]
    · have hne : (other == name) = false := by simpa using h
      simp [List.lookup_cons, hne, h]
  induction entries with
  | nil => exact front []
  | cons e rest ih =>
    obtain ⟨key, c'⟩ := e
    simp only [List.map_cons, List.mem_cons, not_or] at fresh
    unfold insertEntry
    split
    case isTrue => exact front _
    case isFalse =>
      by_cases h : other = key
      · subst h
        simp [Ne.symm fresh.1]
      · have hne : (other == key) = false := by simpa using h
        simp only [List.lookup_cons, hne, ih fresh.2]

theorem get?_of_register {r r' : Registry} {name : String} {c : Capsule}
    (h : r.register name c = .ok r') (other : String) :
    r'.get? other = if other = name then some c else r.get? other := by
  unfold register at h
  split at h
  case isTrue => cases h
  case isFalse free =>
    obtain rfl := Except.ok.inj h
    exact lookup_insertEntry c (notMem_names_iff.mpr (Bool.eq_false_iff.mpr free)) other

theorem get?_of_take {r r' : Registry} {name : String} {c : Capsule}
    (h : r.take name = .ok (r', c)) (other : String) :
    r'.get? other = if other = name then none else r.get? other := by
  unfold take at h
  split at h
  next found =>
    obtain ⟨rfl, _⟩ := Prod.mk.inj (Except.ok.inj h)
    exact Slots.lookup_withoutName r.entries name other
  next => cases h

theorem get?_self_of_take {r r' : Registry} {name : String} {c : Capsule}
    (h : r.take name = .ok (r', c)) : r.get? name = some c := by
  unfold take at h
  split at h
  next found =>
    obtain ⟨_, rfl⟩ := Prod.mk.inj (Except.ok.inj h)
    exact found
  next => cases h

theorem get?_eq_none_of_register {r r' : Registry} {name : String} {c : Capsule}
    (h : r.register name c = .ok r') : r.get? name = none := by
  unfold register contains at h
  split at h
  case isTrue => cases h
  case isFalse free => simpa using free

theorem register_eq_error_iff {r : Registry} {name : String} {c : Capsule}
    {f : Failure Error Registry} :
    r.register name c = .error f ↔ (r.get? name).isSome ∧ f = ⟨.duplicateName name, r⟩ := by
  unfold register contains
  split
  case isTrue h => simp [h, eq_comm]
  case isFalse h => simp [h]

theorem take_eq_error_iff {r : Registry} {name : String} {f : Failure Error Registry} :
    r.take name = .error f ↔ r.get? name = none ∧ f = ⟨.notFound name, r⟩ := by
  unfold take
  split
  next found => simp [found]
  next found => simp [found, eq_comm]

/-! ## Draining at once -/

theorem ext_entries {r r' : Registry} (h : r.entries = r'.entries) : r = r' := by
  cases r
  cases r'
  cases h
  rfl

theorem take_first {r : Registry} {name : String} {c : Capsule} {rest : List (String × Capsule)}
    (h : r.entries = (name, c) :: rest) :
    ∃ r', r.take name = .ok (r', c) ∧ r'.entries = rest := by
  have hfound : r.get? name = some c := by simp [get?, h]
  have hnew : name ∉ rest.map Prod.fst := by
    have := r.distinct
    rw [names, h] at this
    exact (List.nodup_cons.mp this).1
  have hrest : withoutName r.entries name = rest := by
    rw [h, withoutName, List.filter_cons_of_neg (by simp)]
    exact withoutName_eq_self hnew
  unfold take
  rw [hfound]
  exact ⟨_, rfl, hrest⟩

/-- A drain that nobody comes between gives every entry and leaves none. -/
theorem drain_eq (r : Registry) : r.drain = (empty, r.entries) := by
  suffices h : ∀ entries (r : Registry), r.entries = entries →
      r.takeEach (entries.map Prod.fst) = (empty, entries) from h r.entries r rfl
  intro entries
  induction entries with
  | nil => exact fun r h => Prod.ext (ext_entries h) rfl
  | cons e rest ih =>
    intro r h
    obtain ⟨r', htake, hrest⟩ := take_first h
    simp only [List.map_cons, takeEach, htake, ih r' hrest]

/-! ## Collecting -/

/-- Names that are there keep their capsules, and the others get the first one of theirs. -/
theorem get?_collect (entries : List (String × Capsule)) (h : Heap) (r : Registry)
    (name : String) :
    (collect h entries r).2.get? name = (r.get? name).or (entries.lookup name) := by
  induction entries generalizing h r with
  | nil => simp [collect]
  | cons e rest ih =>
    obtain ⟨key, c⟩ := e
    unfold collect
    split
    next r' hregister =>
      rw [ih, get?_of_register hregister]
      by_cases hkey : name = key
      · subst hkey
        simp [get?_eq_none_of_register hregister]
      · have hne : (name == key) = false := by simpa using hkey
        simp [hkey, List.lookup_cons, hne]
    next f hregister =>
      obtain ⟨hsome, rfl⟩ := register_eq_error_iff.mp hregister
      rw [ih]
      by_cases hkey : name = key
      · subst hkey
        obtain ⟨c', hc'⟩ := Option.isSome_iff_exists.mp hsome
        simp [hc']
      · have hne : (name == key) = false := by simpa using hkey
        simp [List.lookup_cons, hne]

end Registry

end TensorExchange
