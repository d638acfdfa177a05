import TensorExchange.Capsule
import TensorExchange.Slots

/-!
Registries: capsules under names.

A name has one capsule at most; a second one is refused and let go.  Names are kept in the order of
their characters, so listing and draining need no sorting.

That the entries are sorted, and so have different names, is part of the type.  Operations show it
as they build their result, and nobody has to assume it of a registry that is at hand.

Main statements here: registering adds one entry and taking removes one, as bags of entries and of
capsules.  What is found under which name afterwards is in `Proofs/Registry`, and what any number
of clients do to one registry in `Proofs/Shared`.
-/

namespace TensorExchange

/-- Capsules under names, in the order of the names. -/
structure Registry where
  entries : List (String × Capsule)
  sorted : (entries.map Prod.fst).Pairwise (· < ·)
deriving DecidableEq, Repr

namespace Registry

def empty : Registry := ⟨[], .nil⟩

instance : Inhabited Registry := ⟨empty⟩

def names (r : Registry) : List String := r.entries.map Prod.fst

def capsules (r : Registry) : List Capsule := r.entries.map Prod.snd

def size (r : Registry) : Nat := r.entries.length

def get? (r : Registry) (name : String) : Option Capsule := r.entries.lookup name

def contains (r : Registry) (name : String) : Bool := (r.get? name).isSome

/-- What is known about the capsule under a name. -/
def inspect (r : Registry) (name : String) : Option CapsuleInfo := (r.get? name).map Capsule.info

/-- Puts an entry before the first one with a larger name. -/
def insertEntry (name : String) (c : Capsule) : List (String × Capsule) → List (String × Capsule)
  | [] => [(name, c)]
  | e :: rest => if name < e.1 then (name, c) :: e :: rest else e :: insertEntry name c rest

theorem insertEntry_perm (name : String) (c : Capsule) (entries : List (String × Capsule)) :
    (insertEntry name c entries).Perm ((name, c) :: entries) := by
  induction entries with
  | nil => exact .refl _
  | cons e rest ih =>
    unfold insertEntry
    split
    · exact .refl _
    · exact (ih.cons e).trans (.swap ..)

theorem insertEntry_sorted {name : String} (c : Capsule) {entries : List (String × Capsule)}
    (fresh : name ∉ entries.map Prod.fst) (h : (entries.map Prod.fst).Pairwise (· < ·)) :
    ((insertEntry name c entries).map Prod.fst).Pairwise (· < ·) := by
  induction entries with
  | nil => exact List.pairwise_singleton ..
  | cons e rest ih =>
    simp only [List.map_cons, List.mem_cons, not_or] at fresh
    obtain ⟨hhead, htail⟩ := List.pairwise_cons.mp h
    unfold insertEntry
    split
    case isTrue hlt =>
      refine List.pairwise_cons.mpr ⟨fun other hother => ?_, h⟩
      rcases List.mem_cons.mp hother with rfl | hrest
      · exact hlt
      · exact String.lt_trans hlt (hhead other hrest)
    case isFalse hge =>
      have hlt : e.1 < name := by
        refine Decidable.byContradiction fun hnot => fresh.1 ?_
        exact String.le_antisymm (String.not_lt.mp hnot) (String.not_lt.mp hge)
      refine List.pairwise_cons.mpr ⟨fun other hother => ?_, ih fresh.2 htail⟩
      have hmem := ((insertEntry_perm name c rest).map Prod.fst).mem_iff.mp hother
      rcases List.mem_cons.mp hmem with rfl | hrest
      · exact hlt
      · exact hhead other hrest

theorem distinct (r : Registry) : r.names.Nodup := by
  refine r.sorted.imp fun {a b} (hlt : a < b) (heq : a = b) => ?_
  exact String.lt_irrefl b (heq ▸ hlt)

theorem notMem_names_iff {r : Registry} {name : String} :
    name ∉ r.names ↔ r.contains name = false := by
  simp only [contains, Option.isSome_eq_false_iff, Option.isNone_iff_eq_none]
  exact lookup_eq_none_iff_notMem.symm

/-- Adds a capsule under a name that is free. -/
def register (r : Registry) (name : String) (c : Capsule) :
    Except (Failure Error Registry) Registry :=
  if h : r.contains name = true then .error ⟨.duplicateName name, r⟩
  else
    .ok
      { entries := insertEntry name c r.entries
        sorted := insertEntry_sorted c (notMem_names_iff.mpr (Bool.eq_false_iff.mpr h)) r.sorted }

/-- Removes and gives the capsule under a name. -/
def take (r : Registry) (name : String) :
    Except (Failure Error Registry) (Registry × Capsule) :=
  match r.get? name with
  | some c =>
    .ok
      ({ entries := withoutName r.entries name
         sorted := r.sorted.sublist (List.filter_sublist.map Prod.fst) }, c)
  | none => .error ⟨.notFound name, r⟩

/-- Removes and gives the capsules under names, one after the other; a name that is not there any
more is passed over. -/
def takeEach (r : Registry) : List String → Registry × List (String × Capsule)
  | [] => (r, [])
  | name :: rest =>
    match r.take name with
    | .ok (r, c) =>
      let (r, taken) := takeEach r rest
      (r, (name, c) :: taken)
    | .error f => takeEach f.state rest

/-- Removes and gives every entry, in the order of the names: the names are listed first, and then
each is taken. -/
def drain (r : Registry) : Registry × List (String × Capsule) := r.takeEach r.names

/-! ## Entries -/

theorem entries_perm_of_register {r r' : Registry} {name : String} {c : Capsule}
    (h : r.register name c = .ok r') : r'.entries.Perm ((name, c) :: r.entries) := by
  unfold register at h
  split at h
  case isTrue => cases h
  case isFalse =>
    obtain rfl := Except.ok.inj h
    exact insertEntry_perm name c r.entries

theorem entries_perm_of_take {r r' : Registry} {name : String} {c : Capsule}
    (h : r.take name = .ok (r', c)) : r.entries.Perm ((name, c) :: r'.entries) := by
  unfold take at h
  split at h
  next found =>
    obtain ⟨rfl, rfl⟩ := Prod.mk.inj (Except.ok.inj h)
    exact perm_of_lookup r.distinct found
  next => cases h

theorem capsules_perm_of_register {r r' : Registry} {name : String} {c : Capsule}
    (h : r.register name c = .ok r') : r'.capsules.Perm (c :: r.capsules) :=
  (entries_perm_of_register h).map Prod.snd

theorem capsules_perm_of_take {r r' : Registry} {name : String} {c : Capsule}
    (h : r.take name = .ok (r', c)) : r.capsules.Perm (c :: r'.capsules) :=
  (entries_perm_of_take h).map Prod.snd

/-- Takes in capsules one after the other; one whose name is taken is let go. -/
def collect (h : Heap) : List (String × Capsule) → Registry → Heap × Registry
  | [], r => (h, r)
  | (name, c) :: rest, r =>
    match r.register name c with
    | .ok r => collect h rest r
    | .error f => collect (h.dropCapsule c) rest f.state

end Registry

/-- Lets go of a registry with all its capsules. -/
def Heap.dropRegistry (h : Heap) (r : Registry) : Heap :=
  r.entries.foldl (fun h e => h.dropCapsule e.2) h

end TensorExchange
