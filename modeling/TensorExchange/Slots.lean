/-!
Slots: things under names that a client chose.

A name has one thing at most.  Main statements: what is found after each
operation, and that what is found under a name and the things under the other
names are all there is.
-/

namespace TensorExchange

section Names

variable {α : Type} {entries : List (String × α)} {name : String} {a : α}

/-- The entries of all names but one. -/
def withoutName (entries : List (String × α)) (name : String) : List (String × α) :=
  entries.filter fun e => e.1 != name

theorem withoutName_distinct (h : (entries.map Prod.fst).Nodup) (name : String) :
    ((withoutName entries name).map Prod.fst).Nodup :=
  h.sublist (List.filter_sublist.map Prod.fst)

theorem notMem_withoutName (entries : List (String × α)) (name : String) :
    name ∉ (withoutName entries name).map Prod.fst := by
  simp [withoutName]

theorem withoutName_eq_self (h : name ∉ entries.map Prod.fst) :
    withoutName entries name = entries := by
  refine List.filter_eq_self.mpr fun e he => ?_
  have : e.1 ≠ name := fun heq => h (heq ▸ List.mem_map_of_mem he)
  simpa using this

theorem lookup_eq_none_iff_notMem : entries.lookup name = none ↔ name ∉ entries.map Prod.fst := by
  rw [List.lookup_eq_none_iff]
  constructor
  · intro h hmem
    obtain ⟨e, he, rfl⟩ := List.mem_map.mp hmem
    simpa using h e he
  · intro h e he
    have : name ≠ e.1 := fun heq => h (heq ▸ List.mem_map_of_mem he)
    simpa using this

/-- What is found under a name and the entries of the other names are all there is. -/
theorem perm_of_lookup (h : (entries.map Prod.fst).Nodup) (found : entries.lookup name = some a) :
    entries.Perm ((name, a) :: withoutName entries name) := by
  obtain ⟨front, rest, rfl, _⟩ := List.lookup_eq_some_iff.mp found
  have hperm : (front ++ (name, a) :: rest).Perm ((name, a) :: (front ++ rest)) :=
    List.perm_middle
  have hmem : name ∉ (front ++ rest).map Prod.fst :=
    (List.nodup_cons.mp ((hperm.map Prod.fst).nodup_iff.mp h)).1
  have hdrop : withoutName (front ++ (name, a) :: rest) name = front ++ rest := by
    have := withoutName_eq_self hmem
    simpa [withoutName] using this
  rw [hdrop]
  exact hperm

end Names

/-- Things under names, each name at most once. -/
structure Slots (α : Type) where
  entries : List (String × α)
  distinct : (entries.map Prod.fst).Nodup

namespace Slots

variable {α : Type}

def empty : Slots α := ⟨[], List.nodup_nil⟩

instance : Inhabited (Slots α) := ⟨empty⟩

def get? (s : Slots α) (name : String) : Option α := s.entries.lookup name

def erase (s : Slots α) (name : String) : Slots α :=
  ⟨withoutName s.entries name, withoutName_distinct s.distinct name⟩

/-- Puts a thing under a name, in place of what was there. -/
def put (s : Slots α) (name : String) (a : α) : Slots α where
  entries := (name, a) :: withoutName s.entries name
  distinct := List.nodup_cons.mpr
    ⟨notMem_withoutName s.entries name, withoutName_distinct s.distinct name⟩

/-- Replaces the thing under a name, in its place. -/
def update (s : Slots α) (name : String) (a : α) : Slots α where
  entries := s.entries.map fun e => if e.1 = name then (e.1, a) else e
  distinct := by
    have hnames : (Prod.fst ∘ fun e : String × α => if e.1 = name then (e.1, a) else e) =
        Prod.fst := by
      funext e
      simp only [Function.comp_apply]
      split <;> rfl
    rw [List.map_map, hnames]
    exact s.distinct

def values (s : Slots α) : List α := s.entries.map Prod.snd

/-- The entries in the order of their names. -/
def sorted (s : Slots α) : List (String × α) :=
  s.entries.mergeSort fun a b => a.1 ≤ b.1

/-! ## What is found -/

theorem lookup_withoutName (entries : List (String × α)) (name other : String) :
    (withoutName entries name).lookup other =
      if other = name then none else entries.lookup other := by
  unfold withoutName
  induction entries with
  | nil => simp
  | cons e rest ih =>
    obtain ⟨key, a⟩ := e
    by_cases hkey : key = name
    · have hdrop : ((key, a) :: rest).filter (fun e => e.1 != name) =
          rest.filter fun e => e.1 != name := by simp [hkey]
      rw [hdrop, ih]
      by_cases hother : other = name
      · simp [hother]
      · have hne : (other == key) = false := by simp [hkey, hother]
        simp [hother, List.lookup_cons, hne]
    · have hkeep : ((key, a) :: rest).filter (fun e => e.1 != name) =
          (key, a) :: rest.filter fun e => e.1 != name := by simp [hkey]
      rw [hkeep]
      by_cases hother : other = key
      · subst hother
        simp [hkey]
      · have hne : (other == key) = false := by simpa using hother
        simp [List.lookup_cons, hne, ih]

theorem get?_erase (s : Slots α) (name other : String) :
    (s.erase name).get? other = if other = name then none else s.get? other :=
  lookup_withoutName s.entries name other

theorem erase_eq_self {s : Slots α} {name : String} (h : s.get? name = none) :
    s.erase name = s := by
  cases s
  simp only [erase, withoutName_eq_self (lookup_eq_none_iff_notMem.mp h)]

theorem get?_put (s : Slots α) (name other : String) (a : α) :
    (s.put name a).get? other = if other = name then some a else s.get? other := by
  by_cases h : other = name
  · subst h
    simp [put, get?]
  · have hne : (other == name) = false := by simpa using h
    have herase := get?_erase s name other
    simp only [erase, get?, h, if_false] at herase
    simp [put, get?, List.lookup_cons, hne, h, herase]

theorem mem_entries_iff {s : Slots α} {name : String} {a : α} (found : s.get? name = some a)
    {e : String × α} : e ∈ s.entries ↔ e = (name, a) ∨ e ∈ (s.erase name).entries := by
  rw [(perm_of_lookup s.distinct found).mem_iff]
  exact List.mem_cons

theorem ne_of_mem_erase {s : Slots α} {name : String} {e : String × α}
    (h : e ∈ (s.erase name).entries) : e.1 ≠ name := by
  rintro rfl
  exact notMem_withoutName s.entries e.1 (List.mem_map_of_mem h)

theorem update_eq_self {s : Slots α} {name : String} {a : α} (found : s.get? name = some a) :
    s.update name a = s := by
  have hsame : (s.update name a).entries = s.entries := by
    refine (List.map_congr_left fun e he => ?_).trans (List.map_id _)
    rcases (mem_entries_iff found).mp he with rfl | hother
    · exact if_pos rfl
    · exact if_neg (ne_of_mem_erase hother)
  cases s
  simpa only [update, mk.injEq] using hsame

/-! ## What there is -/

@[simp] theorem values_put (s : Slots α) (name : String) (a : α) :
    (s.put name a).values = a :: (s.erase name).values := rfl

theorem values_erase_of_none {s : Slots α} {name : String} (h : s.get? name = none) :
    (s.erase name).values = s.values := by rw [erase_eq_self h]

theorem values_perm {s : Slots α} {name : String} {a : α} (h : s.get? name = some a) :
    s.values.Perm (a :: (s.erase name).values) :=
  (perm_of_lookup s.distinct h).map Prod.snd

theorem values_update_perm {s : Slots α} {name : String} {a b : α} (h : s.get? name = some a) :
    (s.update name b).values.Perm (b :: (s.erase name).values) := by
  have hperm := (perm_of_lookup s.distinct h).map fun e => if e.1 = name then (e.1, b) else e
  have hrest : (withoutName s.entries name).map (fun e => if e.1 = name then (e.1, b) else e) =
      withoutName s.entries name :=
    (List.map_congr_left fun e he => if_neg (ne_of_mem_erase he)).trans (List.map_id _)
  rw [List.map_cons, if_pos rfl, hrest] at hperm
  exact hperm.map Prod.snd

end Slots

end TensorExchange
