import TensorExchange.Proofs.Ownership.Stakes

/-!
Books: what the stakes say about storages, memory and tensors of other runtimes.

The stakes of everything there is, added up, say for each resource how often it is held.
There is a book for each kind of resource:

* `Table.Counted`: a storage that is there has as many holders as stakes, and at least one;
  nothing has a stake in one that is gone; and a storage is younger than the one that its
  owner carries;
* `MemoryKept`: an allocation that was handed out is given back as often as its stake says
  it is not, so once or not yet; its block is there as long as it is held, with the size it
  was handed out with, and two allocations never have one block;
* `TensorsKept`: the same for the tensors of other runtimes, whose numbers are given once and
  whose deleters are called once if they have one.

A new resource comes with a stake, and whatever releases a resource uses up its last one.
Each lemma below says so of one operation on tables or on the journal, and none of them
mentions a heap; the heap is put together from these in `Proofs/Ownership/Balance`.

The books of memory and tensors do not look at storages (`Stakes.SameContents`), so
operations that only count holders keep them without further proof (`MemoryKept.congr`,
`TensorsKept.congr`).

The journal is a list of events, newest first.  That a block is handed out at most once is a
count of events over all allocations of the block, which is why counts of one event and
counts of a kind of events are compared here.
-/

namespace TensorExchange

/-- Whether an event hands out a block. -/
def Event.allocates (block : Nat) : Event → Bool
  | allocated a => a.block == block
  | _ => false

/-- Each storage has as many holders as stakes, at least one, and an owner that holds a storage
holds an older one. -/
structure Table.Counted (t : Table Holding) (stakes : Stakes) : Prop where
  holders : ∀ id, (t.get? id).elim 0 Holding.holders = stakes (.storage id)
  held : ∀ id x, t.get? id = some x → 0 < x.holders
  older : ∀ id x tensor buffer, t.get? id = some x → x.owner = .imported tensor →
    tensor.keeper = .exported buffer → buffer.storage.id < id

/-- The allocations with a stake are those that were not given back, no block has two uses, and
what has a stake is still there. -/
structure MemoryKept (blocks : Table (Array UInt8)) (journal : List Event) (stakes : Stakes) :
    Prop where
  returned : ∀ a, journal.count (.allocated a) = journal.count (.freed a) + stakes (.allocation a)
  once : ∀ block, journal.countP (Event.allocates block) + stakes (.adopted block) ≤ 1
  fresh : ∀ block, blocks.next ≤ block →
    journal.countP (Event.allocates block) + stakes (.adopted block) = 0
  stored : ∀ a, stakes (.allocation a) ≠ 0 →
    ∃ bytes, blocks.get? a.block = some bytes ∧ bytes.size = a.size
  adopted : ∀ block, stakes (.adopted block) ≠ 0 → (blocks.get? block).isSome

/-- The tensors of other runtimes with a stake are those that were not deleted, among the ones
that have a deleter.  They are numbered, up to `numbered`. -/
structure TensorsKept (journal : List Event) (stakes : Stakes) (numbered : Nat) : Prop where
  deleted : ∀ n, journal.count (.lent n true) = journal.count (.deleted n) + stakes (.foreign n)
  once : ∀ n, journal.count (.lent n true) + journal.count (.lent n false) ≤ 1
  fresh : ∀ n deletes, numbered < n → journal.count (.lent n deletes) = 0

/-! ## Stakes in storages

The books of memory and of tensors do not look at stakes in storages. -/

/-- The same stakes in everything that is no storage. -/
def Stakes.SameContents (s s' : Stakes) : Prop := ∀ r, (∀ id, r ≠ .storage id) → s r = s' r

theorem Stakes.sameContents_add_storage (s : Stakes) (id : Nat) :
    SameContents s (s + (Resource.storage id).stake) := by
  intro r hr
  simp [Resource.stake_of_ne (hr id)]

theorem Stakes.SameContents.symm {s s' : Stakes} (h : SameContents s s') : SameContents s' s :=
  fun r hr => (h r hr).symm

theorem MemoryKept.congr {blocks : Table (Array UInt8)} {journal : List Event} {s s' : Stakes}
    (m : MemoryKept blocks journal s)
    (ha : ∀ a, s' (.allocation a) = s (.allocation a))
    (hb : ∀ block, s' (.adopted block) = s (.adopted block)) : MemoryKept blocks journal s' := by
  constructor
  case returned => intro a; rw [ha]; exact m.returned a
  case once => intro block; rw [hb]; exact m.once block
  case fresh => intro block; rw [hb]; exact m.fresh block
  case stored => intro a; rw [ha]; exact m.stored a
  case adopted => intro block; rw [hb]; exact m.adopted block

theorem TensorsKept.congr {journal : List Event} {s s' : Stakes} {numbered : Nat}
    (t : TensorsKept journal s numbered) (hn : ∀ n, s' (.foreign n) = s (.foreign n)) :
    TensorsKept journal s' numbered := by
  constructor
  case deleted => intro n; rw [hn]; exact t.deleted n
  case once => exact t.once
  case fresh => exact t.fresh

/-! ## Memory -/

theorem Table.next_erase {α : Type} (t : Table α) (id : Nat) : (t.erase id).next = t.next := by
  simp [erase, next]

theorem Table.next_set {α : Type} (t : Table α) (id : Nat) (a : α) :
    (t.set id a).next = t.next := by
  simp [set, next]

theorem Table.next_add {α : Type} (t : Table α) (a : α) : (t.add a).1.next = t.next + 1 := by
  simp [add, next]

namespace MemoryKept

variable {blocks : Table (Array UInt8)} {journal : List Event} {stakes : Stakes}

theorem count_le_countP (journal : List Event) (a : Allocation) :
    journal.count (.allocated a) ≤ journal.countP (Event.allocates a.block) := by
  refine List.countP_mono_left fun e _ he => ?_
  obtain rfl : e = .allocated a := by simpa using he
  simp [Event.allocates]

theorem count_add_count_le_countP (journal : List Event) {a a' : Allocation} (hne : a ≠ a')
    (hblock : a.block = a'.block) :
    journal.count (.allocated a) + journal.count (.allocated a') ≤
      journal.countP (Event.allocates a.block) := by
  induction journal with
  | nil => simp
  | cons e rest ih =>
    simp only [List.count_cons, List.countP_cons]
    by_cases ha : e = .allocated a
    · subst ha
      have : ¬ a = a' := hne
      simp [this, Event.allocates]
      omega
    · by_cases ha' : e = .allocated a'
      · subst ha'
        have : ¬ a' = a := fun h => hne h.symm
        simp [this, Event.allocates, hblock] at ih ⊢
        omega
      · simp [ha, ha']
        omega

theorem allocated_of_stake (m : MemoryKept blocks journal stakes) {a : Allocation}
    (h : stakes (.allocation a) ≠ 0) : 0 < journal.count (.allocated a) := by
  have := m.returned a
  omega

/-- No two allocations share a block. -/
theorem eq_of_block (m : MemoryKept blocks journal stakes) {a a' : Allocation}
    (ha : 0 < journal.count (.allocated a)) (ha' : 0 < journal.count (.allocated a'))
    (hblock : a.block = a'.block) : a = a' := by
  by_contra hne
  have := count_add_count_le_countP journal hne hblock
  have := m.once a.block
  omega

/-- A block that was allocated is not one that was handed in. -/
theorem adopted_eq_zero (m : MemoryKept blocks journal stakes) {a : Allocation}
    (ha : 0 < journal.count (.allocated a)) : stakes (.adopted a.block) = 0 := by
  have := count_le_countP journal a
  have := m.once a.block
  omega

theorem stake_le_one (m : MemoryKept blocks journal stakes) (a : Allocation) :
    stakes (.allocation a) ≤ 1 := by
  have := count_le_countP journal a
  have := m.once a.block
  have := m.returned a
  omega

theorem record (m : MemoryKept blocks journal stakes) {e : Event}
    (ha : ∀ a, e ≠ .allocated a) (hf : ∀ a, e ≠ .freed a) :
    MemoryKept blocks (e :: journal) stakes := by
  have hP : ∀ block, (e :: journal).countP (Event.allocates block) =
      journal.countP (Event.allocates block) := by
    intro block
    cases e <;> simp_all [Event.allocates]
  constructor
  case returned =>
    intro a
    rw [List.count_cons_of_ne (ha a), List.count_cons_of_ne (hf a)]
    exact m.returned a
  case once => intro block; rw [hP]; exact m.once block
  case fresh => intro block; rw [hP]; exact m.fresh block
  case stored => exact m.stored
  case adopted => exact m.adopted

theorem free {a : Allocation}
    (m : MemoryKept blocks journal (stakes + (Resource.allocation a).stake)) :
    MemoryKept (blocks.erase a.block) (.freed a :: journal) stakes := by
  have hold : 0 < journal.count (.allocated a) := m.allocated_of_stake (by simp)
  constructor
  case returned =>
    intro a'
    have := m.returned a'
    by_cases h : a' = a
    · subst h
      simp at this ⊢
      omega
    · have hne : (Event.freed a) ≠ .freed a' := by simpa using Ne.symm h
      rw [List.count_cons_of_ne (by simp), List.count_cons_of_ne hne]
      simpa [Resource.stake_apply, h] using this
  case once =>
    intro block
    simpa [Event.allocates, Resource.stake_apply] using m.once block
  case fresh =>
    intro block hblock
    rw [Table.next_erase] at hblock
    simpa [Event.allocates, Resource.stake_apply] using m.fresh block hblock
  case stored =>
    intro a' ha'
    have hstake := Stakes.add_ne_zero ha' (Resource.allocation a).stake
    have hne : a.block ≠ a'.block := by
      intro hblock
      obtain rfl := m.eq_of_block hold (m.allocated_of_stake hstake) hblock
      have := m.stake_le_one a
      simp at this
      omega
    rw [Table.get?_erase_of_ne blocks hne]
    exact m.stored a' hstake
  case adopted =>
    intro block hblock
    have hstake := Stakes.add_ne_zero hblock (Resource.allocation a).stake
    have hne : a.block ≠ block := by
      intro heq
      exact hstake (heq ▸ m.adopted_eq_zero hold)
    rw [Table.get?_erase_of_ne blocks hne]
    exact m.adopted block hstake

theorem dropBlock {block : Nat}
    (m : MemoryKept blocks journal (stakes + (Resource.adopted block).stake)) :
    MemoryKept (blocks.erase block) journal stakes := by
  have hle : ∀ k, stakes (.adopted k) ≤ (stakes + (Resource.adopted block).stake) (.adopted k) :=
    fun k => Nat.le_add_right _ _
  have hself : (stakes + (Resource.adopted block).stake) (.adopted block) =
      stakes (.adopted block) + 1 := by simp
  constructor
  case returned =>
    intro a
    simpa [Resource.stake_apply] using m.returned a
  case once =>
    intro k
    have := m.once k
    have := hle k
    omega
  case fresh =>
    intro k hk
    rw [Table.next_erase] at hk
    have := m.fresh k hk
    have := hle k
    omega
  case stored =>
    intro a ha
    have hstake := Stakes.add_ne_zero ha (Resource.adopted block).stake
    have hne : block ≠ a.block := by
      rintro rfl
      have := m.adopted_eq_zero (m.allocated_of_stake hstake)
      omega
    rw [Table.get?_erase_of_ne blocks hne]
    exact m.stored a hstake
  case adopted =>
    intro k hk
    have hne : block ≠ k := by
      rintro rfl
      have := m.once block
      omega
    rw [Table.get?_erase_of_ne blocks hne]
    exact m.adopted k (by have := hle k; omega)

theorem get?_add {bytes : Array UInt8} {block : Nat} (h : (blocks.get? block).isSome) :
    (blocks.add bytes).1.get? block = blocks.get? block := by
  obtain ⟨_, hsome⟩ := Option.isSome_iff_exists.mp h
  exact Table.get?_add_of_ne blocks bytes (Nat.ne_of_lt (Table.lt_next_of_get? hsome))

theorem addBlock (m : MemoryKept blocks journal stakes) (bytes : Array UInt8) :
    MemoryKept (blocks.add bytes).1 journal stakes := by
  constructor
  case returned => exact m.returned
  case once => exact m.once
  case fresh =>
    intro block hblock
    rw [Table.next_add] at hblock
    exact m.fresh block (by omega)
  case stored =>
    intro a ha
    obtain ⟨data, hdata, hsize⟩ := m.stored a ha
    exact ⟨data, by rw [get?_add (by simp [hdata]), hdata], hsize⟩
  case adopted =>
    intro block hblock
    rw [get?_add (m.adopted block hblock)]
    exact m.adopted block hblock

theorem adopt (m : MemoryKept blocks journal stakes) (bytes : Array UInt8) :
    MemoryKept (blocks.add bytes).1 journal (stakes + (Resource.adopted blocks.next).stake) := by
  have m' := m.addBlock bytes
  have hnext := m.fresh blocks.next (Nat.le_refl _)
  have hne : ∀ k, k ≠ blocks.next →
      (stakes + (Resource.adopted blocks.next).stake) (.adopted k) = stakes (.adopted k) := by
    intro k hk
    simp [Resource.stake_apply, hk]
  constructor
  case returned =>
    intro a
    simpa [Resource.stake_apply] using m.returned a
  case once =>
    intro k
    by_cases hk : k = blocks.next
    · subst hk
      simp
      omega
    · rw [hne k hk]
      exact m.once k
  case fresh =>
    intro k hk
    rw [hne k (by rw [Table.next_add] at hk; omega)]
    exact m'.fresh k hk
  case stored =>
    intro a ha
    exact m'.stored a (by simpa [Resource.stake_apply] using ha)
  case adopted =>
    intro k hk
    by_cases heq : k = blocks.next
    · rw [heq, Table.get?_add_next]
      rfl
    · exact m'.adopted k (by rwa [hne k heq] at hk)

theorem allocate (m : MemoryKept blocks journal stakes) (a : Allocation) (bytes : Array UInt8)
    (hblock : a.block = blocks.next) (hsize : bytes.size = a.size) :
    MemoryKept (blocks.add bytes).1 (.allocated a :: journal)
      (stakes + (Resource.allocation a).stake) := by
  have m' := m.addBlock bytes
  have hnext := m.fresh blocks.next (Nat.le_refl _)
  constructor
  case returned =>
    intro a'
    have := m.returned a'
    by_cases h : a' = a
    · subst h
      simp
      omega
    · have hne : (Event.allocated a) ≠ .allocated a' := by simpa using Ne.symm h
      rw [List.count_cons_of_ne hne, List.count_cons_of_ne (by simp)]
      simpa [Resource.stake_apply, h] using this
  case once =>
    intro k
    have := m.once k
    by_cases hk : a.block = k
    · subst hk
      simp [Event.allocates, Resource.stake_apply]
      rw [hblock]
      omega
    · simpa [Event.allocates, Resource.stake_apply, hk] using this
  case fresh =>
    intro k hk
    have hne : a.block ≠ k := by
      rw [Table.next_add] at hk
      omega
    simpa [Event.allocates, Resource.stake_apply, hne] using m'.fresh k hk
  case stored =>
    intro a' ha'
    by_cases h : a' = a
    · subst h
      exact ⟨bytes, by rw [hblock, Table.get?_add_next], hsize⟩
    · exact m'.stored a' (by simpa [Resource.stake_apply, h] using ha')
  case adopted =>
    intro k hk
    exact m'.adopted k (by simpa [Resource.stake_apply] using hk)

theorem overwrite (m : MemoryKept blocks journal stakes) {block : Nat} {old bytes : Array UInt8}
    (hold : blocks.get? block = some old) (hsize : bytes.size = old.size) :
    MemoryKept (blocks.set block bytes) journal stakes := by
  have hself := Table.get?_set_self (Table.lt_next_of_get? hold) bytes
  constructor
  case returned => exact m.returned
  case once => exact m.once
  case fresh =>
    intro k hk
    rw [Table.next_set] at hk
    exact m.fresh k hk
  case stored =>
    intro a ha
    obtain ⟨data, hdata, hdsize⟩ := m.stored a ha
    by_cases h : block = a.block
    · subst h
      obtain rfl : old = data := Option.some.inj (hold.symm.trans hdata)
      exact ⟨bytes, hself, hsize.trans hdsize⟩
    · exact ⟨data, by rw [Table.get?_set_of_ne _ _ h, hdata], hdsize⟩
  case adopted =>
    intro k hk
    by_cases h : block = k
    · subst h
      rw [hself]
      rfl
    · rw [Table.get?_set_of_ne _ _ h]
      exact m.adopted k hk

end MemoryKept

/-! ## Tensors of other runtimes -/

namespace TensorsKept

variable {journal : List Event} {stakes : Stakes} {numbered : Nat}

theorem record (t : TensorsKept journal stakes numbered) {e : Event}
    (hl : ∀ n deletes, e ≠ .lent n deletes) (hd : ∀ n, e ≠ .deleted n) :
    TensorsKept (e :: journal) stakes numbered := by
  have hlent : ∀ n deletes, (e :: journal).count (.lent n deletes) =
      journal.count (.lent n deletes) := fun n deletes => List.count_cons_of_ne (hl n deletes)
  constructor
  case deleted =>
    intro n
    rw [hlent, List.count_cons_of_ne (hd n)]
    exact t.deleted n
  case once =>
    intro n
    rw [hlent, hlent]
    exact t.once n
  case fresh =>
    intro n deletes hn
    rw [hlent]
    exact t.fresh n deletes hn

theorem skip (t : TensorsKept journal stakes numbered) :
    TensorsKept journal stakes (numbered + 1) where
  deleted := t.deleted
  once := t.once
  fresh := fun n deletes hn => t.fresh n deletes (by omega)

theorem lend (t : TensorsKept journal stakes numbered) (deletes : Bool) :
    TensorsKept (.lent (numbered + 1) deletes :: journal)
      (stakes + (Keeper.runtime (numbered + 1) deletes).stakes) (numbered + 1) := by
  have hnew : ∀ d, journal.count (.lent (numbered + 1) d) = 0 :=
    fun d => t.fresh _ d (Nat.lt_succ_self numbered)
  have hother : ∀ n d, n ≠ numbered + 1 →
      (Event.lent (numbered + 1) deletes :: journal).count (.lent n d) =
        journal.count (.lent n d) := by
    intro n d hn
    exact List.count_cons_of_ne (by simp [Ne.symm hn])
  constructor
  case deleted =>
    intro n
    have hn := t.deleted n
    rw [List.count_cons_of_ne (by simp : Event.lent (numbered + 1) deletes ≠ .deleted n)]
    by_cases h : n = numbered + 1
    · subst h
      have := hnew true
      cases deletes <;> simp [Keeper.stakes] <;> omega
    · rw [hother n true h]
      cases deletes <;> simpa [Keeper.stakes, Resource.stake_apply, h] using hn
  case once =>
    intro n
    by_cases h : n = numbered + 1
    · subst h
      have := hnew true
      have := hnew false
      cases deletes <;> simp <;> omega
    · rw [hother n true h, hother n false h]
      exact t.once n
  case fresh =>
    intro n d hn
    rw [hother n d (by omega)]
    exact t.fresh n d (by omega)

theorem delete {n : Nat} (t : TensorsKept journal (stakes + (Resource.foreign n).stake) numbered) :
    TensorsKept (.deleted n :: journal) stakes numbered := by
  have hlent : ∀ k deletes, (Event.deleted n :: journal).count (.lent k deletes) =
      journal.count (.lent k deletes) := fun k deletes => List.count_cons_of_ne (by simp)
  constructor
  case deleted =>
    intro k
    have hk := t.deleted k
    rw [hlent]
    by_cases h : k = n
    · subst h
      simp at hk ⊢
      omega
    · rw [List.count_cons_of_ne (by simp [Ne.symm h])]
      simpa [Resource.stake_apply, h] using hk
  case once =>
    intro k
    rw [hlent, hlent]
    exact t.once k
  case fresh =>
    intro k deletes hk
    rw [hlent]
    exact t.fresh k deletes hk

end TensorsKept

/-! ## Storages -/

namespace Table.Counted

variable {t : Table Holding} {stakes : Stakes} {id : Nat} {x : Holding}

theorem holders_of_get? (c : t.Counted stakes) (found : t.get? id = some x) :
    x.holders = stakes (.storage id) := by
  simpa [found] using c.holders id

theorem exists_of_stake (c : t.Counted stakes) (h : stakes (.storage id) ≠ 0) :
    ∃ x, t.get? id = some x := by
  cases found : t.get? id with
  | none => exact absurd (by simpa [found] using (c.holders id).symm) h
  | some x => exact ⟨x, rfl⟩

/-- A storage that has holders still, after one of them came or went. -/
theorem setHolders {other : Stakes} (c : t.Counted stakes) (found : t.get? id = some x) {n : Nat}
    (hn : 0 < n) (hself : n = other (.storage id))
    (hothers : ∀ k, k ≠ id → other (.storage k) = stakes (.storage k)) :
    (t.set id { x with holders := n }).Counted other := by
  have hset := Table.get?_set_self (Table.lt_next_of_get? found) { x with holders := n }
  constructor
  case holders =>
    intro k
    by_cases h : id = k
    · subst h
      simpa [hset] using hself
    · rw [Table.get?_set_of_ne _ _ h, hothers k (Ne.symm h)]
      exact c.holders k
  case held =>
    intro k y hy
    by_cases h : id = k
    · subst h
      obtain rfl := Option.some.inj (hset.symm.trans hy)
      exact hn
    · rw [Table.get?_set_of_ne _ _ h] at hy
      exact c.held k y hy
  case older =>
    intro k y tensor buffer hy howner hkeeper
    by_cases h : id = k
    · subst h
      obtain rfl := Option.some.inj (hset.symm.trans hy)
      exact c.older id x tensor buffer found howner hkeeper
    · rw [Table.get?_set_of_ne _ _ h] at hy
      exact c.older k y tensor buffer hy howner hkeeper

theorem erase {other : Stakes} (c : t.Counted stakes) (hself : other (.storage id) = 0)
    (hothers : ∀ k, k ≠ id → other (.storage k) = stakes (.storage k)) :
    (t.erase id).Counted other := by
  have hne : ∀ k y, (t.erase id).get? k = some y → id ≠ k := by
    rintro k y hy rfl
    rw [Table.get?_erase_self] at hy
    cases hy
  constructor
  case holders =>
    intro k
    by_cases h : id = k
    · subst h
      simp [Table.get?_erase_self, hself]
    · rw [Table.get?_erase_of_ne _ h, hothers k (Ne.symm h)]
      exact c.holders k
  case held =>
    intro k y hy
    have h := hne k y hy
    rw [Table.get?_erase_of_ne _ h] at hy
    exact c.held k y hy
  case older =>
    intro k y tensor buffer hy
    have h := hne k y hy
    rw [Table.get?_erase_of_ne _ h] at hy
    exact c.older k y tensor buffer hy

/-- A storage that nobody has seen yet; what its owner holds is older. -/
theorem add {owner : Owner} (c : t.Counted (stakes + owner.stakes)) :
    (t.add ⟨owner, 1⟩).1.Counted (stakes + owner.stakes + (Resource.storage t.next).stake) := by
  have hnone := c.holders t.next
  rw [Table.get?_next, Option.elim_none] at hnone
  constructor
  case holders =>
    intro k
    by_cases h : k = t.next
    · subst h
      simp only [Table.get?_add_next, Option.elim_some, Pi.add_apply,
        Resource.stake_self] at hnone ⊢
      omega
    · rw [Table.get?_add_of_ne _ _ h, c.holders k]
      simp [Resource.stake_apply, h]
  case held =>
    intro k y hy
    by_cases h : k = t.next
    · subst h
      rw [Table.get?_add_next] at hy
      obtain rfl := Option.some.inj hy
      exact Nat.one_pos
    · rw [Table.get?_add_of_ne _ _ h] at hy
      exact c.held k y hy
  case older =>
    intro k y tensor buffer hy howner hkeeper
    by_cases h : k = t.next
    · subst h
      rw [Table.get?_add_next] at hy
      obtain rfl := Option.some.inj hy
      obtain rfl : owner = .imported tensor := howner
      obtain ⟨z, hz⟩ : ∃ z, t.get? buffer.storage.id = some z :=
        c.exists_of_stake (by simp [Owner.stakes, Keeper.stakes, hkeeper, Buffer.stakes])
      exact Table.lt_next_of_get? hz
    · rw [Table.get?_add_of_ne _ _ h] at hy
      exact c.older k y tensor buffer hy howner hkeeper

end Table.Counted

end TensorExchange
