import TensorExchange.Proofs.Release
import TensorExchange.Proofs.RoundTrip
import TensorExchange.Proofs.Soundness.Rooted

/-!
Alone: memory that a client reaches through one thing only.

A storage with one holder is reached through that holder alone, and what its owner holds is
reached through the storage alone if nobody else has a stake in it.  The memory of a storage
that was imported belongs to the storage that was exported, so whether a client is alone
with it depends on every storage on the way.

Main statement (`World.Lawful.alone`): where each storage on the way has one holder, nothing
else that is held lies in the block where the memory is.  The way is `Behind`: from a storage
to the one whose export it was made of.  `Undisturbed` says that all storages behind the first
one have one holder; of the first one, the library asks it itself.

The way must end in memory of this library (`Domestic`); of what other runtimes do with
theirs nothing can be known.  If no tensor of another runtime ever came in (`Homemade`),
every storage is domestic (`World.Lawful.domestic`).

That two things lie in the same block says little by itself, since blocks are reached through
storages.  The link is `reaches_block`: whatever lies in a block reaches the resource that
owns the block.  So two things in one block are two stakes in its owner, or both reach one
storage on the way, and balanced books rule that out.  `World.Lawful` collects the three
invariants that this needs: the books, the bounds and the roots.
-/

namespace TensorExchange

namespace Heap

variable {h : Heap} {x : Thing} {things : Multiset Thing} {r : Resource}

theorem Reaches.mono {more : Multiset Thing} (sub : things ⊆ more) (reaches : h.Reaches things r) :
    h.Reaches more r := by
  induction reaches with
  | held mem stake => exact .held (sub mem) stake
  | owned _ found stake ih => exact .owned ih found stake

/-- What one thing has the only stake in is not reached through the others. -/
theorem not_reaches_of_held (once : h.stakes (World.held (x ::ₘ things)) r ≤ 1)
    (stake : x.stakes r ≠ 0) : ¬ h.Reaches things r := by
  rw [stakes, World.held_cons] at once
  simp only [Pi.add_apply] at once
  intro reaches
  cases reaches with
  | held mem other =>
    have := World.held_ne_zero mem other
    omega
  | @owned id y _ _ found other =>
    have := Table.le_total found fun y => y.owner.stakes r
    rw [Table.owned_apply] at once
    omega

/-- What the owner of a storage has the only stake in is not reached where the storage is not. -/
theorem not_reaches_of_owned {id : Nat} {y : Holding}
    (once : h.stakes (World.held (x ::ₘ things)) r ≤ 1) (found : h.holdings.get? id = some y)
    (stake : y.owner.stakes r ≠ 0) (alone : ¬ h.Reaches things (.storage id)) :
    ¬ h.Reaches things r := by
  rw [stakes, World.held_cons] at once
  simp only [Pi.add_apply, Table.owned_apply] at once
  intro reaches
  cases reaches with
  | held mem other =>
    have := World.held_ne_zero mem other
    have := Table.le_total found fun y => y.owner.stakes r
    omega
  | @owned id' y' _ reaches' found' other =>
    have hne : id ≠ id' := fun heq => alone (heq ▸ reaches')
    have := Table.add_le_total found found' hne fun y => y.owner.stakes r
    omega

theorem stakes_of_isSole {held : Stakes} {n : Nat} (b : h.Balanced held n) {s : Storage}
    (sole : h.isSole s = true) : h.stakes held (.storage s.id) = 1 := by
  rw [← b.storages.holders]
  unfold isSole at sole
  split at sole
  next y found =>
    rw [found]
    exact beq_iff_eq.mp sole
  next => cases sole

end Heap

/-! ## Where things lie -/

/-- The block that is released with a resource. -/
def Resource.block? : Resource → Option Nat
  | allocation a => some a.block
  | adopted block => some block
  | storage _ | foreign _ => none

/-- The block in which the memory lies that a capsule carries. -/
def Contents.block? : Contents → Option Nat
  | native b => b.bind fun b => b.storage.base.block?
  | foreign d t => t.bind fun _ => d.base.block?

/-- The block in which the memory of a thing lies. -/
def Thing.block? : Thing → Option Nat
  | buffer b => b.storage.base.block?
  | capsule c => c.contents.block?
  | tensor t => t.record.data.block?
  | allocation a => some a.block

theorem Owner.stake_of_block {owner : Owner} {block : Nat} (h : owner.block? = some block) :
    ∃ r : Resource, r.block? = some block ∧ owner.stakes r ≠ 0 := by
  cases owner with
  | backend a => exact ⟨.allocation a, h, by simp [stakes]⟩
  | adopted other => exact ⟨.adopted other, h, by simp [stakes]⟩
  | imported t => cases h
  | nobody => cases h

theorem Owner.Backs.block? {h : Heap} {s : Storage} {owner : Owner} (k : owner.Backs h s)
    (notImported : ∀ t, owner ≠ .imported t) (owned : owner = .nobody → s.base.block? = none)
    {block : Nat} (hblock : s.base.block? = some block) : owner.block? = some block := by
  cases owner with
  | backend a => rwa [k.1] at hblock
  | adopted other => rwa [k.1] at hblock
  | imported t => exact absurd rfl (notImported t)
  | nobody =>
    rw [owned rfl] at hblock
    cases hblock

theorem Described.Describes.block? {t : ManagedTensor} {d : Described} (hd : d.Describes t)
    {block : Nat} (hblock : d.base.block? = some block) : t.record.data.block? = some block := by
  by_cases hcount : d.layout.count = 0
  · rw [(hd.empty hcount).2.1] at hblock
    cases hblock
  · rwa [(hd.covers hcount).base, Pointer.block?_shift, Pointer.block?_shift] at hblock

/-- A tensor lies where the buffer does that it carries, or in memory that was lent. -/
theorem ManagedTensor.lent_or_carried {h : Heap} {t : ManagedTensor} (sound : t.Sound h)
    (rooted : t.Rooted h) {block : Nat} (hblock : t.record.data.block? = some block) :
    h.Lent block ∨ ∃ b, t.keeper = .exported b ∧ b.storage.base.block? = some block := by
  cases hkeeper : t.keeper with
  | exported b =>
    rw [(sound b hkeeper).1] at hblock
    exact .inr ⟨b, rfl, hblock⟩
  | runtime n deletes => exact .inl (rooted.lent (by rw [hkeeper]; rfl) block hblock)
  | nobody => exact .inl (rooted.lent (by rw [hkeeper]; rfl) block hblock)

/-- A world that keeps its books, its bounds and its roots. -/
structure World.Lawful (w : World) : Prop where
  balanced : w.Balanced
  sound : w.Sound
  rooted : w.Rooted

namespace World.Lawful

variable {w : World}

/-- The storage of a buffer that an owner carries is in the heap, and was so before the owner. -/
theorem carried (k : w.Lawful) {id : Nat} {y : Holding} {t : ManagedTensor} {b : Buffer}
    (found : w.heap.holdings.get? id = some y) (howner : y.owner = .imported t)
    (hkeeper : t.keeper = .exported b) :
    y.owner.stakes (.storage b.storage.id) ≠ 0 ∧ b.storage.id < id ∧ b.Sound w.heap ∧
      b.Rooted w.heap ∧ ∃ z, w.heap.holdings.get? b.storage.id = some z := by
  have sound := k.sound.owners id y found
  have rooted := k.rooted.owners id y found
  rw [howner] at sound rooted
  have stake : y.owner.stakes (.storage b.storage.id) ≠ 0 := by
    simp only [howner, Owner.stakes, hkeeper, Keeper.stakes]
    exact b.stakes_self
  exact ⟨stake, k.balanced.storages.older id y t b found howner hkeeper, (sound b hkeeper).2,
    rooted.carried b hkeeper,
    k.balanced.storages.exists_of_stake (Heap.stakes_of_owner found stake)⟩

/-- Whoever reaches a storage reaches the block in which its memory lies, unless that was lent. -/
theorem reaches_block (k : w.Lawful) {things : Multiset Thing} {block : Nat} (id : Nat) :
    ∀ {y : Holding} {s : Storage}, w.heap.holdings.get? id = some y → y.owner.Backs w.heap s →
      (y.owner = .nobody → s.base.block? = none) → s.base.block? = some block →
        w.heap.Reaches things (.storage id) →
          w.heap.Lent block ∨ ∃ r, r.block? = some block ∧ w.heap.Reaches things r := by
  induction id using Nat.strong_induction_on with
  | _ id ih =>
    intro y s found backs owned hblock reaches
    by_cases imported : ∃ t, y.owner = .imported t
    · obtain ⟨t, howner⟩ := imported
      have sound := k.sound.owners id y found
      have rooted := k.rooted.owners id y found
      rw [howner] at backs sound rooted
      obtain ⟨d, hd, hbase, _, _⟩ := backs
      rw [hbase] at hblock
      rcases ManagedTensor.lent_or_carried sound rooted (hd.block? hblock) with
        lent | ⟨b, hkeeper, hbuffer⟩
      · exact .inl lent
      · obtain ⟨stake, older, bsound, brooted, z, hz⟩ := k.carried found howner hkeeper
        exact ih _ older hz (bsound.backed.backs z hz) (brooted.owned z hz) hbuffer
          (.owned reaches found stake)
    · have howner := backs.block? (fun t h => imported ⟨t, h⟩) owned hblock
      obtain ⟨r, hr, stake⟩ := Owner.stake_of_block howner
      exact .inr ⟨r, hr, .owned reaches found stake⟩

theorem reaches_block_of_buffer (k : w.Lawful) {x : Thing} (mem : x ∈ w.things) {b : Buffer}
    (hb : x.buffer? = some b) {block : Nat} (hblock : b.storage.base.block? = some block) :
    w.heap.Lent block ∨ ∃ r, r.block? = some block ∧ w.heap.Reaches {x} r := by
  have live : w.Live b := .inl ⟨x, mem, hb⟩
  obtain ⟨y, found, backs⟩ := k.balanced.owner_of_live k.sound live
  refine k.reaches_block b.storage.id found backs ((k.rooted.live live).owned y found) hblock ?_
  refine .held (Multiset.mem_singleton_self x) ?_
  rw [Thing.stakes_of_buffer? hb]
  exact b.stakes_self

theorem reaches_block_of_thing (k : w.Lawful) {x : Thing} (mem : x ∈ w.things) {block : Nat}
    (hblock : x.block? = some block) :
    w.heap.Lent block ∨ ∃ r, r.block? = some block ∧ w.heap.Reaches {x} r := by
  cases x with
  | buffer b => exact k.reaches_block_of_buffer mem rfl hblock
  | allocation a =>
    refine .inr ⟨.allocation a, hblock, .held (Multiset.mem_singleton_self _) ?_⟩
    simp [Thing.stakes]
  | tensor t =>
    have sound : t.Sound w.heap := k.sound.things _ mem
    rcases ManagedTensor.lent_or_carried sound (k.rooted.things _ mem) hblock with
      lent | ⟨b, hkeeper, hbuffer⟩
    · exact .inl lent
    · exact k.reaches_block_of_buffer mem (by rw [Thing.buffer?, hkeeper]; rfl) hbuffer
  | capsule c =>
    have sound : Capsule.Sound w.heap c := k.sound.things _ mem
    have rooted : c.contents.Rooted w.heap := k.rooted.things _ mem
    have hblock : c.contents.block? = some block := hblock
    cases hcontents : c.contents with
    | native inner =>
      rw [hcontents] at hblock
      obtain ⟨b, rfl, hblock⟩ := Option.bind_eq_some_iff.mp hblock
      exact k.reaches_block_of_buffer mem (by rw [Thing.buffer?, hcontents]; rfl) hblock
    | foreign d inner =>
      rw [hcontents] at hblock rooted
      obtain ⟨t, rfl, hblock⟩ := Option.bind_eq_some_iff.mp hblock
      simp only [Capsule.Sound, hcontents] at sound
      have hd := Capsule.describes_of_ofTensor sound.1 hcontents
      rcases ManagedTensor.lent_or_carried sound.2 rooted (hd.block? hblock) with
        lent | ⟨b, hkeeper, hbuffer⟩
      · exact .inl lent
      · refine k.reaches_block_of_buffer mem ?_ hbuffer
        rw [Thing.buffer?, hcontents]
        exact congrArg Keeper.buffer? hkeeper

end World.Lawful

/-! ## Being alone -/

/-- What is released with a block is one thing. -/
theorem MemoryKept.eq_of_block? {blocks : Table (Array UInt8)} {journal : List Event}
    {stakes : Stakes} (m : MemoryKept blocks journal stakes) {r r' : Resource} {block : Nat}
    (stake : stakes r ≠ 0) (stake' : stakes r' ≠ 0) (hr : r.block? = some block)
    (hr' : r'.block? = some block) : r = r' := by
  cases r with
  | storage id => cases hr
  | foreign n => cases hr
  | allocation a =>
    obtain rfl : a.block = block := Option.some.inj hr
    have hold := m.allocated_of_stake stake
    cases r' with
    | storage id => cases hr'
    | foreign n => cases hr'
    | allocation a' =>
      have hblock : a'.block = a.block := Option.some.inj hr'
      rw [m.eq_of_block hold (m.allocated_of_stake stake') hblock.symm]
    | adopted other =>
      obtain rfl : other = a.block := Option.some.inj hr'
      exact absurd (m.adopted_eq_zero hold) stake'
  | adopted other =>
    obtain rfl : other = block := Option.some.inj hr
    cases r' with
    | storage id => cases hr'
    | foreign n => cases hr'
    | allocation a =>
      obtain rfl : a.block = other := Option.some.inj hr'
      exact absurd (m.adopted_eq_zero (m.allocated_of_stake stake')) stake
    | adopted other' => rw [Option.some.inj hr']

theorem MemoryKept.stakes_le_one {blocks : Table (Array UInt8)} {journal : List Event}
    {stakes : Stakes} (m : MemoryKept blocks journal stakes) {r : Resource} {block : Nat}
    (hr : r.block? = some block) : stakes r ≤ 1 := by
  cases r with
  | storage id => cases hr
  | foreign n => cases hr
  | allocation a => exact m.stake_le_one a
  | adopted other =>
    have := m.once other
    omega

theorem MemoryKept.block_lt {blocks : Table (Array UInt8)} {journal : List Event}
    {stakes : Stakes} (m : MemoryKept blocks journal stakes) {r : Resource} {block : Nat}
    (stake : stakes r ≠ 0) (hr : r.block? = some block) : block < blocks.next := by
  cases r with
  | storage id => cases hr
  | foreign n => cases hr
  | allocation a =>
    obtain rfl : a.block = block := Option.some.inj hr
    obtain ⟨bytes, found, _⟩ := m.stored a stake
    exact Table.lt_next_of_get? found
  | adopted other =>
    obtain rfl : other = block := Option.some.inj hr
    obtain ⟨bytes, found⟩ := Option.isSome_iff_exists.mp (m.adopted other stake)
    exact Table.lt_next_of_get? found

/-! ## The way to the memory -/

namespace Heap

/-- A storage that was exported, behind the one that its import made. -/
def Behind (h : Heap) (s s' : Storage) : Prop :=
  ∃ x t b, h.holdings.get? s.id = some x ∧ x.owner = .imported t ∧ t.keeper = .exported b ∧
    b.storage = s'

/-- A storage whose memory belongs to this library, however often it was exported and imported.
Ranks are those that the exchange format can state. -/
inductive Domestic (h : Heap) : Storage → Prop
  | own {s} (native : h.Native s) : Domestic h s
  | exported {s x t b} (found : h.holdings.get? s.id = some x) (owner : x.owner = .imported t)
    (keeper : t.keeper = .exported b) (rank : b.layout.rank < 2 ^ 32)
    (behind : Domestic h b.storage) : Domestic h s

/-- Every storage behind this one has one holder, which is the import of it. -/
def Undisturbed (h : Heap) (s : Storage) : Prop :=
  ∀ s', Relation.TransGen h.Behind s s' → h.isSole s' = true

theorem Undisturbed.behind {h : Heap} {s s' : Storage} (undisturbed : h.Undisturbed s)
    (behind : h.Behind s s') : h.isSole s' = true ∧ h.Undisturbed s' :=
  ⟨undisturbed s' (.single behind), fun s'' later => undisturbed s'' (.head behind later)⟩

theorem Undisturbed.own {h : Heap} {s : Storage} (native : h.Native s) : h.Undisturbed s := by
  obtain ⟨x, found, notImported⟩ := native
  intro s' later
  obtain ⟨_, ⟨y, t, _, found', howner, _⟩, _⟩ := Relation.TransGen.head'_iff.mp later
  obtain rfl := Option.some.inj (found.symm.trans found')
  exact absurd howner (notImported t)

/-- Behind an import is what was exported, and what is behind that. -/
theorem Undisturbed.exported {h : Heap} {s : Storage} {x : Holding} {t : ManagedTensor} {b : Buffer}
    (found : h.holdings.get? s.id = some x) (howner : x.owner = .imported t)
    (hkeeper : t.keeper = .exported b) (sole : h.isSole b.storage = true)
    (behind : h.Undisturbed b.storage) : h.Undisturbed s := by
  intro s' later
  obtain ⟨_, ⟨y, t', b', found', howner', hkeeper', rfl⟩, rest⟩ :=
    Relation.TransGen.head'_iff.mp later
  obtain rfl := Option.some.inj (found.symm.trans found')
  obtain rfl := Owner.imported.inj (howner.symm.trans howner')
  obtain rfl := Keeper.exported.inj (hkeeper.symm.trans hkeeper')
  rcases Relation.reflTransGen_iff_eq_or_transGen.mp rest with rfl | later
  · exact sole
  · exact behind s' later

/-- No tensor of another runtime ever came in, and no owner carries a buffer with more axes than the
exchange format can state. -/
structure Homemade (h : Heap) : Prop where
  unlent : ∀ n deletes, .lent n deletes ∉ h.journal
  ranks : ∀ id x b, h.holdings.get? id = some x → x.owner.buffer? = some b →
    b.layout.rank < 2 ^ 32

end Heap

/-- Where no tensor of another runtime came in, all tensors were exported here. -/
theorem ManagedTensor.Rooted.exported {h : Heap} (homemade : h.Homemade) {t : ManagedTensor}
    (k : t.Rooted h) : ∃ b, t.keeper = .exported b := by
  have known := k.known
  cases hkeeper : t.keeper with
  | exported b => exact ⟨b, rfl⟩
  | runtime n deletes =>
    rw [hkeeper] at known
    exact absurd known (homemade.unlent n deletes)
  | nobody =>
    rw [hkeeper] at known
    cases known

namespace World.Lawful

variable {w : World}

/-- Then all memory belongs to this library. -/
theorem domestic (k : w.Lawful) (homemade : w.heap.Homemade) {s : Storage} {x : Holding}
    (found : w.heap.holdings.get? s.id = some x) : w.heap.Domestic s := by
  -- an owner carries a buffer over an older storage
  induction hid : s.id using Nat.strong_induction_on generalizing s x with
  | _ id ih =>
    subst hid
    cases howner : x.owner with
    | imported t =>
      have rooted := k.rooted.owners s.id x found
      rw [howner] at rooted
      obtain ⟨b, hkeeper⟩ := ManagedTensor.Rooted.exported homemade rooted
      obtain ⟨_, older, _, _, y, hy⟩ := k.carried found howner hkeeper
      have hbuffer : x.owner.buffer? = some b := by
        rw [howner, Owner.buffer?, hkeeper]
        rfl
      exact .exported found howner hkeeper (homemade.ranks s.id x b found hbuffer)
        (ih _ older hy rfl)
    | backend a => exact .own ⟨x, found, fun t h => by rw [howner] at h; cases h⟩
    | adopted block => exact .own ⟨x, found, fun t h => by rw [howner] at h; cases h⟩
    | nobody => exact .own ⟨x, found, fun t h => by rw [howner] at h; cases h⟩

variable {h : Heap} {x : Thing} {rest : Multiset Thing} {n : Nat} {s : Storage} {block : Nat}

/-- Whoever does not reach a storage with nobody else on the way does not reach the storage either
that has the block. -/
theorem exists_owner (k : Lawful ⟨h, x ::ₘ rest, n⟩) (domestic : h.Domestic s)
    (undisturbed : h.Undisturbed s) (backs : h.Backs s) (hblock : s.base.block? = some block)
    (owned : ∀ y, h.holdings.get? s.id = some y → y.owner = .nobody → s.base.block? = none)
    (alone : ¬ h.Reaches rest (.storage s.id)) :
    ∃ id y, h.holdings.get? id = some y ∧ y.owner.block? = some block ∧
      ¬ h.Reaches rest (.storage id) := by
  induction domestic with
  | @own s native =>
    obtain ⟨y, found, notImported⟩ := native
    have howner := (backs.backs y found).block? notImported (owned y found) hblock
    exact ⟨s.id, y, found, howner, alone⟩
  | @exported s y t b found howner hkeeper _ _ ih =>
    obtain ⟨stake, _, bsound, brooted, _⟩ := k.carried found howner hkeeper
    obtain ⟨sole, undisturbed⟩ := undisturbed.behind ⟨y, t, b, found, howner, hkeeper, rfl⟩
    have tsound := k.sound.owners s.id y found
    have hbacks := backs.backs y found
    rw [howner] at tsound hbacks
    obtain ⟨d, hd, hbase, _, _⟩ := hbacks
    rw [hbase] at hblock
    have hbuffer := hd.block? hblock
    rw [(tsound b hkeeper).1] at hbuffer
    have once := Heap.stakes_of_isSole k.balanced sole
    exact ih undisturbed bsound.backed hbuffer brooted.owned
      (Heap.not_reaches_of_owned once.le found stake alone)

/-- The resource with the block of an owner is reached through the storage of that owner alone. -/
theorem not_reaches_of_block (k : Lawful ⟨h, x ::ₘ rest, n⟩) {id : Nat} {y : Holding}
    (found : h.holdings.get? id = some y) (howner : y.owner.block? = some block)
    (alone : ¬ h.Reaches rest (.storage id)) {r : Resource} (hr : r.block? = some block) :
    ¬ h.Reaches rest r := by
  intro reaches
  obtain ⟨r', hr', stake⟩ := Owner.stake_of_block howner
  have hstake := k.balanced.reaches_iff.mp (reaches.mono (Multiset.subset_cons rest x))
  obtain rfl := k.balanced.memory.eq_of_block? (Heap.stakes_of_owner found stake) hstake hr' hr
  exact Heap.not_reaches_of_owned (k.balanced.memory.stakes_le_one hr) found stake alone reaches

/-- A storage with one holder is not reached through other things. -/
theorem not_reaches_storage (k : Lawful ⟨h, x ::ₘ rest, n⟩) {b : Buffer}
    (hb : x.buffer? = some b) (sole : h.isSole b.storage = true) :
    ¬ h.Reaches rest (.storage b.storage.id) := by
  have once := Heap.stakes_of_isSole k.balanced sole
  refine Heap.not_reaches_of_held once.le ?_
  rw [Thing.stakes_of_buffer? hb]
  exact b.stakes_self

/-- Where nobody else has a storage on the way, nothing else lies in the block. -/
theorem alone (k : Lawful ⟨h, x ::ₘ rest, n⟩) {b : Buffer} (hb : x.buffer? = some b)
    (sole : h.isSole b.storage = true) (domestic : h.Domestic b.storage)
    (undisturbed : h.Undisturbed b.storage) (hblock : b.storage.base.block? = some block) :
    ∀ z ∈ rest, z.block? ≠ some block := by
  intro z hz hlies
  have live : World.Live ⟨h, x ::ₘ rest, n⟩ b := .inl ⟨x, Multiset.mem_cons_self x rest, hb⟩
  obtain ⟨id, y, found, howner, alone⟩ :=
    k.exists_owner domestic undisturbed (k.sound.live live).backed hblock
      (k.rooted.live live).owned (k.not_reaches_storage hb sole)
  rcases k.reaches_block_of_thing (Multiset.mem_cons_of_mem hz) hlies with lent | ⟨r, hr, reaches⟩
  · exact lent.owners id y found howner
  · exact k.not_reaches_of_block found howner alone hr
      (reaches.mono (Multiset.singleton_subset.mpr hz))

end World.Lawful

end TensorExchange
