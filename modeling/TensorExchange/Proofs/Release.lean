import TensorExchange.Proofs.Ownership.Session
import TensorExchange.Proofs.Soundness.Live
import TensorExchange.Proofs.Soundness.Moves

/-!
Release: memory and tensors are released exactly once, when nobody reaches them.

What a session holds reaches the storages of its buffers, of those that its capsules and
tensors carry, and whatever the owners of these storages hold in turn.  `Heap.Reaches` is this
relation, from what is held inwards.  It knows nothing of counters: what is reached is a fact
about who refers to what.

Main statement (`Session.released_run`), after any commands, and after the end of a session
that lets go of everything:

* a block is handed out at most once and taken back at most once, by the backend that handed
  it out, with the size, the alignment and the device it was handed out with;
* it was given back exactly if nothing reaches it any more, and then once; while it is reached
  it is there, as long as it was;
* the deleter of a tensor was called exactly if nothing reaches the tensor any more, and then
  once, and a tensor that has none is never deleted;
* the storage of a live buffer is reached, and its owner keeps the memory that it says.

So nothing is used after it was released, nothing is released twice, and nothing is lost.

The heap counts holders and does not look for what is reached.  That both are the same is
`reaches_iff`: the stakes of the heap are exactly what can be reached.  Counting alone would
allow storages that hold each other.  There are none, since the owner of a storage holds older
storages at most, and this is what the induction in `reaches_storage` is on.
-/

namespace TensorExchange

/-! ## Reaching -/

/-- What clients hold, what the owners of the storages hold that can be reached, and so on. -/
inductive Heap.Reaches (h : Heap) (things : Multiset Thing) : Resource → Prop
  | held {x : Thing} {r : Resource} (mem : x ∈ things) (stake : x.stakes r ≠ 0) :
    Reaches h things r
  | owned {id : Nat} {x : Holding} {r : Resource} (storage : Reaches h things (.storage id))
      (found : h.holdings.get? id = some x) (stake : x.owner.stakes r ≠ 0) : Reaches h things r

namespace Heap.Balanced

variable {h : Heap} {things : Multiset Thing} {n : Nat}

/-- Every storage is reached, since its holders are.  A holder is outside of the heap or belongs to
a younger storage. -/
theorem reaches_storage (b : h.Balanced (World.held things) n) : ∀ {gap id : Nat},
    h.holdings.next - id ≤ gap → h.stakes (World.held things) (.storage id) ≠ 0 →
      h.Reaches things (.storage id) := by
  intro gap
  induction gap with
  | zero =>
    intro id hgap hstake
    obtain ⟨x, found⟩ := b.storages.exists_of_stake hstake
    have := Table.lt_next_of_get? found
    omega
  | succ gap ih =>
    intro id hgap hstake
    by_cases hheld : World.held things (.storage id) = 0
    · have howned : h.holdings.owned (.storage id) ≠ 0 := by
        simpa [Heap.stakes, hheld] using hstake
      obtain ⟨id', x, found, hx⟩ := Table.exists_of_total_ne_zero howned
      obtain ⟨tensor, buffer, howner, hkeeper, rfl⟩ := Owner.exported_of_stakes hx
      have holder := b.storages.older id' x tensor buffer found howner hkeeper
      have hholders := b.storages.holders_of_get? found
      have hpos := b.storages.held id' x found
      exact .owned (ih (by omega) (by omega)) found hx
    · obtain ⟨x, hx, hstake⟩ := World.exists_of_held hheld
      exact .held hx hstake

/-- The stakes are what is reached. -/
theorem reaches_iff (b : h.Balanced (World.held things) n) {r : Resource} :
    h.Reaches things r ↔ h.stakes (World.held things) r ≠ 0 := by
  constructor
  · intro hr
    cases hr with
    | held mem stake => exact Stakes.add_ne_zero (World.held_ne_zero mem stake) _
    | owned _ found stake => exact Heap.stakes_of_owner found stake
  · intro hr
    by_cases hheld : World.held things r = 0
    · have howned : h.holdings.owned r ≠ 0 := by simpa [Heap.stakes, hheld] using hr
      obtain ⟨id, x, found, hx⟩ := Table.exists_of_total_ne_zero howned
      have hholders := b.storages.holders_of_get? found
      have hpos := b.storages.held id x found
      exact .owned (b.reaches_storage (Nat.le_refl _) (by omega)) found hx
    · obtain ⟨x, hx, hstake⟩ := World.exists_of_held hheld
      exact .held hx hstake

end Heap.Balanced

/-! ## Releasing -/

/-- Whether an event takes back a block. -/
def Event.frees (block : Nat) : Event → Bool
  | freed a => a.block == block
  | _ => false

/-- What was released, and that nothing is released as long as it is reached. -/
structure World.Released (w : World) : Prop where
  /-- A block is handed out at most once. -/
  allocatedOnce : ∀ block, w.heap.journal.countP (Event.allocates block) ≤ 1
  /-- It is taken back at most once. -/
  freedOnce : ∀ block, w.heap.journal.countP (Event.frees block) ≤ 1
  /-- It is taken back by the backend that handed it out, with the size, the alignment and the
  device with which it was handed out. -/
  freedAsAllocated : ∀ a, .freed a ∈ w.heap.journal → .allocated a ∈ w.heap.journal
  notFreed : ∀ a, w.heap.Reaches w.things (.allocation a) → .freed a ∉ w.heap.journal
  freed : ∀ a, .allocated a ∈ w.heap.journal → ¬ w.heap.Reaches w.things (.allocation a) →
    w.heap.journal.count (.freed a) = 1
  /-- Memory that is reached is still there. -/
  stored : ∀ a, w.heap.Reaches w.things (.allocation a) →
    ∃ bytes, w.heap.blocks.get? a.block = some bytes ∧ bytes.size = a.size
  /-- A deleter is called at most once, and only if there is one. -/
  deletedOnce : ∀ n, w.heap.deletions n ≤ 1
  deleter : ∀ n, .lent n true ∉ w.heap.journal → w.heap.deletions n = 0
  notDeleted : ∀ n, w.heap.Reaches w.things (.foreign n) → w.heap.deletions n = 0
  deleted : ∀ n, .lent n true ∈ w.heap.journal → ¬ w.heap.Reaches w.things (.foreign n) →
    w.heap.deletions n = 1
  /-- The storage of a live buffer is reached and in the heap, and its owner keeps the memory that
  the storage says. -/
  live : ∀ b, w.Live b → w.heap.Reaches w.things (.storage b.storage.id) ∧
    ∃ x, w.heap.holdings.get? b.storage.id = some x ∧ x.owner.Backs w.heap b.storage

namespace MemoryKept

variable {blocks : Table (Array UInt8)} {journal : List Event} {stakes : Stakes}

theorem count_allocated_le_one (m : MemoryKept blocks journal stakes) (a : Allocation) :
    journal.count (.allocated a) ≤ 1 := by
  have := count_le_countP journal a
  have := m.once a.block
  omega

theorem allocated_of_freed (m : MemoryKept blocks journal stakes) {a : Allocation}
    (h : .freed a ∈ journal) : 0 < journal.count (.allocated a) := by
  have := m.returned a
  have := List.count_pos_iff.mpr h
  omega

/-- Only one allocation of a block can be taken back. -/
theorem freedOnce (m : MemoryKept blocks journal stakes) (block : Nat) :
    journal.countP (Event.frees block) ≤ 1 := by
  by_cases hany : journal.countP (Event.frees block) = 0
  · omega
  · obtain ⟨e, he, hfrees⟩ := List.countP_pos_iff.mp (Nat.pos_of_ne_zero hany)
    cases e with
    | freed a =>
      have hsame : ∀ e ∈ journal, Event.frees block e = true ↔ (e == .freed a) = true := by
        intro e he'
        rw [beq_iff_eq]
        constructor
        · intro hfrees'
          cases e with
          | freed a' =>
            have hblock : a'.block = a.block :=
              (beq_iff_eq.mp hfrees').trans (beq_iff_eq.mp hfrees).symm
            rw [m.eq_of_block (m.allocated_of_freed he') (m.allocated_of_freed he) hblock]
          | allocated a' => cases hfrees'
          | lent n deletes => cases hfrees'
          | deleted n => cases hfrees'
        · rintro rfl
          exact hfrees
      rw [List.countP_congr hsame]
      have := m.returned a
      have := m.count_allocated_le_one a
      have hcount : journal.countP (· == .freed a) = journal.count (.freed a) := rfl
      omega
    | allocated a => cases hfrees
    | lent n deletes => cases hfrees
    | deleted n => cases hfrees

end MemoryKept

theorem World.Balanced.released {w : World} (b : w.Balanced) (k : w.Sound) : w.Released where
  allocatedOnce := fun block => Nat.le_of_add_right_le (b.memory.once block)
  freedOnce := b.memory.freedOnce
  freedAsAllocated := fun a ha => List.count_pos_iff.mp (b.memory.allocated_of_freed ha)
  notFreed := by
    intro a ha hfreed
    have := b.reaches_iff.mp ha
    have := b.memory.returned a
    have := b.memory.count_allocated_le_one a
    have := List.count_pos_iff.mpr hfreed
    omega
  freed := by
    intro a ha hgone
    have hstakes := Decidable.not_not.mp (mt b.reaches_iff.mpr hgone)
    have := b.memory.returned a
    have := b.memory.count_allocated_le_one a
    have := List.count_pos_iff.mpr ha
    omega
  stored := fun a ha => b.memory.stored a (b.reaches_iff.mp ha)
  deletedOnce := by
    intro n
    have := b.tensors.deleted n
    have := b.tensors.once n
    unfold Heap.deletions
    omega
  deleter := by
    intro n hn
    have := b.tensors.deleted n
    have := List.count_eq_zero.mpr hn
    unfold Heap.deletions
    omega
  notDeleted := by
    intro n hn
    have := b.reaches_iff.mp hn
    have := b.tensors.deleted n
    have := b.tensors.once n
    unfold Heap.deletions
    omega
  deleted := by
    intro n hn hgone
    have hstakes := Decidable.not_not.mp (mt b.reaches_iff.mpr hgone)
    have := b.tensors.deleted n
    have := b.tensors.once n
    have := List.count_pos_iff.mpr hn
    unfold Heap.deletions
    omega
  live := by
    intro buffer live
    exact ⟨b.reaches_iff.mpr (stake_of_live live), b.owner_of_live k live⟩

/-- Whatever the commands of a session are, and also at its end: memory and tensors are released
exactly once, when nothing that the session holds reaches them any more. -/
theorem Session.released_run (m : Machine) (env : Config.Environment) (cs : List Command) :
    ((start m env).run cs).1.world.Released ∧ ((start m env).run cs).1.close.world.Released := by
  have hrun := moves_of_run (start m env) cs
  have hclose : Moves (start m env).world ((start m env).run cs).1.close.world :=
    hrun.trans (moves_of_close _)
  exact ⟨(hrun.balanced (Heap.balanced_empty m)).released (hrun.sound (World.sound_empty m 0)),
    (hclose.balanced (Heap.balanced_empty m)).released (hclose.sound (World.sound_empty m 0))⟩

namespace Session

/-- Memory is handed out and shared by a view; what was wrapped goes out as a tensor, comes back,
and is let go. -/
def sharing : List Command :=
  [.memory (.allocate none "whole" .uint8 [6] .host),
    .buffers (.view "whole" "part" [2] [1] 3),
    .capsules (.wrap "whole" "capsule" .default),
    .capsules (.intoTensor "capsule" "tensor"),
    .tensors (.adopt "tensor" "again"),
    .capsules (.drop "again")]

/-- What the view shares, and gives back when it goes. -/
def sharedMemory : Allocation := ⟨⟨.host, 0⟩, 0, 6, 64, .host⟩

example :
    (after sharing).heap.journal = [.allocated sharedMemory] ∧
      (after (sharing ++ [.buffers (.drop "part")])).heap.journal =
        [.freed sharedMemory, .allocated sharedMemory] := by
  decide +kernel

end Session

end TensorExchange
