import TensorExchange.Proofs.Ownership.Reachable
import TensorExchange.Proofs.Ownership.Session
import TensorExchange.Proofs.Soundness.Sound

/-!
Live buffers: those that a client holds, and those that are carried by something.

A capsule, a tensor on its way and the owner of a storage may carry a buffer.  Such a buffer
has no name and nobody can read it at the moment, but it is going to be handed out again, and
what is known of buffers should hold of it then.  `World.Live` covers all of them.

Main statements: a live buffer is sound (`World.Sound.live`), and its storage is in the heap
with an owner that backs it (`World.Balanced.owner_of_live`).

For the second, soundness is not enough.  It says that the memory behind a storage is as long
as the storage says, as long as the storage is there; that it is there follows from the books.
A live buffer has a stake in its storage wherever it is kept (`World.stake_of_live`), and in
balanced books nothing has a stake in a storage that is gone.  So this is where the two
invariants meet, and most theorems about sessions use the pair of them for one live buffer.
-/

namespace TensorExchange

/-- The buffer that a tensor carries, if it was exported here. -/
def Keeper.buffer? : Keeper → Option Buffer
  | exported b => some b
  | _ => none

def Contents.buffer? : Contents → Option Buffer
  | native b => b
  | foreign _ t => t.bind (·.keeper.buffer?)

/-- The buffer that a thing is or carries. -/
def Thing.buffer? : Thing → Option Buffer
  | buffer b => some b
  | capsule c => c.contents.buffer?
  | tensor t => t.keeper.buffer?
  | allocation _ => none

def Owner.buffer? : Owner → Option Buffer
  | imported t => t.keeper.buffer?
  | _ => none

/-- A buffer that a client holds, or that a capsule, a tensor or the owner of a storage carries. -/
def World.Live (w : World) (b : Buffer) : Prop :=
  (∃ x ∈ w.things, x.buffer? = some b) ∨
    ∃ id x, w.heap.holdings.get? id = some x ∧ x.owner.buffer? = some b

theorem Session.live_of_named {s : Session} {name : String} {b : Buffer}
    (named : s.buffers.get? name = some b) : s.world.Live b :=
  .inl ⟨.buffer b, mem_things_of_buffer named, rfl⟩

theorem Keeper.exported_of_buffer? {keeper : Keeper} {b : Buffer}
    (h : keeper.buffer? = some b) : keeper = .exported b := by
  cases keeper with
  | exported b' => exact congrArg exported (Option.some.inj h)
  | runtime _ _ => cases h
  | nobody => cases h

theorem ManagedTensor.Sound.buffer {h : Heap} {t : ManagedTensor} {b : Buffer} (k : t.Sound h)
    (hb : t.keeper.buffer? = some b) : b.Sound h :=
  (k b (Keeper.exported_of_buffer? hb)).2

theorem Thing.Sound.buffer {h : Heap} {x : Thing} {b : Buffer} (k : x.Sound h)
    (hb : x.buffer? = some b) : b.Sound h := by
  cases x with
  | buffer b' => exact Option.some.inj hb ▸ k
  | allocation a => cases hb
  | tensor t => exact ManagedTensor.Sound.buffer k hb
  | capsule c =>
    cases hcontents : c.contents with
    | native inner =>
      simp only [buffer?, hcontents, Contents.buffer?] at hb
      simp only [Thing.Sound, Capsule.Sound, hcontents, hb] at k
      exact k.2
    | foreign d inner =>
      simp only [buffer?, hcontents, Contents.buffer?] at hb
      obtain ⟨t, rfl, hb⟩ := Option.bind_eq_some_iff.mp hb
      simp only [Thing.Sound, Capsule.Sound, hcontents] at k
      exact k.2.buffer hb

theorem World.Sound.live {w : World} (k : w.Sound) {b : Buffer} (live : w.Live b) :
    b.Sound w.heap := by
  rcases live with ⟨x, hx, hb⟩ | ⟨id, x, found, hb⟩
  · exact (k.things x hx).buffer hb
  · have howner := k.owners id x found
    cases ho : x.owner with
    | imported t =>
      rw [ho] at howner hb
      exact ManagedTensor.Sound.buffer howner hb
    | backend a => rw [ho] at hb; cases hb
    | adopted block => rw [ho] at hb; cases hb
    | nobody => rw [ho] at hb; cases hb

/-! ## The storage of a live buffer -/

theorem Keeper.stakes_of_buffer? {keeper : Keeper} {b : Buffer} (h : keeper.buffer? = some b) :
    keeper.stakes = b.stakes := by
  rw [Keeper.exported_of_buffer? h]
  rfl

theorem Thing.stakes_of_buffer? {x : Thing} {b : Buffer} (h : x.buffer? = some b) :
    x.stakes = b.stakes := by
  cases x with
  | buffer b' => exact congrArg Buffer.stakes (Option.some.inj h)
  | allocation a => cases h
  | tensor t => exact Keeper.stakes_of_buffer? h
  | capsule c =>
    cases hcontents : c.contents with
    | native inner =>
      simp only [buffer?, hcontents, Contents.buffer?] at h
      simp only [stakes, hcontents, h, Contents.stakes]
    | foreign d inner =>
      simp only [buffer?, hcontents, Contents.buffer?] at h
      obtain ⟨t, rfl, hb⟩ := Option.bind_eq_some_iff.mp h
      simp only [stakes, hcontents, Contents.stakes]
      exact Keeper.stakes_of_buffer? hb

theorem Owner.stakes_of_buffer? {owner : Owner} {b : Buffer} (h : owner.buffer? = some b) :
    owner.stakes = b.stakes := by
  cases owner with
  | imported t => exact Keeper.stakes_of_buffer? h
  | backend a => cases h
  | adopted block => cases h
  | nobody => cases h

theorem World.stake_of_live {w : World} {buffer : Buffer} (live : w.Live buffer) :
    w.heap.stakes (World.held w.things) (.storage buffer.storage.id) ≠ 0 := by
  have hself := buffer.stakes_self
  rcases live with ⟨x, hx, hb⟩ | ⟨id, x, found, hb⟩
  · rw [← Thing.stakes_of_buffer? hb] at hself
    exact Stakes.add_ne_zero (World.held_ne_zero hx hself) _
  · rw [← Owner.stakes_of_buffer? hb] at hself
    exact Heap.stakes_of_owner found hself

/-- It is in the heap, and whoever owns it keeps what it says. -/
theorem World.Balanced.owner_of_live {w : World} (b : w.Balanced) (k : w.Sound) {buffer : Buffer}
    (live : w.Live buffer) :
    ∃ x, w.heap.holdings.get? buffer.storage.id = some x ∧
      x.owner.Backs w.heap buffer.storage := by
  obtain ⟨x, found⟩ := b.storages.exists_of_stake (World.stake_of_live live)
  exact ⟨x, found, (k.live live).backed.backs x found⟩

end TensorExchange
