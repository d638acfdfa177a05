import TensorExchange.Proofs.Ownership.World

/-!
Balance in every world that can be reached.

Each move takes as many stakes from what clients hold as it lets go of resources, and adds
as many as it makes; so the books of the heap, which agree with the stakes in the empty
world, agree with them after any chain of moves (`Moves.balanced`).

`World.Balanced` is the balance of `Proofs/Ownership/Balance` with the stakes of what is held
in the place of `held`.  The operations that make a thing out of several pieces, such as
allocating a buffer or adopting a tensor, are put together here first, and then there is one
case for each constructor of `Move`.  A case says which thing is taken out of the bag and
which is put in, and cites the lemma of the operation.

A session, a script and a registry that many clients share are chains of moves
(`Proofs/Ownership/Session`, `Proofs/Interop/Steps`, `Proofs/Shared`), so all three have
balanced books by this one induction.
-/

namespace TensorExchange

namespace Heap.Balanced

variable {h : Heap} {held : Stakes} {numbered : Nat}

theorem addEmptyStorage (b : h.Balanced held numbered) (alignment : Nat) (device : Device) :
    (h.addEmptyStorage alignment device).1.Balanced
      (held + (Resource.storage h.holdings.next).stake) numbered :=
  addStorage .nobody (by simpa [Owner.stakes] using b) .dangling 0 (some alignment) device false

theorem ofBytes (b : h.Balanced held numbered) (type : ElementType) (bytes : Array UInt8) :
    (Buffer.ofBytes h type bytes).1.Balanced
      (held + (Buffer.ofBytes h type bytes).2.stakes) numbered := by
  unfold Buffer.ofBytes
  split
  · exact b.addEmptyStorage type.size .host
  · exact addStorage (.adopted h.blocks.next) (b.adoptBlock bytes) (.within h.blocks.next 0)
      bytes.size (some type.size) .host false

theorem allocateBuffer (b : h.Balanced held numbered) {a : Allocator} {type : ElementType}
    {shape : List UInt64} {device : Device} {h' : Heap} {buffer : Buffer}
    (ok : a.allocate h type shape device = .ok (h', buffer)) :
    h'.Balanced (held + buffer.stakes) numbered := by
  obtain ⟨layout, n, _, ⟨_, s, hadd, rfl⟩ | ⟨h₁, allocation, s, _, halloc, hadd, rfl⟩⟩ :=
    Allocator.allocate_eq_ok ok
  · obtain ⟨rfl, rfl⟩ := Prod.mk.inj hadd
    exact b.addEmptyStorage (a.alignmentFor type) device
  · obtain ⟨rfl, rfl⟩ := Prod.mk.inj hadd
    exact addStorage (.backend allocation) (b.allocate halloc) (.within allocation.block 0) n
      (some (a.alignmentFor type)) device false

theorem adopt {t : ManagedTensor} (b : h.Balanced (held + t.keeper.stakes) numbered)
    (d : Described) : (h.adopt t d).1.Balanced (held + (h.adopt t d).2.stakes) numbered :=
  addStorage (.imported t) b d.base d.size d.alignment d.device d.readOnly

theorem dropCapsule {c : Capsule} (b : h.Balanced (held + c.contents.stakes) numbered) :
    (h.dropCapsule c).Balanced held numbered := by
  unfold Heap.dropCapsule
  split
  next t htensor =>
    rw [← Capsule.stakes_tensor? htensor] at b
    exact b.deleteTensor
  next hnone =>
    rwa [Capsule.stakes_of_tensor?_none hnone, add_zero] at b

theorem addForeign (b : h.Balanced held numbered) (f : ForeignTensor) :
    (h.addForeign f (numbered + 1)).1.Balanced
      (held + (h.addForeign f (numbered + 1)).2.keeper.stakes) (numbered + 1) := by
  have hplace : (h.placeForeign f.memory).1.Balanced held numbered := by
    unfold Heap.placeForeign
    split
    · exact b
    · exact b.addBlock _
  exact hplace.lend f.deletes

end Heap.Balanced

/-- The books of the heap agree with the stakes of what clients hold. -/
def World.Balanced (w : World) : Prop := w.heap.Balanced (World.held w.things) w.numbered

theorem World.held_storage_ne_zero {things : Multiset Thing} {b : Buffer}
    (mem : .buffer b ∈ things) : World.held things (.storage b.storage.id) ≠ 0 :=
  World.held_ne_zero mem b.stakes_self

theorem Move.balanced {w w' : World} (m : Move w w') (b : w.Balanced) : w'.Balanced := by
  cases m with
  | adopt h things n type bytes small =>
    simp only [World.Balanced, World.held_cons] at b ⊢
    exact b.ofBytes type bytes
  | allocate ok =>
    simp only [World.Balanced, World.held_cons] at b ⊢
    exact b.allocateBuffer ok
  | view mem ok =>
    simp only [World.Balanced, World.held_cons] at b ⊢
    exact b.retain (World.held_storage_ne_zero mem)
  | reshape mem ok =>
    simp only [World.Balanced, World.held_cons] at b ⊢
    exact b.retain (World.held_storage_ne_zero mem)
  | write position data mem ok => exact Heap.Balanced.write b ..
  | drop h things n buffer =>
    simp only [World.Balanced, World.held_cons] at b
    exact b.drop
  | wrap h things n buffer o =>
    simp only [World.Balanced, World.held_cons] at b ⊢
    exact b
  | @consume h things n c a h' c' buffer ok =>
    simp only [World.Balanced, World.held_cons] at b ⊢
    obtain ⟨_, rfl, hcases⟩ := Capsule.consumeAs_eq_ok ok
    simp only [Thing.stakes, Contents.stakes_spent, add_zero] at b ⊢
    obtain ⟨inner, hcontents, rfl, rfl⟩ | ⟨d, t, hcontents, rfl, rfl⟩ := hcases
    · rw [hcontents] at b
      rw [Buffer.stakes, Capsule.storage_deliver]
      exact b
    · rw [hcontents] at b
      rw [Buffer.stakes, Capsule.storage_deliver]
      exact b.adopt d
  | @takeTensor h things n c c' t ok =>
    simp only [World.Balanced, World.held_cons] at b ⊢
    obtain ⟨rfl, htensor⟩ := Capsule.takeTensor_eq_ok ok
    simp only [Thing.stakes, Contents.stakes_spent, add_zero] at b ⊢
    rwa [Capsule.stakes_tensor? htensor]
  | dropCapsule h things n c =>
    simp only [World.Balanced, World.held_cons] at b
    exact b.dropCapsule
  | importTensor ok =>
    obtain ⟨d, _, rfl⟩ := Capsule.ofTensor_eq_ok ok
    simp only [World.Balanced, World.held_cons] at b ⊢
    exact b
  | delete h things n t =>
    simp only [World.Balanced, World.held_cons] at b
    exact b.deleteTensor
  | lend h things n f =>
    simp only [World.Balanced, World.held_cons] at b ⊢
    exact b.addForeign f
  | skip h things n => exact Heap.Balanced.skip b
  | obtain ok =>
    simp only [World.Balanced, World.held_cons] at b ⊢
    exact b.allocate ok
  | giveBack h things n a =>
    simp only [World.Balanced, World.held_cons] at b
    exact b.free

theorem Moves.balanced {w w' : World} (m : Moves w w') (b : w.Balanced) : w'.Balanced := by
  induction m with
  | refl => exact b
  | tail _ last ih => exact last.balanced ih

end TensorExchange
