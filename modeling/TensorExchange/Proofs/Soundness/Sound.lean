import TensorExchange.Proofs.Exchange.Describe
import TensorExchange.Proofs.Soundness.Growth

/-!
Sound things: buffers that stay inside their storage, and storages inside of the memory that
their owner keeps.

A buffer is sound when its layout fits its storage and whoever owns the storage keeps as many
bytes.  The second half is `Heap.Backs`, and what it says depends on the owner:

* memory of a backend, or handed in by value, is a block as long as the storage;
* an imported tensor has a description with the base and the size of the storage;
* nobody owns a storage without bytes.

It is said of the storage as long as it is there, since a storage that is gone has no owner to
speak of.  An imported tensor that was exported here carries a buffer, which has to be sound
again; so what owners hold is part of the invariant, and not only what clients hold.

A capsule is sound when it describes what it carries.  A tensor of another runtime is always
sound, as nothing is known of it.

`World.Sound` has all that is held and all that owners hold.  It is true of the empty world
and, by `Proofs/Soundness/Moves`, kept by every move, so in every world that can be reached all
things are sound.  Here are the definitions, and that each of them is kept while the heap
grows.
-/

namespace TensorExchange

/-! ## Storages -/

/-- A block that has this many bytes as long as it is there. -/
def Heap.HasSize (h : Heap) (block size : Nat) : Prop :=
  block < h.blocks.next ∧ ∀ bytes, h.blocks.get? block = some bytes → bytes.size = size

/-- What an owner says about the storage it owns. -/
def Owner.Backs (h : Heap) (s : Storage) : Owner → Prop
  | backend a => s.base = .within a.block 0 ∧ s.size = a.size ∧ s.alignment = some a.alignment ∧
      s.device = a.device ∧ s.size ≤ maxSize ∧ h.HasSize a.block s.size
  | adopted block => s.base = .within block 0 ∧ s.size ≤ maxSize ∧ h.HasSize block s.size
  | imported t => ∃ d, Described.Describes t d ∧ s.base = d.base ∧ s.size = d.size ∧
      s.device = d.device
  | nobody => s.size = 0

/-- A storage that its owner backs, as long as it is there. -/
structure Heap.Backs (h : Heap) (s : Storage) : Prop where
  old : s.id < h.holdings.next
  backs : ∀ x, h.holdings.get? s.id = some x → x.owner.Backs h s

section Growth

variable {new : Owner → Prop} {h h' : Heap}

theorem Heap.HasSize.grown {block size : Nat} (g : h.Grown new h') (k : h.HasSize block size) :
    h'.HasSize block size := by
  refine ⟨Nat.lt_of_lt_of_le k.1 g.blocks.next, fun bytes found => ?_⟩
  rcases g.blocks.kept block bytes found with ⟨old, hold, hsize⟩ | ⟨hle, _⟩
  · exact hsize.trans (k.2 old hold)
  · exact absurd k.1 (Nat.not_lt.mpr hle)

theorem Owner.Backs.grown (g : h.Grown new h') {s : Storage} {owner : Owner}
    (k : owner.Backs h s) : owner.Backs h' s := by
  cases owner with
  | backend a =>
    obtain ⟨hbase, hsize, halignment, hdevice, hsmall, hblock⟩ := k
    exact ⟨hbase, hsize, halignment, hdevice, hsmall, hblock.grown g⟩
  | adopted block =>
    obtain ⟨hbase, hsmall, hblock⟩ := k
    exact ⟨hbase, hsmall, hblock.grown g⟩
  | imported t => exact k
  | nobody => exact k

theorem Heap.Backs.grown (g : h.Grown new h') {s : Storage} (k : h.Backs s) : h'.Backs s := by
  refine ⟨Nat.lt_of_lt_of_le k.old g.holdings.next, fun x found => ?_⟩
  rcases g.holdings.kept s.id x found with ⟨y, hy, howner⟩ | ⟨hle, _⟩
  · rw [howner]
    exact (k.backs y hy).grown g
  · exact absurd k.old (Nat.not_lt.mpr hle)

end Growth

/-- A new storage is backed if its owner says what the storage says. -/
theorem Heap.backs_addStorage {h : Heap} {owner : Owner} {base : Pointer} {size : Nat}
    {alignment : Option Nat} {device : Device} {readOnly : Bool}
    (backs : owner.Backs h (h.addStorage owner base size alignment device readOnly).2) :
    (h.addStorage owner base size alignment device readOnly).1.Backs
      (h.addStorage owner base size alignment device readOnly).2 := by
  have g : h.Grown (fun _ => True) (h.addStorage owner base size alignment device readOnly).1 :=
    Heap.Grown.addStorage h trivial ..
  refine ⟨?_, fun x found => ?_⟩
  · simp only [Heap.addStorage, Table.next_add]
    exact Nat.lt_succ_self _
  · have : h.holdings.next = (h.addStorage owner base size alignment device readOnly).2.id := rfl
    rw [← this] at found
    simp only [Heap.addStorage, Table.get?_add_next, Option.some.injEq] at found
    rw [← found]
    exact backs.grown g

/-! ## Things -/

/-- A buffer whose elements lie in a storage that is backed. -/
structure Buffer.Sound (h : Heap) (b : Buffer) : Prop where
  backed : h.Backs b.storage
  exact : b.layout.Exact
  fits : b.layout.Fits b.type.size b.storage.size

/-- A tensor that was exported here describes the buffer that it carries. -/
def ManagedTensor.Sound (h : Heap) (t : ManagedTensor) : Prop :=
  ∀ b, t.keeper = .exported b → t.record = b.toRecord ∧ b.Sound h

/-- What an owner holds is sound. -/
def Owner.Sound (h : Heap) : Owner → Prop
  | imported t => t.Sound h
  | _ => True

/-- A capsule that describes what it carries, or whose tensor was taken. -/
def Capsule.Sound (h : Heap) (c : Capsule) : Prop :=
  match c.contents with
  | .native (some b) => (∃ o, c = .wrapWith b o) ∧ b.Sound h
  | .foreign _ (some t) => Capsule.ofTensor t = .ok c ∧ t.Sound h
  | .native none | .foreign _ none => c.state = .consumed

def Thing.Sound (h : Heap) : Thing → Prop
  | buffer b => b.Sound h
  | capsule c => c.Sound h
  | tensor t => t.Sound h
  | allocation _ => True

/-- Everything that clients and owners hold is sound. -/
structure World.Sound (w : World) : Prop where
  things : ∀ x ∈ w.things, x.Sound w.heap
  owners : ∀ id x, w.heap.holdings.get? id = some x → x.owner.Sound w.heap

theorem World.sound_empty (m : Machine) (n : Nat) : World.Sound ⟨.empty m, 0, n⟩ where
  things := by simp
  owners := by simp [Heap.empty, Table.empty, Table.get?]

section Growth

variable {new : Owner → Prop} {h h' : Heap}

theorem Buffer.Sound.grown (g : h.Grown new h') {b : Buffer} (k : b.Sound h) : b.Sound h' :=
  ⟨k.backed.grown g, k.exact, k.fits⟩

theorem ManagedTensor.Sound.grown (g : h.Grown new h') {t : ManagedTensor} (k : t.Sound h) :
    t.Sound h' :=
  fun b hb => ⟨(k b hb).1, (k b hb).2.grown g⟩

theorem Owner.Sound.grown (g : h.Grown new h') {owner : Owner} (k : owner.Sound h) :
    owner.Sound h' := by
  cases owner with
  | imported t => exact ManagedTensor.Sound.grown g k
  | backend _ => exact k
  | adopted _ => exact k
  | nobody => exact k

theorem Capsule.Sound.grown (g : h.Grown new h') {c : Capsule} (k : c.Sound h) : c.Sound h' := by
  unfold Capsule.Sound at k ⊢
  split at k
  next => exact ⟨k.1, k.2.grown g⟩
  next => exact ⟨k.1, k.2.grown g⟩
  next => exact k
  next => exact k

theorem Thing.Sound.grown (g : h.Grown new h') {x : Thing} (k : x.Sound h) : x.Sound h' := by
  cases x with
  | buffer b => exact Buffer.Sound.grown g k
  | capsule c => exact Capsule.Sound.grown g k
  | tensor t => exact ManagedTensor.Sound.grown g k
  | allocation a => exact k

/-- What is held stays sound while the heap grows, as long as new owners hold sound things. -/
theorem World.Sound.grown {things : Multiset Thing} {n m : Nat} (k : World.Sound ⟨h, things, n⟩)
    (g : h.Grown (Owner.Sound h) h') : World.Sound ⟨h', things, m⟩ where
  things := fun x hx => (k.things x hx).grown g
  owners := by
    intro id x found
    rcases g.holdings.kept id x found with ⟨y, hy, howner⟩ | ⟨_, hnew⟩
    · rw [howner]
      exact (k.owners id y hy).grown g
    · exact hnew.grown g

end Growth

namespace World.Sound

variable {h : Heap} {things : Multiset Thing} {n : Nat} {x : Thing}

theorem cons (k : World.Sound ⟨h, things, n⟩) (hx : x.Sound h) :
    World.Sound ⟨h, x ::ₘ things, n⟩ where
  things := by
    intro y hy
    rcases Multiset.mem_cons.mp hy with rfl | hy
    · exact hx
    · exact k.things y hy
  owners := k.owners

theorem head (k : World.Sound ⟨h, x ::ₘ things, n⟩) : x.Sound h :=
  k.things x (Multiset.mem_cons_self ..)

theorem tail (k : World.Sound ⟨h, x ::ₘ things, n⟩) : World.Sound ⟨h, things, n⟩ :=
  ⟨fun y hy => k.things y (Multiset.mem_cons_of_mem hy), k.owners⟩

end World.Sound

end TensorExchange
