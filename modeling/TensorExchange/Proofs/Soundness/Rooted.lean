import TensorExchange.Proofs.Buffer.Write
import TensorExchange.Proofs.Soundness.Live
import TensorExchange.Proofs.Soundness.Moves

/-!
Rooted things: what they owe to the way they were made.

Soundness says of a buffer that it lies in its storage, and of a storage what its owner keeps.
Four more facts are settled when a thing is made and stay as they are:

* the shape of a buffer was counted;
* a storage that nobody owns lies in no memory;
* a tensor that this library did not export is in the journal;
* the memory of another runtime is none of the blocks that storages own.

They are not needed for the bounds.  The first is what an export needs to be accepted again,
and the others say whose memory is whose: a storage that nobody owns shares no memory with
others, and memory that came in is not memory that was handed out.

Main statement (`Session.rooted_run`): all of this holds after any chain of moves, of all that
is held and of all that owners hold.  Everything is kept while the heap grows, but not by any
growth: a new owner could own a block that another runtime lent.  So growth is restricted to
owners whose blocks are new and whose tensors are rooted (`Owner.Added`), and each move that
adds a storage shows that its owner is one of these.

A case of `Move.rooted` may use that the world before is balanced and sound.  Books are needed
once, to know that a block which was just added is owned by nobody (`lent_addBlock`).
-/

namespace TensorExchange

/-! ## Blocks -/

/-- The block that belongs to an owner. -/
def Owner.block? : Owner → Option Nat
  | backend a => some a.block
  | adopted block => some block
  | imported _ | nobody => none

/-- A block of another runtime: no storage owns it. -/
structure Heap.Lent (h : Heap) (block : Nat) : Prop where
  old : block < h.blocks.next
  owners : ∀ id x, h.holdings.get? id = some x → x.owner.block? ≠ some block

/-- An owner whose block, if it has one, is new. -/
def Owner.New (h : Heap) (owner : Owner) : Prop :=
  ∀ block, owner.block? = some block → h.blocks.next ≤ block

theorem Heap.Lent.grown {h h' : Heap} {new : Owner → Prop} (g : h.Grown new h')
    (hnew : ∀ owner, new owner → owner.New h) {block : Nat} (k : h.Lent block) : h'.Lent block where
  old := Nat.lt_of_lt_of_le k.old g.blocks.next
  owners := by
    intro id x found hblock
    rcases g.holdings.kept id x found with ⟨y, hy, howner⟩ | ⟨_, hx⟩
    · exact k.owners id y hy (howner ▸ hblock)
    · exact absurd k.old (Nat.not_lt.mpr (hnew _ hx block hblock))

/-! ## Things -/

/-- A buffer whose shape was counted, over a storage that lies in memory only if it is owned. -/
structure Buffer.Rooted (h : Heap) (b : Buffer) : Prop where
  old : b.storage.id < h.holdings.next
  counted : checkShape b.layout.shape = .ok ()
  owned : ∀ x, h.holdings.get? b.storage.id = some x → x.owner = .nobody →
    b.storage.base.block? = none

/-- Whoever keeps a tensor is this library, or another runtime that lent the tensor. -/
def Keeper.Known (journal : List Event) : Keeper → Prop
  | exported _ => True
  | runtime n deletes => .lent n deletes ∈ journal
  | nobody => False

/-- A tensor that carries such a buffer, or lies in memory that another runtime lends. -/
structure ManagedTensor.Rooted (h : Heap) (t : ManagedTensor) : Prop where
  known : t.keeper.Known h.journal
  carried : ∀ b, t.keeper = .exported b → b.Rooted h
  lent : t.keeper.buffer? = none → ∀ block, t.record.data.block? = some block → h.Lent block

def Owner.Rooted (h : Heap) : Owner → Prop
  | imported t => t.Rooted h
  | _ => True

def Contents.Rooted (h : Heap) : Contents → Prop
  | native (some b) => b.Rooted h
  | foreign _ (some t) => t.Rooted h
  | native none | foreign _ none => True

def Thing.Rooted (h : Heap) : Thing → Prop
  | buffer b => b.Rooted h
  | capsule c => c.contents.Rooted h
  | tensor t => t.Rooted h
  | allocation _ => True

/-- Everything that clients and owners hold is rooted. -/
structure World.Rooted (w : World) : Prop where
  things : ∀ x ∈ w.things, x.Rooted w.heap
  owners : ∀ id x, w.heap.holdings.get? id = some x → x.owner.Rooted w.heap

theorem World.rooted_empty (m : Machine) (n : Nat) : World.Rooted ⟨.empty m, 0, n⟩ where
  things := by simp
  owners := by simp [Heap.empty, Table.empty, Table.get?]

section Growth

/-- The owners that a move may add: their blocks are new, and what they hold is rooted. -/
structure Owner.Added (h : Heap) (owner : Owner) : Prop where
  new : owner.New h
  rooted : owner.Rooted h

variable {h h' : Heap}

theorem Buffer.Rooted.grown (g : h.Grown (Owner.Added h) h') {b : Buffer} (k : b.Rooted h) :
    b.Rooted h' where
  old := Nat.lt_of_lt_of_le k.old g.holdings.next
  counted := k.counted
  owned := by
    intro x found hnobody
    rcases g.holdings.kept _ x found with ⟨y, hy, howner⟩ | ⟨hle, _⟩
    · exact k.owned y hy (howner ▸ hnobody)
    · exact absurd k.old (Nat.not_lt.mpr hle)

theorem Keeper.Known.grown (g : h.Grown (Owner.Added h) h') {keeper : Keeper}
    (k : keeper.Known h.journal) : keeper.Known h'.journal := by
  cases keeper with
  | exported b => exact k
  | runtime n deletes => exact g.journal k
  | nobody => exact k

theorem ManagedTensor.Rooted.grown (g : h.Grown (Owner.Added h) h') {t : ManagedTensor}
    (k : t.Rooted h) : t.Rooted h' where
  known := k.known.grown g
  carried := fun b hb => (k.carried b hb).grown g
  lent := fun hb block hblock => (k.lent hb block hblock).grown g fun _ => Owner.Added.new

theorem Owner.Rooted.grown (g : h.Grown (Owner.Added h) h') {owner : Owner} (k : owner.Rooted h) :
    owner.Rooted h' := by
  cases owner with
  | imported t => exact ManagedTensor.Rooted.grown g k
  | backend _ => exact k
  | adopted _ => exact k
  | nobody => exact k

theorem Contents.Rooted.grown (g : h.Grown (Owner.Added h) h') {c : Contents} (k : c.Rooted h) :
    c.Rooted h' := by
  unfold Contents.Rooted at k ⊢
  split at k
  next => exact Buffer.Rooted.grown g k
  next => exact ManagedTensor.Rooted.grown g k
  next => exact k
  next => exact k

theorem Thing.Rooted.grown (g : h.Grown (Owner.Added h) h') {x : Thing} (k : x.Rooted h) :
    x.Rooted h' := by
  cases x with
  | buffer b => exact Buffer.Rooted.grown g k
  | capsule c => exact Contents.Rooted.grown g k
  | tensor t => exact ManagedTensor.Rooted.grown g k
  | allocation a => exact k

theorem World.Rooted.grown {things : Multiset Thing} {n m : Nat} (k : World.Rooted ⟨h, things, n⟩)
    (g : h.Grown (Owner.Added h) h') : World.Rooted ⟨h', things, m⟩ where
  things := fun x hx => (k.things x hx).grown g
  owners := by
    intro id x found
    rcases g.holdings.kept id x found with ⟨y, hy, howner⟩ | ⟨_, hnew⟩
    · rw [howner]
      exact (k.owners id y hy).grown g
    · exact hnew.rooted.grown g

end Growth

namespace World.Rooted

variable {h : Heap} {things : Multiset Thing} {n : Nat} {x : Thing}

theorem cons (k : World.Rooted ⟨h, things, n⟩) (hx : x.Rooted h) :
    World.Rooted ⟨h, x ::ₘ things, n⟩ where
  things := by
    intro y hy
    rcases Multiset.mem_cons.mp hy with rfl | hy
    · exact hx
    · exact k.things y hy
  owners := k.owners

theorem head (k : World.Rooted ⟨h, x ::ₘ things, n⟩) : x.Rooted h :=
  k.things x (Multiset.mem_cons_self ..)

theorem tail (k : World.Rooted ⟨h, x ::ₘ things, n⟩) : World.Rooted ⟨h, things, n⟩ :=
  ⟨fun y hy => k.things y (Multiset.mem_cons_of_mem hy), k.owners⟩

end World.Rooted

/-! ## New things -/

variable {h h' : Heap}

theorem Owner.added_nobody (h : Heap) : Owner.Added h .nobody := ⟨nofun, trivial⟩

theorem Owner.added_adopted (h : Heap) : Owner.Added h (.adopted h.blocks.next) :=
  ⟨fun _ hblock => Nat.le_of_eq (Option.some.inj hblock), trivial⟩

theorem Owner.added_backend {a : Allocation} (ha : a.block = h.blocks.next) :
    Owner.Added h (.backend a) :=
  ⟨fun _ hblock => Nat.le_of_eq (ha.symm.trans (Option.some.inj hblock)), trivial⟩

theorem Owner.added_imported {t : ManagedTensor} (k : t.Rooted h) : Owner.Added h (.imported t) :=
  ⟨nofun, k⟩

theorem Buffer.rooted_addStorage {owner : Owner} {base : Pointer} {size : Nat}
    {alignment : Option Nat} {device : Device} {readOnly : Bool} {layout : Layout}
    (type : ElementType) (counted : checkShape layout.shape = .ok ())
    (owned : owner = .nobody → base.block? = none) :
    (Buffer.ofStorage (h.addStorage owner base size alignment device readOnly).2 layout type).Rooted
      (h.addStorage owner base size alignment device readOnly).1 where
  old := by
    simp only [Heap.addStorage, Table.next_add]
    exact Nat.lt_succ_self _
  counted := counted
  owned := by
    intro x found hnobody
    have hx : some _ = some x := (Table.get?_add_next ..).symm.trans found
    exact owned (by rw [← hnobody, ← Option.some.inj hx])

theorem Buffer.Rooted.withLayout {b : Buffer} (k : b.Rooted h) {layout : Layout}
    (counted : checkShape layout.shape = .ok ()) : (b.withLayout layout).Rooted h :=
  ⟨k.old, counted, k.owned⟩

theorem Buffer.Rooted.deliver {b : Buffer} (k : b.Rooted h) (c : Capsule) :
    (c.deliver b).Rooted h := by
  unfold Capsule.deliver
  split
  · exact ⟨k.old, k.counted, k.owned⟩
  · exact k

/-! ## Buffers whose shapes were counted -/

theorem Buffer.rooted_ofBytes (h : Heap) (type : ElementType) {bytes : Array UInt8}
    (small : bytes.size ≤ maxSize) :
    (ofBytes h type bytes).2.Rooted (ofBytes h type bytes).1 := by
  have hcount : (UInt64.ofNat (bytes.size / type.size)).toNat ≤ maxSize := by
    rw [UInt64.toNat_ofNat']
    exact (Nat.mod_le ..).trans ((Nat.div_le_self ..).trans small)
  have hcounted := Layout.counted_vector hcount
  unfold ofBytes
  split
  case isTrue => exact rooted_addStorage type hcounted fun _ => rfl
  case isFalse => exact rooted_addStorage type hcounted nofun

theorem Allocator.rooted_allocate {a : Allocator} {type : ElementType} {shape : List UInt64}
    {device : Device} {b : Buffer} (ok : a.allocate h type shape device = .ok (h', b)) :
    b.Rooted h' := by
  obtain ⟨layout, n, hplan, hcases⟩ := allocate_eq_ok ok
  have hcounted := Layout.counted_of_contiguous (plan_eq_ok hplan).1
  rcases hcases with ⟨_, s, hadd, rfl⟩ | ⟨h₁, allocation, s, _, _, hadd, rfl⟩
  · obtain ⟨rfl, rfl⟩ := Prod.mk.inj hadd
    exact Buffer.rooted_addStorage type hcounted fun _ => rfl
  · obtain ⟨rfl, rfl⟩ := Prod.mk.inj hadd
    exact Buffer.rooted_addStorage type hcounted nofun

theorem Buffer.Rooted.view {b : Buffer} (k : b.Rooted h) {shape : List UInt64}
    {strides : List Int64} {byteOffset : UInt64} {layout : Layout}
    (ok : b.viewLayout shape strides byteOffset = .ok layout) :
    (b.withLayout layout).Rooted h := by
  obtain ⟨layout', hstrided, ok⟩ := bind_eq_ok.mp ok
  obtain ⟨⟨⟩, _, ok⟩ := bind_eq_ok.mp ok
  obtain rfl := pure_eq_ok.mp ok
  exact k.withLayout (Layout.counted_of_strided hstrided)

theorem Buffer.Rooted.reshape {b : Buffer} (k : b.Rooted h) {shape : List UInt64} {layout : Layout}
    (ok : b.reshapeLayout shape = .ok layout) : (b.withLayout layout).Rooted h := by
  obtain ⟨_, ok⟩ := guard_eq_ok.mp ok
  exact k.withLayout (Layout.counted_of_reshaped (orShapeError_eq_ok.mp ok))

theorem Heap.rooted_adopt {t : ManagedTensor} {d : Described} (hd : d.Describes t) (h : Heap) :
    (h.adopt t d).2.Rooted (h.adopt t d).1 :=
  Buffer.rooted_addStorage d.type hd.checked nofun

/-! ## Capsules and tensors -/

theorem Contents.rooted_spent (c : Capsule) : c.spent.contents.Rooted h := by
  unfold Capsule.spent Capsule.emptied
  split <;> trivial

theorem Contents.Rooted.takeTensor {c c' : Capsule} {t : ManagedTensor} (k : c.contents.Rooted h)
    (ok : c.takeTensor = .ok (c', t)) : t.Rooted h := by
  obtain ⟨_, htensor⟩ := Capsule.takeTensor_eq_ok ok
  rcases Capsule.tensor?_eq_some htensor with ⟨inner, hcontents, rfl⟩ | ⟨d, t', hcontents, rfl⟩
  · rw [hcontents] at k
    constructor
    case known => trivial
    case carried =>
      intro b hb
      obtain rfl : inner = b := by simpa [ManagedTensor.ofBuffer] using hb
      exact k
    case lent =>
      intro hnone
      cases hnone
  · rw [hcontents] at k
    exact ⟨k.known, k.carried, k.lent⟩

/-- The block of an owner is one that was handed out or handed in. -/
theorem Heap.Balanced.block_lt {held : Stakes} {n : Nat} (b : h.Balanced held n) {id : Nat}
    {x : Holding} (found : h.holdings.get? id = some x) {block : Nat}
    (hblock : x.owner.block? = some block) : block < h.blocks.next := by
  by_contra hle
  have hfresh := b.memory.fresh block (Nat.not_lt.mp hle)
  cases howner : x.owner with
  | backend a =>
    rw [howner] at hblock
    obtain rfl : a.block = block := Option.some.inj hblock
    have hstake : h.stakes held (.allocation a) ≠ 0 :=
      Heap.stakes_of_owner found (by simp [howner, Owner.stakes])
    have := b.memory.allocated_of_stake hstake
    have := MemoryKept.count_le_countP h.journal a
    omega
  | adopted k =>
    rw [howner] at hblock
    obtain rfl : k = block := Option.some.inj hblock
    have hstake : h.stakes held (.adopted k) ≠ 0 :=
      Heap.stakes_of_owner found (by simp [howner, Owner.stakes])
    omega
  | imported t => rw [howner] at hblock; cases hblock
  | nobody => rw [howner] at hblock; cases hblock

/-- A block that was just made is nobody's yet. -/
theorem Heap.Balanced.lent_addBlock {held : Stakes} {n : Nat} (b : h.Balanced held n)
    (bytes : Array UInt8) : (h.addBlock bytes).1.Lent h.blocks.next where
  old := by
    simp only [Heap.addBlock, Table.next_add]
    exact Nat.lt_succ_self _
  owners := fun _ _ found hblock => Nat.lt_irrefl _ (b.block_lt found hblock)

/-- The memory of another runtime is a new block, or none that is known. -/
theorem ManagedTensor.rooted_addForeign {held : Stakes} {n : Nat} (b : h.Balanced held n)
    (f : ForeignTensor) (number : Nat) :
    (h.addForeign f number).2.Rooted (h.addForeign f number).1 where
  known := List.mem_cons_self ..
  carried := fun b h => by cases h
  lent := by
    intro _ block hblock
    obtain ⟨envelope, memory, device, rank, triple, shape, strides, byteOffset, deletes⟩ := f
    cases memory with
    | address address => cases hblock
    | bytes bytes position =>
      obtain rfl : h.blocks.next = block := Option.some.inj hblock
      have lent := b.lent_addBlock bytes
      exact ⟨lent.old, lent.owners⟩

/-! ## Moves -/

theorem Move.rooted {w w' : World} (m : Move w w') (b : w.Balanced) (sound : w.Sound)
    (k : w.Rooted) : w'.Rooted := by
  cases m with
  | adopt h things n type bytes small =>
    exact (k.grown (.ofBytes h (Owner.added_nobody h) (Owner.added_adopted h) ..)).cons
      (Buffer.rooted_ofBytes h type small)
  | @allocate h things n a type shape device h' b ok =>
    have grown := Heap.Grown.allocateBuffer (Owner.added_nobody h)
      (fun _ ha _ => Owner.added_backend ha) ok
    exact (k.grown grown).cons
      (Allocator.rooted_allocate ok)
  | view mem ok =>
    have hb : Buffer.Rooted _ _ := k.things _ mem
    exact (k.cons (x := .buffer _) (hb.view ok)).grown (.retain ..)
  | reshape mem ok =>
    have hb : Buffer.Rooted _ _ := k.things _ mem
    exact (k.cons (x := .buffer _) (hb.reshape ok)).grown (.retain ..)
  | write position data mem ok => exact k.grown (.write ..)
  | drop h things n buffer => exact k.tail.grown (.drop ..)
  | wrap h things n buffer o => exact k.tail.cons (x := .capsule _) k.head
  | @consume h things n c a h' c' buffer ok =>
    have hc : c.contents.Rooted h := k.head
    have hsound : Capsule.Sound h c := sound.head
    obtain ⟨_, rfl, ⟨inner, hcontents, rfl, rfl⟩ | ⟨d, t, hcontents, rfl, rfl⟩⟩ :=
      Capsule.consumeAs_eq_ok ok
    · rw [hcontents] at hc
      exact (k.tail.cons (x := .buffer _) (Buffer.Rooted.deliver hc c)).cons
        (Contents.rooted_spent c)
    · simp only [Capsule.Sound, hcontents] at hsound
      have hd := Capsule.describes_of_ofTensor hsound.1 hcontents
      rw [hcontents] at hc
      exact ((k.tail.grown (.adopt h (Owner.added_imported hc) d)).cons (x := .buffer _)
        ((Heap.rooted_adopt hd h).deliver c)).cons (Contents.rooted_spent c)
  | takeTensor ok =>
    have ht := Contents.Rooted.takeTensor k.head ok
    obtain ⟨rfl, _⟩ := Capsule.takeTensor_eq_ok ok
    exact (k.tail.cons (x := .tensor _) ht).cons (Contents.rooted_spent _)
  | dropCapsule h things n c => exact k.tail.grown (.dropCapsule ..)
  | importTensor ok =>
    obtain ⟨d, _, rfl⟩ := Capsule.ofTensor_eq_ok ok
    exact k.tail.cons (x := .capsule _) k.head
  | delete h things n t => exact k.tail.grown (.delete ..)
  | lend h things n f =>
    exact (k.grown (.addForeign ..)).cons (ManagedTensor.rooted_addForeign b f (n + 1))
  | skip h things n => exact k.grown (.refl _)
  | obtain ok => exact (k.grown (.allocate ok)).cons trivial
  | giveBack h things n a => exact k.tail.grown (.free ..)

theorem Moves.rooted {w w' : World} (m : Moves w w') (b : w.Balanced) (sound : w.Sound)
    (k : w.Rooted) : w'.Rooted := by
  induction m with
  | refl => exact k
  | tail before last ih =>
    exact last.rooted (Moves.balanced before b) (Moves.sound before sound) ih

/-- Everything in a session is rooted, whatever its commands were. -/
theorem Session.rooted_run (m : Machine) (env : Config.Environment) (cs : List Command) :
    ((start m env).run cs).1.world.Rooted :=
  (moves_of_run (start m env) cs).rooted (Heap.balanced_empty m) (World.sound_empty m 0)
    (World.rooted_empty m 0)

/-! ## Live buffers -/

theorem Thing.Rooted.buffer {x : Thing} {b : Buffer} (k : x.Rooted h) (hb : x.buffer? = some b) :
    b.Rooted h := by
  cases x with
  | buffer b' => exact Option.some.inj hb ▸ k
  | allocation a => cases hb
  | tensor t => exact k.carried b (Keeper.exported_of_buffer? hb)
  | capsule c =>
    have k : c.contents.Rooted h := k
    have hb : c.contents.buffer? = some b := hb
    cases hcontents : c.contents with
    | native inner =>
      rw [hcontents] at k hb
      obtain rfl : inner = some b := hb
      exact k
    | foreign d inner =>
      rw [hcontents] at k hb
      obtain ⟨t, rfl, hb⟩ := Option.bind_eq_some_iff.mp hb
      exact ManagedTensor.Rooted.carried k b (Keeper.exported_of_buffer? hb)

theorem World.Rooted.live {w : World} (k : w.Rooted) {b : Buffer} (live : w.Live b) :
    b.Rooted w.heap := by
  rcases live with ⟨x, hx, hb⟩ | ⟨id, x, found, hb⟩
  · exact (k.things x hx).buffer hb
  · have howner := k.owners id x found
    cases ho : x.owner with
    | imported t =>
      rw [ho] at howner hb
      exact ManagedTensor.Rooted.carried howner b (Keeper.exported_of_buffer? hb)
    | backend a => rw [ho] at hb; cases hb
    | adopted block => rw [ho] at hb; cases hb
    | nobody => rw [ho] at hb; cases hb

end TensorExchange
