import Mathlib.Tactic.Abel
import TensorExchange.Proofs.Ownership.Books
import TensorExchange.Proofs.Result

/-!
Balance: the books of the heap agree with the stakes that are held.

`held` stands for the stakes of everything outside of the heap; the owners of the storages
inside have stakes as well.  The tensors of other runtimes are numbered up to `numbered`.
`Balanced` says that the three books of `Proofs/Ownership/Books` agree with the sum.

Every operation of the heap keeps the balance and moves stakes from the one side to the
other: what lets go of a thing uses up the stakes of that thing, and what makes a thing gives
out new ones.  The lemmas have this form throughout,

    (b : h.Balanced (held + what is used up) n) : (operation h).Balanced (held + what is new) n

with `held` free, so they can be applied wherever the other stakes come from.

Letting go is the operation with a recursion.  A storage that loses its last holder is
erased, and its owner is let go, which may be an imported tensor that carries a buffer, and
so another storage.  `releaseId` follows that chain, by the recursion of the function, and
the balance is an invariant of the walk: the stake of the storage becomes that of its owner,
and so on inwards.  At the end of the chain memory is given back or a deleter is called, with
a stake that was still there.

That a storage is not let go twice is not seen here.  It follows where stakes are counted.
-/

namespace TensorExchange

namespace Heap

/-- Stakes held outside of the heap and by the owners inside. -/
def stakes (h : Heap) (held : Stakes) : Stakes := held + h.holdings.owned

theorem stakes_of_owner {h : Heap} {held : Stakes} {id : Nat} {x : Holding} {r : Resource}
    (found : h.holdings.get? id = some x) (stake : x.owner.stakes r ≠ 0) : h.stakes held r ≠ 0 := by
  have := Table.le_total found fun x => x.owner.stakes r
  simp only [stakes, Pi.add_apply, Table.owned_apply]
  omega

/-- The books of the heap agree with the stakes. -/
structure Balanced (h : Heap) (held : Stakes) (numbered : Nat) : Prop where
  storages : h.holdings.Counted (h.stakes held)
  memory : MemoryKept h.blocks h.journal (h.stakes held)
  tensors : TensorsKept h.journal (h.stakes held) numbered

theorem balanced_empty (m : Machine) : (empty m).Balanced 0 0 where
  storages := by
    constructor <;> simp [empty, Table.empty, Table.get?, stakes, Table.owned, Table.total]
  memory := by
    constructor <;> simp [empty, Table.empty, Table.get?, stakes, Table.owned, Table.total]
  tensors := by
    constructor <;> simp [empty, Table.empty, stakes, Table.owned, Table.total]

namespace Balanced

variable {h : Heap} {held : Stakes} {numbered : Nat}

/-! ## Storages and their holders -/

theorem exists_holding (b : h.Balanced held numbered) {id : Nat} (hs : held (.storage id) ≠ 0) :
    ∃ x, h.holdings.get? id = some x :=
  b.storages.exists_of_stake (Stakes.add_ne_zero hs _)

/-- Storages may change as long as their owners hold what the heap lets go of. -/
theorem withHoldings (b : h.Balanced held numbered) {t : Table Holding} {other : Stakes}
    (c : t.Counted (other + t.owned)) (same : (h.stakes held).SameContents (other + t.owned)) :
    Heap.Balanced { h with holdings := t } other numbered where
  storages := c
  memory := b.memory.congr (fun _ => (same _ (by simp)).symm) fun _ => (same _ (by simp)).symm
  tensors := b.tensors.congr fun _ => (same _ (by simp)).symm

theorem retain (b : h.Balanced held numbered) {s : Storage} (hs : held (.storage s.id) ≠ 0) :
    (h.retain s).Balanced (held + (Resource.storage s.id).stake) numbered := by
  obtain ⟨x, found⟩ := b.exists_holding hs
  have howned := Table.owned_set_holders found (x.holders + 1)
  have hx := b.storages.holders_of_get? found
  simp only [stakes, Pi.add_apply] at hx
  simp only [Heap.retain, found]
  refine b.withHoldings ?_ ?_
  · refine b.storages.setHolders found (Nat.succ_pos _) ?_ fun k hk => ?_
    · simp only [howned, Pi.add_apply, Resource.stake_self]
      omega
    · simp [stakes, howned, Resource.stake_apply, hk]
  · have : held + (Resource.storage s.id).stake + h.holdings.owned =
        h.stakes held + (Resource.storage s.id).stake := by
      simp only [stakes]
      abel
    rw [howned, this]
    exact Stakes.sameContents_add_storage _ _

theorem addStorage (owner : Owner) (b : h.Balanced (held + owner.stakes) numbered)
    (base : Pointer) (size : Nat) (alignment : Option Nat) (device : Device) (readOnly : Bool) :
    (h.addStorage owner base size alignment device readOnly).1.Balanced
      (held + (Resource.storage h.holdings.next).stake) numbered := by
  have hstakes : h.stakes (held + owner.stakes) = held + h.holdings.owned + owner.stakes := by
    simp only [stakes]
    abel
  have hnew : held + (Resource.storage h.holdings.next).stake +
      (h.holdings.add ⟨owner, 1⟩).1.owned =
        held + h.holdings.owned + owner.stakes + (Resource.storage h.holdings.next).stake := by
    rw [Table.owned_add]
    abel
  refine b.withHoldings (t := (h.holdings.add ⟨owner, 1⟩).1) ?_ ?_
  · rw [hnew]
    exact (hstakes ▸ b.storages).add
  · rw [hnew, hstakes]
    exact Stakes.sameContents_add_storage _ _

theorem decrease {id : Nat} (b : h.Balanced (held + (Resource.storage id).stake) numbered)
    {x : Holding} (found : h.holdings.get? id = some x) (hmore : 1 < x.holders) :
    Heap.Balanced
      { h with holdings := h.holdings.set id { x with holders := x.holders - 1 } } held
      numbered := by
  have howned := Table.owned_set_holders found (x.holders - 1)
  have hx := b.storages.holders_of_get? found
  simp only [stakes, Pi.add_apply, Resource.stake_self] at hx
  refine b.withHoldings ?_ ?_
  · refine b.storages.setHolders found (by omega) ?_ fun k hk => ?_
    · simp only [howned, Pi.add_apply]
      omega
    · simp [stakes, howned, Resource.stake_apply, hk]
  · have : h.stakes (held + (Resource.storage id).stake) =
        held + h.holdings.owned + (Resource.storage id).stake := by
      simp only [stakes]
      abel
    rw [howned, this]
    exact (Stakes.sameContents_add_storage _ _).symm

/-- The last holder goes: the storage is erased, and what its owner held is to be let go. -/
theorem erase {id : Nat} (b : h.Balanced (held + (Resource.storage id).stake) numbered)
    {x : Holding} (found : h.holdings.get? id = some x) (hlast : ¬ 1 < x.holders) :
    Heap.Balanced { h with holdings := h.holdings.erase id } (held + x.owner.stakes)
      numbered := by
  have howned := Table.owned_erase found
  have hx := b.storages.holders_of_get? found
  simp only [stakes, Pi.add_apply, Resource.stake_self] at hx
  have hnew : held + x.owner.stakes + (h.holdings.erase id).owned = held + h.holdings.owned := by
    rw [← howned]
    abel
  refine b.withHoldings ?_ ?_
  · rw [hnew]
    refine b.storages.erase ?_ fun k hk => ?_
    · simp only [Pi.add_apply]
      omega
    · simp [stakes, Resource.stake_apply, hk]
  · have : h.stakes (held + (Resource.storage id).stake) =
        held + h.holdings.owned + (Resource.storage id).stake := by
      simp only [stakes]
      abel
    rw [hnew, this]
    exact (Stakes.sameContents_add_storage _ _).symm

/-! ## Memory -/

theorem stakes_add (h : Heap) (held other : Stakes) :
    h.stakes (held + other) = h.stakes held + other := by
  simp only [stakes]
  abel

/-- What changes outside of the storages: blocks and the journal. -/
theorem withContents (b : h.Balanced held numbered) {blocks : Table (Array UInt8)}
    {journal : List Event} {other : Stakes} {upTo : Nat}
    (same : ∀ id, other (.storage id) = held (.storage id))
    (m : MemoryKept blocks journal (h.stakes other))
    (t : TensorsKept journal (h.stakes other) upTo) :
    Heap.Balanced { h with blocks, journal } other upTo := by
  have hstakes : ∀ id, h.stakes other (.storage id) = h.stakes held (.storage id) := by
    intro id
    simp [stakes, same id]
  have c : h.holdings.Counted (h.stakes other) :=
    { holders := fun id => (b.storages.holders id).trans (hstakes id).symm
      held := b.storages.held
      older := b.storages.older }
  exact ⟨c, m, t⟩

theorem free {a : Allocation} (b : h.Balanced (held + (Resource.allocation a).stake) numbered) :
    (h.free a).Balanced held numbered := by
  refine b.withContents (fun id => by simp [Resource.stake_apply]) ?_ ?_
  · exact (stakes_add .. ▸ b.memory).free
  · refine (b.tensors.congr fun n => ?_).record (by simp) (by simp)
    simp [stakes, Resource.stake_apply]

theorem dropBlock {block : Nat} (b : h.Balanced (held + (Resource.adopted block).stake) numbered) :
    (h.dropBlock block).Balanced held numbered := by
  refine b.withContents (fun id => by simp [Resource.stake_apply]) ?_ ?_
  · exact (stakes_add .. ▸ b.memory).dropBlock
  · refine b.tensors.congr fun n => ?_
    simp [stakes, Resource.stake_apply]

theorem addBlock (b : h.Balanced held numbered) (bytes : Array UInt8) :
    (h.addBlock bytes).1.Balanced held numbered :=
  b.withContents (fun _ => rfl) (b.memory.addBlock bytes) b.tensors

theorem adoptBlock (b : h.Balanced held numbered) (bytes : Array UInt8) :
    (h.addBlock bytes).1.Balanced (held + (Resource.adopted h.blocks.next).stake) numbered := by
  refine b.withContents (fun id => by simp [Resource.stake_apply]) ?_ ?_
  · exact stakes_add h held _ ▸ b.memory.adopt bytes
  · refine b.tensors.congr fun n => ?_
    simp [stakes, Resource.stake_apply]

theorem allocate (b : h.Balanced held numbered) {backend : Backend} {size alignment : Nat}
    {device : Device} {h' : Heap} {a : Allocation}
    (ok : h.allocate backend size alignment device = .ok (h', a)) :
    h'.Balanced (held + (Resource.allocation a).stake) numbered := by
  obtain ⟨_, _, ok⟩ := bind_eq_ok.mp ok
  obtain ⟨rfl, rfl⟩ := Prod.mk.inj (pure_eq_ok.mp ok)
  refine b.withContents (fun id => by simp [Resource.stake_apply]) ?_ ?_
  · exact stakes_add h held _ ▸ b.memory.allocate _ _ rfl (Array.size_replicate ..)
  · refine (b.tensors.congr fun n => ?_).record (by simp) (by simp)
    simp [stakes, Resource.stake_apply]

theorem size_overwrite (bytes : Array UInt8) (position : Nat) (data : List UInt8) :
    (overwrite bytes position data).size = bytes.size := by
  unfold overwrite
  induction data generalizing bytes position with
  | nil => rfl
  | cons d rest ih =>
    rw [List.foldl_cons, ih, Array.size_setIfInBounds]

theorem write (b : h.Balanced held numbered) (p : Pointer) (data : List UInt8) :
    (h.write p data).Balanced held numbered := by
  cases p with
  | fixed _ => exact b
  | within block offset =>
    simp only [Heap.write]
    split
    next bytes found =>
      exact b.withContents (fun _ => rfl)
        (b.memory.overwrite found (size_overwrite ..)) b.tensors
    next => exact b

/-! ## Tensors of other runtimes -/

theorem delete {n : Nat} (b : h.Balanced (held + (Resource.foreign n).stake) numbered) :
    (h.record (.deleted n)).Balanced held numbered := by
  refine b.withContents (fun id => by simp [Resource.stake_apply]) ?_ ?_
  · refine (b.memory.congr (fun a => ?_) fun k => ?_).record (by simp) (by simp)
    · simp [stakes, Resource.stake_apply]
    · simp [stakes, Resource.stake_apply]
  · exact (stakes_add .. ▸ b.tensors).delete

theorem skip (b : h.Balanced held numbered) : h.Balanced held (numbered + 1) :=
  ⟨b.storages, b.memory, b.tensors.skip⟩

theorem lend (b : h.Balanced held numbered) (deletes : Bool) :
    (h.record (.lent (numbered + 1) deletes)).Balanced
      (held + (Keeper.runtime (numbered + 1) deletes).stakes) (numbered + 1) := by
  have hstake : ∀ r, (∀ n, r ≠ .foreign n) →
      (Keeper.runtime (numbered + 1) deletes).stakes r = 0 := by
    intro r hr
    cases deletes with
    | false => rfl
    | true => exact Resource.stake_of_ne (hr _)
  refine b.withContents (fun id => by simp [hstake]) ?_ ?_
  · refine (b.memory.congr (fun a => ?_) fun k => ?_).record (by simp) (by simp)
    · simp [stakes, hstake]
    · simp [stakes, hstake]
  · exact stakes_add h held _ ▸ b.tensors.lend deletes

/-! ## Letting go -/

/-- Letting go of a storage uses up a stake in it, and if that was the last one the owner lets go
of what it holds, down any chain of storages. -/
theorem releaseId {id : Nat} (b : h.Balanced (held + (Resource.storage id).stake) numbered) :
    (h.releaseId id).Balanced held numbered := by
  fun_induction Heap.releaseId h id generalizing held with
  | case1 h id gone =>
    obtain ⟨x, found⟩ : ∃ x, h.holdings.get? id = some x := b.exists_holding (by simp)
    rw [gone] at found
    cases found
  | case2 h id x found hmore => exact b.decrease found hmore
  | case3 h id x found hlast rest a =>
    rename_i howner
    have := b.erase found hlast
    rw [howner] at this
    exact this.free
  | case4 h id x found hlast rest block =>
    rename_i howner
    have := b.erase found hlast
    rw [howner] at this
    exact this.dropBlock
  | case5 h id x found hlast rest tensor howner buffer hkeeper =>
    -- the buffer that the tensor carries is let go in turn
    rename_i ih
    have := b.erase found hlast
    rw [howner, Owner.stakes, hkeeper] at this
    exact ih this
  | case6 h id x found hlast rest tensor howner n =>
    rename_i hkeeper
    have := b.erase found hlast
    rw [howner, Owner.stakes, hkeeper] at this
    exact this.delete
  | case7 h id x found hlast rest tensor howner n =>
    rename_i hkeeper
    have := b.erase found hlast
    rwa [howner, Owner.stakes, hkeeper] at this
  | case8 h id x found hlast rest tensor howner =>
    rename_i hkeeper
    have := b.erase found hlast
    rwa [howner, Owner.stakes, hkeeper] at this
  | case9 h id x found hlast rest =>
    rename_i howner
    have := b.erase found hlast
    rwa [howner] at this

theorem drop {buffer : Buffer} (b : h.Balanced (held + buffer.stakes) numbered) :
    (h.drop buffer).Balanced held numbered :=
  b.releaseId

theorem deleteTensor {t : ManagedTensor} (b : h.Balanced (held + t.keeper.stakes) numbered) :
    (h.delete t).Balanced held numbered := by
  unfold Heap.delete
  split
  next buffer hkeeper =>
    rw [hkeeper] at b
    exact b.drop
  next n hkeeper =>
    rw [hkeeper] at b
    exact b.delete
  next hkeeper => rwa [hkeeper] at b
  next hkeeper => rwa [hkeeper] at b

end Balanced

end Heap

end TensorExchange
