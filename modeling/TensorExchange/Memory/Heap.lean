import TensorExchange.Memory.Backend
import TensorExchange.Memory.Table
import TensorExchange.Memory.Tensor

/-!
The heap: all memory, who holds it, and a journal of what was released.

Every storage has an owner, who has to release the memory, and a number of holders: buffers, and
capsules and tensors that carry a buffer.  The memory is released when the last holder lets go.
Where the owner is a tensor that this library exported before, releasing it lets go of the buffer
inside, and so on; every such step removes a storage from the heap, so the chain ends.

Memory is a table of blocks, and a block is there or it is not.  Blocks and storages are numbered
and no number is given twice, so something that was released can not be mistaken for something
new.  Storages and buffers are values that name their number; the heap is the only place where
holders are counted, and `retain` and `releaseId` are all that changes the count.

The journal says what others could tell: memory of a backend that was handed out or taken back,
tensors that other runtimes lent, and deleters that ran.  Nothing reads it but the counters of
accounts and of deletions.
-/

namespace TensorExchange

/-- Whoever releases the memory of a storage. -/
inductive Owner where
  /-- A backend, to which the allocation is returned. -/
  | backend (allocation : Allocation)
  /-- The heap itself: memory that was handed in by value. -/
  | adopted (block : Nat)
  /-- The deleter of an imported tensor. -/
  | imported (tensor : ManagedTensor)
  /-- Nobody: there are no bytes. -/
  | nobody
deriving DecidableEq, Repr

/-- The owner's name in descriptions. -/
def Owner.name : Owner → String
  | backend allocation => allocation.backend.name
  | adopted _ => "adopted"
  | imported _ => "foreign"
  | nobody => "empty"

/-- A storage as the heap knows it. -/
structure Holding where
  owner : Owner
  holders : Nat
deriving DecidableEq, Repr

/-- What happened to memory that others account for. -/
inductive Event where
  | allocated (allocation : Allocation)
  | freed (allocation : Allocation)
  /-- Another runtime made a tensor, with or without a deleter. -/
  | lent (tensor : Nat) (deletes : Bool)
  /-- The deleter of a tensor of another runtime ran. -/
  | deleted (tensor : Nat)
deriving DecidableEq, Repr

/-- Memory, storages, and what happened so far, the latest first. -/
structure Heap where
  machine : Machine
  blocks : Table (Array UInt8)
  holdings : Table Holding
  journal : List Event

namespace Heap

def empty (m : Machine) : Heap := ⟨m, .empty, .empty, []⟩

instance : Inhabited Heap := ⟨empty .boundless⟩

def record (h : Heap) (e : Event) : Heap := { h with journal := e :: h.journal }

/-! ## Memory -/

/-- Adds a block with these bytes. -/
def addBlock (h : Heap) (bytes : Array UInt8) : Heap × Nat :=
  let (blocks, block) := h.blocks.add bytes
  ({ h with blocks }, block)

def dropBlock (h : Heap) (block : Nat) : Heap := { h with blocks := h.blocks.erase block }

/-- The bytes from a place on, none if some of them are no memory. -/
def read? (h : Heap) (p : Pointer) (length : Nat) : Option (Array UInt8) :=
  match p with
  | .fixed _ => none
  | .within block offset => do
    let bytes ← h.blocks.get? block
    let start := offset.toNatClampNeg
    if 0 ≤ offset ∧ start + length ≤ bytes.size then
      some (bytes.extract start (start + length))
    else none

/-- The bytes of a block with others put in from a position on. -/
def overwrite (bytes : Array UInt8) (at' : Nat) (data : List UInt8) : Array UInt8 :=
  (data.foldl (fun (a, i) b => (a.setIfInBounds i b, i + 1)) (bytes, at')).1

/-- Writes bytes from a place on; what is no memory stays as it is. -/
def write (h : Heap) (p : Pointer) (data : List UInt8) : Heap :=
  match p with
  | .fixed _ => h
  | .within block offset =>
    match h.blocks.get? block with
    | some bytes =>
      let within := data.drop (-offset.toInt).toNat
      { h with blocks := h.blocks.set block (overwrite bytes offset.toNatClampNeg within) }
    | none => h

/-! ## Allocations -/

/-- Hands out zeroed memory. -/
def allocate (h : Heap) (b : Backend) (size alignment : Nat) (device : Device) :
    Except (Failure Error Heap) (Heap × Allocation) := do
  leaving h (b.checkRequest h.machine size alignment device)
  let (h, block) := h.addBlock (Array.replicate size 0)
  let allocation : Allocation := ⟨b, block, size, alignment, device⟩
  return (h.record (.allocated allocation), allocation)

/-- Takes back memory that was handed out. -/
def free (h : Heap) (a : Allocation) : Heap := (h.dropBlock a.block).record (.freed a)

/-! ## Holders -/

/-- Adds a storage with one holder. -/
def addStorage (h : Heap) (owner : Owner) (base : Pointer) (size : Nat) (alignment : Option Nat)
    (device : Device) (readOnly : Bool) : Heap × Storage :=
  let (holdings, id) := h.holdings.add ⟨owner, 1⟩
  ({ h with holdings }, ⟨id, base, size, alignment, device, readOnly, owner.name⟩)

/-- Adds a storage without bytes. -/
def addEmptyStorage (h : Heap) (alignment : Nat) (device : Device) : Heap × Storage :=
  h.addStorage .nobody .dangling 0 (some alignment) device false

/-- One more holder. -/
def retain (h : Heap) (s : Storage) : Heap :=
  match h.holdings.get? s.id with
  | some holding =>
    { h with holdings := h.holdings.set s.id { holding with holders := holding.holders + 1 } }
  | none => h

/-- Whether nobody else holds the storage. -/
def isSole (h : Heap) (s : Storage) : Bool :=
  match h.holdings.get? s.id with
  | some holding => holding.holders == 1
  | none => false

/-- One holder less: the last one has the owner release the memory, and a buffer that the owner
held is let go in turn. -/
def releaseId (h : Heap) (id : Nat) : Heap :=
  match _found : h.holdings.get? id with
  | none => h
  | some holding =>
    if 1 < holding.holders then
      { h with holdings := h.holdings.set id { holding with holders := holding.holders - 1 } }
    else
      let rest := { h with holdings := h.holdings.erase id }
      match holding.owner with
      | .backend allocation => rest.free allocation
      | .adopted block => rest.dropBlock block
      | .imported tensor =>
        match tensor.keeper with
        | .exported buffer => releaseId rest buffer.storage.id
        | .runtime t true => rest.record (.deleted t)
        | .runtime _ false => rest
        | .nobody => rest
      | .nobody => rest
termination_by h.holdings.size
decreasing_by exact Table.size_erase_lt _found

/-- Lets go of a buffer. -/
def drop (h : Heap) (b : Buffer) : Heap := h.releaseId b.storage.id

/-- Runs the deleter of a tensor, if it has one. -/
def delete (h : Heap) (t : ManagedTensor) : Heap :=
  match t.keeper with
  | .exported buffer => h.drop buffer
  | .runtime tensor true => h.record (.deleted tensor)
  | .runtime _ false => h
  | .nobody => h

/-- How often the deleter of a tensor ran. -/
def deletions (h : Heap) (tensor : Nat) : Nat := h.journal.count (.deleted tensor)

end Heap

end TensorExchange
