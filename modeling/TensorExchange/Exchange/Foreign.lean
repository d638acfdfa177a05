import TensorExchange.Memory.Heap

/-!
Tensors of other runtimes, as those runtimes make them.

Their memory is either bytes that the runtime holds, the data pointing somewhere
into them, or an address that is never read.  The runtime numbers its tensors,
so that it can be told how often the deleter of each one ran.
-/

namespace TensorExchange

/-- The memory behind a tensor of another runtime. -/
inductive ForeignMemory where
  | address (address : UInt64)
  /-- Bytes, and the position among them that the data points to. -/
  | bytes (bytes : Array UInt8) (position : Int64)
deriving DecidableEq, Repr

/-- What another runtime puts into a managed tensor. -/
structure ForeignTensor where
  envelope : Envelope
  memory : ForeignMemory
  device : DevicePair
  rank : Int32
  triple : TypeTriple
  shape : Option (List Int64)
  strides : Option (List Int64)
  byteOffset : UInt64
  /-- Whether the tensor has a deleter. -/
  deletes : Bool
deriving DecidableEq, Repr

/-- Lays out the memory of a tensor of another runtime. -/
def Heap.placeForeign (h : Heap) (m : ForeignMemory) : Heap × Pointer :=
  match m with
  | .address address => (h, .fixed address)
  | .bytes bytes position =>
    let (h, block) := h.addBlock bytes
    (h, .within block position)

/-- The managed tensor that another runtime makes, under a number of its own. -/
def Heap.addForeign (h : Heap) (f : ForeignTensor) (number : Nat) : Heap × ManagedTensor :=
  let (h, data) := h.placeForeign f.memory
  (h.record (.lent number f.deletes),
    ⟨f.envelope, ⟨data, f.device, f.rank, f.triple, f.shape, f.strides, f.byteOffset⟩,
      .runtime number f.deletes, false⟩)

end TensorExchange
