import TensorExchange.Layout.Order
import TensorExchange.Memory.Pointer
import TensorExchange.Negotiation

/-!
Tensors in their three forms: storage with the buffers that view it, the record that the exchange
format describes a tensor by, and the managed tensor, which is a record together with whoever
keeps the memory.

Storage and buffers are plain values; how many of them there are is counted by the heap.

A record is what crosses between runtimes, so it is kept as it is written there: signed words for
extents, strides and the rank, null pointers for a shape or for strides that are not given, and an
offset in bytes from a data pointer.  What the numbers mean is up to whoever reads them; a record
of this library is written by an export and read by an import like any other.

The keeper of a managed tensor stands for its deleter.  An exported tensor holds the buffer it was
made of and lets go of it when it is deleted, while another runtime is only told, which is what
the journal of the heap is for.
-/

namespace TensorExchange

/-- Memory that one or several buffers view.  Two buffers share their storage when its number is
the same. -/
structure Storage where
  id : Nat
  base : Pointer
  size : Nat
  /-- The alignment of the base, none where it is that of a tensor this library handed out
  before. -/
  alignment : Option Nat
  device : Device
  readOnly : Bool
  /-- The name of whoever releases the memory. -/
  owner : String
deriving DecidableEq, Repr

/-- A typed view of a storage. -/
structure Buffer where
  storage : Storage
  layout : Layout
  type : ElementType
  /-- Whether writing through this buffer, and through those made from it, is refused. -/
  readOnly : Bool
deriving DecidableEq, Repr

namespace Buffer

/-- A buffer over a storage; it forbids writing when the storage does. -/
def ofStorage (s : Storage) (layout : Layout) (type : ElementType) : Buffer :=
  ⟨s, layout, type, s.readOnly⟩

def device (b : Buffer) : Device := b.storage.device

/-- How many elements the buffer has. -/
def count (b : Buffer) : Nat := b.layout.count

/-- The bytes the elements take when packed, none if memory cannot hold them. -/
def bytes? (b : Buffer) : Option Nat := b.layout.bytes? b.type.size

/-- Another layout over the same storage. -/
def withLayout (b : Buffer) (layout : Layout) : Buffer := { b with layout }

/-- The buffer with writing refused. -/
def asReadOnly (b : Buffer) : Buffer := { b with readOnly := true }

def sharesStorage (a b : Buffer) : Bool := a.storage.id == b.storage.id

/-- The buffer as descriptions show it. -/
def describe (b : Buffer) : String :=
  s!"Buffer \x7b shape: {Text.listing b.layout.shape}, " ++
    s!"strides: {Text.listing b.layout.strides}, " ++
    s!"dtype: {b.type.tag}, device: {b.device.describe}, byte_offset: {b.layout.byteOffset}, " ++
    s!"owner: \"{b.storage.owner}\" \x7d"

end Buffer

/-! ## The exchange format -/

/-- The record by which the exchange format describes a tensor. -/
structure TensorRecord where
  data : Pointer
  device : DevicePair
  rank : Int32
  triple : TypeTriple
  /-- The extents, none for a null pointer. -/
  shape : Option (List Int64)
  /-- The strides in elements, none for a null pointer, which means packed rows. -/
  strides : Option (List Int64)
  /-- The bytes from the data to the first element. -/
  byteOffset : UInt64
deriving DecidableEq, Repr

/-- The record in which everything is zero. -/
def TensorRecord.zero : TensorRecord := ⟨.null, ⟨0, 0⟩, 0, ⟨0, 0, 0⟩, none, none, 0⟩

/-- What a managed tensor states beside the record. -/
inductive Envelope where
  | legacy
  | versioned (version : Version) (flags : UInt64)
deriving DecidableEq, Repr

namespace Envelope

/-- The flag that forbids writing. -/
def readOnlyFlag : UInt64 := 1

/-- The flag of a tensor that was copied for its consumer. -/
def copiedFlag : UInt64 := 2

/-- The flag of elements smaller than a byte that are padded to one. -/
def paddedFlag : UInt64 := 4

def format : Envelope → CapsuleFormat
  | legacy => .legacy
  | versioned .. => .versioned

/-- Whether the flags forbid writing; a legacy tensor has none. -/
def isReadOnly : Envelope → Bool
  | legacy => false
  | versioned _ flags => flags &&& readOnlyFlag != 0

/-- The envelope of an exported tensor. -/
def ofFormat (format : CapsuleFormat) (readOnly : Bool) : Envelope :=
  match format with
  | .legacy => legacy
  | .versioned => versioned .current (if readOnly then readOnlyFlag else 0)

end Envelope

/-- Whoever keeps the memory of a managed tensor alive until it is deleted. -/
inductive Keeper where
  /-- A buffer of this library, which the tensor holds. -/
  | exported (buffer : Buffer)
  /-- Another runtime, which numbers its tensors; it may give no deleter. -/
  | runtime (tensor : Nat) (deletes : Bool)
  | nobody
deriving DecidableEq, Repr

/-- A tensor on its way between two owners. -/
structure ManagedTensor where
  envelope : Envelope
  record : TensorRecord
  keeper : Keeper
  /-- Whether a capsule of this library handed the tensor out. -/
  handedOut : Bool
deriving DecidableEq, Repr

namespace ManagedTensor

def format (t : ManagedTensor) : CapsuleFormat := t.envelope.format

/-- The empty tensor of a form, which nobody keeps. -/
def zero (format : CapsuleFormat) : ManagedTensor :=
  ⟨.ofFormat format false, .zero, .nobody, false⟩

/-- Whether deleting the tensor does anything. -/
def hasDeleter (t : ManagedTensor) : Bool :=
  match t.keeper with
  | .exported _ => true
  | .runtime _ deletes => deletes
  | .nobody => false

end ManagedTensor

end TensorExchange
