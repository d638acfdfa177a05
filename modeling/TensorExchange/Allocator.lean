import TensorExchange.Memory.Heap

/-!
Allocators: backends with limits on what one buffer may take.

The checks come in a fixed order: the device, the shape, the size in bytes, the limit, and last the
backend's own.  So of several things that are wrong with a request the first in this order is the
one that is reported, and whatever an allocator refuses by itself has not reached the backend.

A buffer without bytes never asks the backend.  It gets a storage that nobody owns, and there is
nothing to give back.

The alignment of memory is the least one of the allocator or the size of an element, whichever is
larger, so a client's alignment can only be raised.
-/

namespace TensorExchange

/-- A backend with the least alignment and the most bytes of an allocation. -/
structure Allocator where
  backend : Backend
  alignment : Nat
  limit : Nat
deriving DecidableEq, Repr

namespace Allocator

def ofConfig (b : Backend) (c : Config) : Allocator := ⟨b, c.alignment, c.maxAllocation⟩

/-- The allocator as descriptions show it. -/
def describe (a : Allocator) : String :=
  s!"Allocator \x7b backend: MemoryBackend({a.backend.name}), alignment: {a.alignment}, " ++
    s!"max_allocation_bytes: {a.limit} \x7d"

/-- The packed layout of a request and its bytes, if the allocator admits it. -/
def plan (a : Allocator) (type : ElementType) (shape : List UInt64) (device : Device) :
    Except Error (Layout × Nat) := do
  if !a.backend.supports device then
    throw (.allocation (.unsupportedDevice a.backend.name device))
  let layout ← orLayoutError (Layout.contiguous shape)
  match layout.bytes? type.size with
  | none => throw (.allocation (.oversizedElements shape type))
  | some n =>
    if a.limit < n then throw (.allocation (.aboveLimit n a.limit))
    return (layout, n)

/-- The alignment of the memory of elements of a type. -/
def alignmentFor (a : Allocator) (type : ElementType) : Nat := max a.alignment type.size

/-- A new zeroed buffer with packed rows. -/
def allocate (a : Allocator) (h : Heap) (type : ElementType) (shape : List UInt64)
    (device : Device) : Except (Failure Error Heap) (Heap × Buffer) := do
  let (layout, n) ← leaving h (a.plan type shape device)
  let alignment := a.alignmentFor type
  if n = 0 then
    let (h, s) := h.addEmptyStorage alignment device
    return (h, .ofStorage s layout type)
  else
    let (h, allocation) ← h.allocate a.backend n alignment device
    let (h, s) := h.addStorage (.backend allocation) (.within allocation.block 0) n
      (some alignment) device false
    return (h, .ofStorage s layout type)

end Allocator

end TensorExchange
