import TensorExchange.Layout.Span
import TensorExchange.Memory.Heap

/-!
Buffers: adopting memory, and viewing it in other layouts.

A view shares the storage of the buffer it was made from, so making one adds a
holder.  A view is checked against the storage; a reshape needs no check, as its
elements are the ones that were packed there before.
-/

namespace TensorExchange

namespace Buffer

/-- Adopts packed elements as a buffer with one axis. -/
def ofBytes (h : Heap) (type : ElementType) (bytes : Array UInt8) : Heap × Buffer :=
  let layout := Layout.vector (UInt64.ofNat (bytes.size / type.size))
  if bytes.isEmpty then
    let (h, s) := h.addEmptyStorage type.size .host
    (h, .ofStorage s layout type)
  else
    let (h, block) := h.addBlock bytes
    let (h, s) := h.addStorage (.adopted block) (.within block 0) bytes.size (some type.size)
      .host false
    (h, .ofStorage s layout type)

/-- The layout of a view, if all its elements lie in the storage. -/
def viewLayout (b : Buffer) (shape : List UInt64) (strides : List Int64) (byteOffset : UInt64) :
    Except LayoutError Layout := do
  let layout ← Layout.strided shape strides byteOffset
  layout.checkWithin b.type.size b.storage.size
  return layout

/-- The same memory with another shape, strides and byte offset. -/
def view (h : Heap) (b : Buffer) (shape : List UInt64) (strides : List Int64)
    (byteOffset : UInt64) : Except (Failure Error Heap) (Heap × Buffer) := do
  let layout ← leaving h (orShapeError (b.viewLayout shape strides byteOffset))
  return (h.retain b.storage, b.withLayout layout)

/-- The layout of a reshape: only packed rows can be given another shape. -/
def reshapeLayout (b : Buffer) (shape : List UInt64) : Except Error Layout := do
  if !b.layout.isContiguous then throw (.shape (.scatteredReshape b.layout.strides))
  orShapeError (b.layout.reshaped shape)

/-- The same elements in the same order with another shape. -/
def reshape (h : Heap) (b : Buffer) (shape : List UInt64) :
    Except (Failure Error Heap) (Heap × Buffer) := do
  let layout ← leaving h (b.reshapeLayout shape)
  return (h.retain b.storage, b.withLayout layout)

end Buffer

end TensorExchange
