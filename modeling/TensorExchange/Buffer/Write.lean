import TensorExchange.Allocator
import TensorExchange.Buffer.Read

/-!
Writing buffers, and copying them.

Writing needs packed rows in host memory, a buffer that is not read-only, and
that nobody else holds the storage.  A copy is packed anew, in memory of its own.
-/

namespace TensorExchange

/-- A range of bytes that may be written. -/
structure Window where
  start : Pointer
  size : Nat
deriving DecidableEq, Repr

namespace Buffer

/-- The bytes of a buffer for writing. -/
def window (h : Heap) (b : Buffer) : Except Error Window := do
  b.checkHost
  b.checkContiguous
  if b.readOnly then throw (.invalidTensor .readOnly)
  let size ← b.packedSize b.count
  if !h.isSole b.storage then throw (.shape .sharedStorage)
  if size = 0 then return ⟨.dangling, 0⟩
  return ⟨b.storage.base.shift b.layout.byteOffset.toNat, size⟩

/-- The elements of a buffer for writing, whose alignment they need. -/
def elementWindow (h : Heap) (b : Buffer) (type : ElementType) : Except Error Window := do
  b.checkType type
  let w ← b.window h
  if w.start.isAligned type.size then return w else throw (.shape (.misaligned type))

end Buffer

/-- Writes bytes into a window from a position on and drops what does not fit. -/
def Heap.writeWindow (h : Heap) (w : Window) (position : Nat) (data : List UInt8) : Heap :=
  h.write (w.start.shift position) (data.take (w.size - position))

namespace Buffer

/-- Writes bytes from a position on; gives the bytes that could have been written. -/
def writeBytes (h : Heap) (b : Buffer) (position : Nat) (data : List UInt8) :
    Except (Failure Error Heap) (Heap × Nat) := do
  let w ← leaving h (b.window h)
  return (h.writeWindow w position data, w.size)

/-- Writes elements from a position on; gives the elements that could have been written. -/
def writeElements (h : Heap) (b : Buffer) (type : ElementType) (position : Nat)
    (data : List UInt8) : Except (Failure Error Heap) (Heap × Nat) := do
  let w ← leaving h (b.elementWindow h type)
  return (h.writeWindow w (position * type.size) data, w.size / type.size)

/-- Fills a whole buffer, whose bytes must be as many. -/
def fill (h : Heap) (b : Buffer) (data : Array UInt8) : Except (Failure Error Heap) Heap := do
  let w ← leaving h (b.window h)
  if w.size = data.size then return h.writeWindow w 0 data.toList
  else throw ⟨.fault (.sliceOutOfRange 0 data.size w.size), h⟩

/-- Accepts a device between which and another one memory is copied. -/
def checkCopyable (d : Device) : Except Error Unit :=
  if d.isHostAccessible then .ok () else .error (.unsupportedDevice d.kind.code)

/-- A packed copy on a device, in new memory.  If the copy cannot be filled its memory is given
back. -/
def copyTo (h : Heap) (b : Buffer) (device : Device) (a : Allocator) :
    Except (Failure Error Heap) (Heap × Buffer) := do
  leaving h (checkCopyable b.device)
  leaving h (checkCopyable device)
  let data ← leaving h (b.gather h b.count)
  let (h, copy) ← a.allocate h b.type b.layout.shape device
  let h ← (copy.fill h data).mapError (.within (Heap.drop · copy))
  return (h, copy)

end Buffer

end TensorExchange
