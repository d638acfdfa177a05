import TensorExchange.Buffer.Basic
import TensorExchange.Layout.Index

/-!
Reading buffers.

The bytes of packed rows are read as one slice.  Elements that lie scattered are
gathered in row-major order: the index moves on like an odometer and each element
is read at its displacement.  Offsets are computed in signed words and slices
are checked, so a step outside the memory shows as a fault.
-/

namespace TensorExchange

/-- The number if it fits a signed word. -/
def checkedWord (n : Int) : Except Error Int :=
  if -signedBound ≤ n ∧ n < signedBound then .ok n else .error (.fault .offsetOverflow)

/-- The bytes from `start` to `stop` of a piece of memory. -/
def slice (bytes : Array UInt8) (start stop : Int) : Except Error (Array UInt8) :=
  if 0 ≤ start ∧ start ≤ stop ∧ stop ≤ bytes.size then
    .ok (bytes.extract start.toNat stop.toNat)
  else .error (.fault (.sliceOutOfRange start stop bytes.size))

/-- The elements between an index and the first element, in checked arithmetic. -/
def checkedDisplacement : Int → List Axis → List Nat → Except Error Int
  | sum, a :: axes, i :: index => do
    let step ← checkedWord (i * a.stride.toInt)
    let sum ← checkedWord (sum + step)
    checkedDisplacement sum axes index
  | sum, _, _ => .ok sum

namespace Heap

/-- All bytes of a storage. -/
def storageBytes (h : Heap) (s : Storage) : Except Error (Array UInt8) :=
  if s.size = 0 then .ok #[]
  else
    match h.read? s.base s.size with
    | some bytes => .ok bytes
    | none => .error (.fault (.sliceOutOfRange 0 s.size 0))

end Heap

namespace Buffer

/-! ## Checks -/

/-- Accepts elements of the buffer's own type. -/
def checkType (b : Buffer) (type : ElementType) : Except Error Unit :=
  if type = b.type then .ok () else .error (.elementTypeMismatch b.type type)

/-- Accepts a buffer whose memory the host can read. -/
def checkHost (b : Buffer) : Except Error Unit := Accept.host.check b.device

/-- Accepts a buffer with packed rows. -/
def checkContiguous (b : Buffer) : Except Error Unit :=
  if b.layout.isContiguous then .ok () else .error (.shape .scatteredView)

/-- The bytes that `n` elements take, if memory can hold them. -/
def packedSize (b : Buffer) (n : Nat) : Except Error Nat :=
  if n * b.type.size ≤ maxSize then .ok (n * b.type.size)
  else .error (.allocation (.unmaterializable n b.type))

/-! ## Slices -/

/-- The bytes of packed rows. -/
def bytes (h : Heap) (b : Buffer) : Except Error (Array UInt8) := do
  b.checkHost
  b.checkContiguous
  let size ← b.packedSize b.count
  let start : Int := b.layout.byteOffset.toNat
  slice (← h.storageBytes b.storage) start (start + size)

/-- Where the packed rows begin; a storage without bytes lies nowhere in particular. -/
def start (b : Buffer) : Pointer :=
  if b.storage.size = 0 then .dangling else b.storage.base.shift b.layout.byteOffset.toNat

/-- The packed rows as elements of a type, whose alignment they need. -/
def elements (h : Heap) (b : Buffer) (type : ElementType) : Except Error (Array UInt8) := do
  b.checkType type
  let data ← b.bytes h
  if b.start.isAligned type.size then return data else throw (.shape (.misaligned type))

/-! ## Gathering -/

/-- The bytes of the element at an index. -/
def elementAt (b : Buffer) (memory : Array UInt8) (index : List Nat) :
    Except Error (Array UInt8) := do
  let displacement ← checkedDisplacement 0 b.layout.axes index
  let distance ← checkedWord (displacement * b.type.size)
  let start ← checkedWord (b.layout.byteOffset.toNat + distance)
  slice memory start (start + b.type.size)

/-- Appends the bytes of `n` elements from an index on. -/
def gatherFrom (b : Buffer) (memory : Array UInt8) :
    Nat → List Nat → Array UInt8 → Except Error (Array UInt8)
  | 0, _, out => .ok out
  | n + 1, index, out => do
    let element ← b.elementAt memory index
    gatherFrom b memory n (advance b.layout.axes index).1 (out ++ element)

/-- The bytes of the first `n` elements in row-major order. -/
def gather (h : Heap) (b : Buffer) (n : Nat) : Except Error (Array UInt8) := do
  if n = 0 then return #[]
  let size ← b.packedSize n
  let memory ← h.storageBytes b.storage
  if b.layout.isContiguous then
    let start : Int := b.layout.byteOffset.toNat
    slice memory start (start + size)
  else
    if h.machine.refuses size 1 then throw (.allocation (.gatherTooLarge size))
    b.gatherFrom memory n (b.layout.axes.map fun _ => 0) #[]

/-- The bytes of the first `n` elements, of all if there are fewer. -/
def headBytes (h : Heap) (b : Buffer) (n : Nat) : Except Error (Array UInt8) := do
  b.checkHost
  b.gather h (min n b.count)

/-- The first `n` elements of a type. -/
def head (h : Heap) (b : Buffer) (type : ElementType) (n : Nat) : Except Error (Array UInt8) := do
  b.checkType type
  b.headBytes h n

/-- All elements of a type. -/
def toPacked (h : Heap) (b : Buffer) (type : ElementType) : Except Error (Array UInt8) :=
  b.head h type b.count

end Buffer

end TensorExchange
