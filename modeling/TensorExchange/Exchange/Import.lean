import TensorExchange.Layout.Span
import TensorExchange.Memory.Heap

/-!
Import: reading the managed tensors of other runtimes, and adopting them.

A tensor is described first, which takes nothing from its owner and may refuse it; each check says
that it leaves the heap, so its deleter has not run.  The description says which bytes the tensor
reaches and how its elements lie in them, counted from the lowest byte, so that its byte offset is
never negative.  Adopting makes a storage of those bytes, which the deleter of the tensor releases.

The checks come in a fixed order: the version, the type, the device, the rank with its extents,
the strides, the size of the shape, and last the bytes that the elements reach.  A tensor without
elements reaches none and is not asked where it lies.  All of this is about numbers.  Whether there
is memory behind a pointer can not be asked, so it is never read before a client asks for the
elements.
-/

namespace TensorExchange

/-- What a tensor was found to be. -/
structure Described where
  layout : Layout
  type : ElementType
  device : Device
  base : Pointer
  size : Nat
  /-- The alignment of the base, none for a tensor this library handed out before. -/
  alignment : Option Nat
  readOnly : Bool
deriving DecidableEq, Repr

namespace Described

/-- Accepts the version of a tensor that this library understands. -/
def checkEnvelope : Envelope → Except Error Unit
  | .legacy => .ok ()
  | .versioned v _ =>
    if v.major = Version.current.major then .ok ()
    else .error (.unsupportedVersion v.major v.minor)

def readType (t : TypeTriple) : Except Error ElementType :=
  match ElementType.ofTriple? t with
  | some type => .ok type
  | none => .error (.unsupportedElementType t)

def readDevice (p : DevicePair) : Except Error Device :=
  if p.id < 0 then .error (.invalidTensor (.negativeDevice p.id))
  else
    match Device.ofPair? p with
    | some d => .ok d
    | none => .error (.unsupportedDevice p.type)

/-- The extent of an axis, which must not be negative. -/
def readExtent (d : Int64) : Except Error UInt64 :=
  if d < 0 then .error (.invalidTensor (.negativeExtent d)) else .ok d.toUInt64

/-- The extents of as many axes as the rank says. -/
def readShape (r : TensorRecord) : Except Error (List UInt64) :=
  if r.rank < 0 then .error (.invalidTensor (.negativeRank r.rank))
  else if r.rank = 0 then .ok []
  else
    match r.shape with
    | none => .error (.invalidTensor .nullShape)
    | some extents => (extents.take r.rank.toNatClampNeg).mapM readExtent

/-- The strides of the axes; packed rows where the record has none. -/
def readStrides (r : TensorRecord) (shape : List UInt64) : Except Error (List Int64) :=
  match r.strides with
  | some strides =>
    if r.rank = 0 then .ok [] else .ok (strides.take r.rank.toNatClampNeg)
  | none => orInvalidTensor (rowMajorStrides shape)

/-- Bytes that a tensor with elements reaches: where they begin, how many they are, and how far
its first element lies behind the lowest. -/
structure Reach where
  base : Pointer
  size : Nat
  first : UInt64
deriving DecidableEq, Repr

/-- The bytes that a span covers when it is counted from the first element. -/
def readReach (r : TensorRecord) (s : Span) : Except Error Reach := do
  if r.data.isNull then throw (.invalidTensor .nullData)
  if (wordBound : Int) ≤ s.length then throw (.invalidTensor .oversizedSpan)
  if maxSize < r.byteOffset.toNat then throw (.invalidTensor .offsetOutOfRange)
  if s.start < -signedBound then throw (.invalidTensor .oversizedSpan)
  let base := (r.data.shift r.byteOffset.toNat).shift s.start
  if base.isNull then throw (.invalidTensor .nullBase)
  return ⟨base, s.length.toNat, UInt64.ofNat s.start.natAbs⟩

/-- The alignment that imported memory is said to have; a tensor that comes back to this library
says none. -/
def reportedAlignment (t : ManagedTensor) (known : Nat) : Option Nat :=
  if t.handedOut then none else some known

/-- Reads a tensor without taking it, in a heap that no check touches. -/
def read (h : Heap) (t : ManagedTensor) : Except (Failure Error Heap) (Heap × Described) := do
  leaving h (checkEnvelope t.envelope)
  let type ← leaving h (readType t.record.triple)
  let device ← leaving h (readDevice t.record.device)
  let shape ← leaving h (readShape t.record)
  let strides ← leaving h (readStrides t.record shape)
  let relative ← leaving h (orInvalidTensor (Layout.strided shape strides 0))
  match ← leaving h (orInvalidTensor (relative.span type.size)) with
  | none =>
    return (h, ⟨relative, type, device, .dangling, 0, reportedAlignment t type.size,
      t.envelope.isReadOnly⟩)
  | some span =>
    let reach ← leaving h (readReach t.record span)
    return (h, ⟨{ relative with byteOffset := reach.first }, type, device, reach.base, reach.size,
      reportedAlignment t reach.base.alignment, t.envelope.isReadOnly⟩)

/-- What a tensor is found to be, or why it is refused; the heap has no part in that. -/
def ofTensor (t : ManagedTensor) : Except Error Described :=
  match read default t with
  | .ok (_, d) => .ok d
  | .error f => .error f.cause

end Described

/-- Adopts a tensor that was described: a buffer over the bytes it reaches. -/
def Heap.adopt (h : Heap) (t : ManagedTensor) (d : Described) : Heap × Buffer :=
  let (h, s) := h.addStorage (.imported t) d.base d.size d.alignment d.device d.readOnly
  (h, .ofStorage s d.layout d.type)

end TensorExchange
