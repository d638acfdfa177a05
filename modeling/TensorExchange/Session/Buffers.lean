import TensorExchange.Session.Memory

/-!
Commands on buffers.

Vectors that are too long, and parts that no array is taken apart into, are refused,
as no client can have them.  Two typed accesses are refused where the alignment of a
slice without bytes would decide, since such a slice lies nowhere in particular.
-/

namespace TensorExchange

/-- The commands on buffers. -/
inductive BufferCommand where
  | adopt (out : String) (type : ElementType) (data : Array UInt8)
  | adoptArray (out : String) (array : ArrayParts)
  | view (name out : String) (shape : List UInt64) (strides : List Int64) (byteOffset : UInt64)
  | reshape (name out : String) (shape : List UInt64)
  | describe (name : String)
  | shares (name other : String)
  | bytes (name : String)
  | elements (name : String) (type : ElementType)
  | packed (name : String) (type : ElementType)
  | head (name : String) (type : ElementType) (n : Nat)
  | headBytes (name : String) (n : Nat)
  | arrayView (name : String) (type : ElementType)
  | toArray (name : String) (type : ElementType)
  | writeBytes (name : String) (position : Nat) (data : List UInt8)
  | writeElements (name : String) (type : ElementType) (position : Nat) (data : List UInt8)
  | copy (name allocator out : String) (device : Device)
  | drop (name : String)

/-- How many elements of an array view a session shows. -/
def viewPreview : Nat := 64

namespace Session

/-- Refuses elements whose alignment nothing decides. -/
def checkDetermined (size bytes : Nat) : Except Refusal Unit :=
  if bytes = 0 ∧ 1 < size then .error .undetermined else .ok ()

/-- Refuses more bytes than a vector can hold. -/
def checkVector (data : Array UInt8) : Except Refusal Unit :=
  if data.size ≤ maxSize then .ok () else .error .undetermined

/-- Refuses what is no array. -/
def checkArray (a : ArrayParts) : Except Refusal Unit :=
  if a.Valid then .ok () else .error .undetermined

def viewBuffer (s : Session) (name out : String) (shape : List UInt64) (strides : List Int64)
    (byteOffset : UInt64) : Except (Failure Refusal Session) (Session × Reply) := do
  let b ← leaving s (need s.buffers name)
  let (h, v) ← (b.view s.heap shape strides byteOffset).mapError s.onHeap
  return (s.putBuffer h out v, .done)

def reshapeBuffer (s : Session) (name out : String) (shape : List UInt64) :
    Except (Failure Refusal Session) (Session × Reply) := do
  let b ← leaving s (need s.buffers name)
  let (h, v) ← (b.reshape s.heap shape).mapError s.onHeap
  return (s.putBuffer h out v, .done)

def adoptBytes (s : Session) (out : String) (type : ElementType) (data : Array UInt8) :
    Except (Failure Refusal Session) (Session × Reply) := do
  leaving s (checkVector data)
  let (h, b) := Buffer.ofBytes s.heap type data
  return (s.putBuffer h out b, .done)

def adoptArray (s : Session) (out : String) (a : ArrayParts) :
    Except (Failure Refusal Session) (Session × Reply) := do
  leaving s (checkArray a)
  let (h, b) ← (Buffer.ofArray s.heap a).mapError s.onHeap
  return (s.putBuffer h out b, .done)

def sharesStorage (s : Session) (name other : String) : Outcome := do
  let a ← need s.buffers name
  let b ← need s.buffers other
  return .flag (a.sharesStorage b)

/-! ## Reading -/

def readElements (s : Session) (name : String) (type : ElementType) : Outcome := do
  let b ← need s.buffers name
  checkDetermined type.size b.storage.size
  return .scalars (type.decodeAll (← attempt (b.elements s.heap type)))

def readView (s : Session) (name : String) (type : ElementType) : Outcome := do
  let b ← need s.buffers name
  let v ← attempt (b.arrayView type)
  let data ← attempt (do v.headBytes (← s.heap.storageBytes b.storage) type.size viewPreview)
  return .view v.shape v.count (type.decodeAll data)

def readArray (s : Session) (name : String) (type : ElementType) : Outcome := do
  let b ← need s.buffers name
  let a ← attempt (b.toArray PackedArray.pack s.heap type)
  return .array a.shape (type.decodeAll a.data)

/-! ## Writing -/

def writeBuffer (s : Session) (name : String) (position : Nat) (data : List UInt8) :
    Except (Failure Refusal Session) (Session × Reply) := do
  let b ← leaving s (need s.buffers name)
  let (heap, n) ← (b.writeBytes s.heap position data).mapError s.onHeap
  return ({ s with heap }, .number n)

def writeTyped (s : Session) (name : String) (type : ElementType) (position : Nat)
    (data : List UInt8) : Except (Failure Refusal Session) (Session × Reply) := do
  let b ← leaving s (need s.buffers name)
  leaving s (checkDetermined type.size b.count)
  let (heap, n) ← (b.writeElements s.heap type position data).mapError s.onHeap
  return ({ s with heap }, .number n)

def copyBuffer (s : Session) (name allocator out : String) (device : Device) :
    Except (Failure Refusal Session) (Session × Reply) := do
  let b ← leaving s (need s.buffers name)
  let a ← leaving s (need s.allocators allocator)
  let (h, copy) ← (b.copyTo s.heap device a).mapError s.onHeap
  return (s.putBuffer h out copy, .done)

def dropBuffer (s : Session) (name : String) :
    Except (Failure Refusal Session) (Session × Reply) := do
  let b ← leaving s (need s.buffers name)
  return ({ s.eraseBuffer name with heap := s.heap.drop b }, .done)

def runBuffers (s : Session) : BufferCommand → Session × Outcome
  | .adopt out type data => settle (s.adoptBytes out type data)
  | .adoptArray out a => settle (s.adoptArray out a)
  | .view name out shape strides byteOffset =>
    settle (s.viewBuffer name out shape strides byteOffset)
  | .reshape name out shape => settle (s.reshapeBuffer name out shape)
  | .describe name => (s, do return .buffer (← need s.buffers name))
  | .shares name other => (s, s.sharesStorage name other)
  | .bytes name =>
    (s, do return .bytes (← attempt ((← need s.buffers name).bytes s.heap)))
  | .elements name type => (s, s.readElements name type)
  | .packed name type =>
    (s, do
      let b ← need s.buffers name
      return .scalars (type.decodeAll (← attempt (b.toPacked s.heap type))))
  | .head name type n =>
    (s, do
      let b ← need s.buffers name
      return .scalars (type.decodeAll (← attempt (b.head s.heap type n))))
  | .headBytes name n =>
    (s, do return .bytes (← attempt ((← need s.buffers name).headBytes s.heap n)))
  | .arrayView name type => (s, s.readView name type)
  | .toArray name type => (s, s.readArray name type)
  | .writeBytes name position data => settle (s.writeBuffer name position data)
  | .writeElements name type position data => settle (s.writeTyped name type position data)
  | .copy name allocator out device => settle (s.copyBuffer name allocator out device)
  | .drop name => settle (s.dropBuffer name)

end Session

end TensorExchange
