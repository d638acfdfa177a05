import TensorExchange.Buffer.Read
import TensorExchange.Exchange.Export
import TensorExchange.Exchange.Import

/-!
Capsules: handing a tensor over exactly once.

A capsule carries a tensor until a consumer takes it, as a buffer or as a managed tensor, or until
the capsule is dropped and deletes it.  What the tensor is can be read at any time, its memory
only as long as it is there.

There is one step in which a capsule is consumed, `take`.  It asks first whether the capsule was
consumed before, then whether this consumer may, and then takes what the capsule carries and
changes its state.  What it leaves where it fails is part of its result: the capsule as it was when
a check failed, and the emptied one when nothing was in it.  That the last case never comes about
is not assumed here but proved, from how capsules are made.

A capsule around a buffer and one around a tensor of another runtime differ in what a consumer
gets.  A buffer comes out as it is, and a tensor is adopted then and not before; the other way
round, a buffer is exported when its managed tensor is taken, with the options it was wrapped
with, and a tensor is handed on as it came.
-/

namespace TensorExchange

/-- What a capsule says about its tensor. -/
structure CapsuleInfo where
  layout : Layout
  type : ElementType
  device : Device
  format : CapsuleFormat
  readOnly : Bool
deriving DecidableEq, Repr

/-- The bytes the elements take when packed, none if memory cannot hold them. -/
def CapsuleInfo.bytes? (i : CapsuleInfo) : Option Nat := i.layout.bytes? i.type.size

/-- How a buffer is exported. -/
structure ExportOptions where
  format : CapsuleFormat
  readOnly : Bool
deriving DecidableEq, Repr

/-- The options of a configuration. -/
def ExportOptions.ofConfig (c : Config) : ExportOptions := ⟨c.format, c.readOnlyExports⟩

/-- A versioned tensor that may be written. -/
def ExportOptions.default : ExportOptions := ⟨.versioned, false⟩

/-- Whether the tensor of a capsule was taken. -/
inductive CapsuleState where
  | unconsumed
  | consumed
deriving DecidableEq, Repr

/-- The state as descriptions show it. -/
def CapsuleState.name : CapsuleState → String
  | unconsumed => "Unconsumed"
  | consumed => "Consumed"

/-- What a capsule carries: none after it was consumed. -/
inductive Contents where
  /-- A buffer of this library, which is exported when its managed tensor is taken. -/
  | native (buffer : Option Buffer)
  /-- A tensor of another runtime, as it was described. -/
  | foreign (described : Described) (tensor : Option ManagedTensor)
deriving DecidableEq, Repr

/-- A tensor that is handed over at most once. -/
structure Capsule where
  info : CapsuleInfo
  /-- The memory that the layout is counted from. -/
  base : Pointer
  state : CapsuleState
  contents : Contents
deriving DecidableEq, Repr

namespace Capsule

/-! ## Making capsules -/

/-- A capsule that carries a buffer. -/
def wrapWith (b : Buffer) (o : ExportOptions) : Capsule :=
  ⟨⟨b.layout, b.type, b.device, o.format, o.readOnly⟩, b.storage.base, .unconsumed,
    .native (some b)⟩

/-- A capsule that carries a buffer, with the default options. -/
def wrap (b : Buffer) : Capsule := wrapWith b .default

/-- A capsule for a buffer that must have a type and a device; packed rows are given the shape.
The buffer is let go if it does not fit. -/
def wrapAs (h : Heap) (b : Buffer) (shape : List UInt64) (type : ElementType) (device : Device) :
    Except (Failure Error Heap) (Heap × Capsule) := do
  if b.type ≠ type then throw ⟨.elementTypeMismatch b.type type, h.drop b⟩
  if b.device ≠ device then throw ⟨.deviceMismatch device.display b.device, h.drop b⟩
  if b.layout.shape = shape then return (h, wrap b)
  let (h, reshaped) ← (b.reshape h shape).mapError (.within (Heap.drop · b))
  return (h.drop b, wrap reshaped)

/-- A capsule that carries a tensor of another runtime, as it was described. -/
def ofDescribed (d : Described) (t : ManagedTensor) : Capsule :=
  ⟨⟨d.layout, d.type, d.device, t.format, d.readOnly⟩, d.base, .unconsumed, .foreign d (some t)⟩

/-- Imports a tensor of another runtime.  A tensor that is refused still has its owner. -/
def importTensor (h : Heap) (t : ManagedTensor) :
    Except (Failure Error Heap) (Heap × Capsule) := do
  let (h, d) ← Described.read h t
  return (h, ofDescribed d t)

/-- The capsule that a tensor of another runtime is imported as, whatever the heap. -/
def ofTensor (t : ManagedTensor) : Except Error Capsule := do
  let d ← Described.ofTensor t
  return ofDescribed d t

/-! ## State -/

def isNative (c : Capsule) : Bool :=
  match c.contents with
  | .native _ => true
  | .foreign .. => false

/-- Whether the tensor was taken. -/
def isConsumed (c : Capsule) : Bool := c.state != .unconsumed

/-- The state as descriptions show it. -/
def stateName (c : Capsule) : String := c.state.name

/-- The capsule with nothing left to carry. -/
def emptied (c : Capsule) : Capsule :=
  match c.contents with
  | .native _ => { c with contents := .native none }
  | .foreign d _ => { c with contents := .foreign d none }

/-- The capsule after its tensor was taken. -/
def spent (c : Capsule) : Capsule := { c.emptied with state := .consumed }

/-- The capsule as descriptions show it. -/
def describe (c : Capsule) : String :=
  s!"Capsule \x7b shape: {Text.listing c.info.layout.shape}, dtype: {c.info.type.tag}, " ++
    s!"device: {c.info.device.describe}, format: {c.info.format.tag}, state: {c.stateName}, " ++
    s!"native: {c.isNative} \x7d"

/-! ## Handing over -/

/-- The buffer, refused to writing if the capsule says so. -/
def deliver (c : Capsule) (b : Buffer) : Buffer := if c.info.readOnly then b.asReadOnly else b

/-- What is taken from a capsule. -/
inductive Cargo where
  | buffer (buffer : Buffer)
  | tensor (described : Described) (tensor : ManagedTensor)
deriving DecidableEq, Repr

/-- What there is to take from a capsule. -/
def cargo? (c : Capsule) : Option Cargo :=
  match c.contents with
  | .native b => b.map .buffer
  | .foreign d t => t.map (.tensor d)

/-- The one step in which a capsule is consumed: whether it was before is asked first, then whether
this consumer may; what the capsule carries leaves it before its state changes. -/
def take (c : Capsule) (check : Except Error Unit) :
    Except (Failure Error Capsule) (Capsule × Cargo) := do
  if c.isConsumed then throw ⟨.alreadyConsumed, c⟩
  leaving c check
  match c.cargo? with
  | some cargo => return ({ c.emptied with state := .consumed }, cargo)
  | none => throw ⟨.alreadyConsumed, c.emptied⟩

/-- Takes the tensor as a buffer, if the consumer accepts its device. -/
def consumeAs (h : Heap) (c : Capsule) (a : Accept) :
    Except (Failure Error (Heap × Capsule)) (Heap × Capsule × Buffer) := do
  let (spent, cargo) ← (c.take (a.check c.info.device)).mapError (.within (h, ·))
  match cargo with
  | .buffer b => return (h, spent, c.deliver b)
  | .tensor d t =>
    let (h, b) := h.adopt t d
    return (h, spent, c.deliver b)

/-- Takes the tensor as a buffer, on any device. -/
def consume (h : Heap) (c : Capsule) :
    Except (Failure Error (Heap × Capsule)) (Heap × Capsule × Buffer) :=
  c.consumeAs h .any

/-- What a consumer of the managed tensor gets: a buffer is exported then. -/
def Cargo.export (info : CapsuleInfo) : Cargo → ManagedTensor
  | buffer b => .ofBuffer b info.format info.readOnly
  | tensor _ t => { t with handedOut := true }

/-- The managed tensor that a capsule carries. -/
def tensor? (c : Capsule) : Option ManagedTensor := c.cargo?.map (·.export c.info)

/-- Takes the managed tensor, which its consumer then has to delete. -/
def takeTensor (c : Capsule) : Except (Failure Error Capsule) (Capsule × ManagedTensor) := do
  let (spent, cargo) ← c.take (.ok ())
  return (spent, cargo.export c.info)

/-- How many of `n` consumers that come one after the other take the tensor. -/
def race (h : Heap) (c : Capsule) : Nat → Heap × Capsule × List Buffer
  | 0 => (h, c, [])
  | n + 1 =>
    match c.consume h with
    | .ok (h, c, b) =>
      let (h, c, won) := race h c n
      (h, c, b :: won)
    | .error f => race f.state.1 f.state.2 n

/-! ## Reading in place -/

/-- The bytes of packed rows, which stay in the capsule. -/
def bytes (h : Heap) (c : Capsule) : Except Error (Array UInt8) := do
  if c.isConsumed then throw .alreadyConsumed
  Accept.host.check c.info.device
  if !c.info.layout.isContiguous then throw (.shape .scatteredTensor)
  let size := c.info.bytes?.getD 0
  if size = 0 then return #[]
  match h.read? (c.base.shift c.info.layout.byteOffset.toNat) size with
  | some data => return data
  | none => throw (.fault (.sliceOutOfRange 0 size 0))

/-- The packed rows as elements of a type, whose alignment they need unless there are none. -/
def elements (h : Heap) (c : Capsule) (type : ElementType) : Except Error (Array UInt8) := do
  if type ≠ c.info.type then throw (.elementTypeMismatch c.info.type type)
  let data ← c.bytes h
  if data.isEmpty ∨ (c.base.shift c.info.layout.byteOffset.toNat).isAligned type.size then
    return data
  else throw (.shape (.misaligned type))

end Capsule

/-- Lets go of a capsule; a tensor that is still there is deleted. -/
def Heap.dropCapsule (h : Heap) (c : Capsule) : Heap :=
  match c.tensor? with
  | some t => h.delete t
  | none => h

end TensorExchange
