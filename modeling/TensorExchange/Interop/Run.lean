import TensorExchange.Interop.Display
import TensorExchange.Interop.Transfer

/-!
Running a script: its steps, one after the other.

A step that names an object which is not there is reported before anything else.
An exception leaves the names as they were, but not always the objects: a tensor
that was handed over stays so when its consumer then refuses it.
-/

namespace TensorExchange.Interop

/-- A step of a script. -/
inductive Step where
  | makeTensor (out : String) (shape type device : Value)
  /-- The numbers from zero on, as a handle. -/
  | countUp (out : String) (n : Value)
  /-- Two handles under names that begin with `lead`. -/
  | samples (lead : String)
  | add (left right : Value)
  | version
  /-- A handle that another runtime made. -/
  | foreignHandle (out : String) (name : Option String) (tensor : ForeignTensor)
  | producer (out : String) (mode : ProducerMode) (result : Option String)
  | requests (name : String)
  | plain (out : String)
  | adopt (name out : String)
  | handOver (name out : String) (arguments : List (String × Value))
  | describe (name : String)
  | byteCount (name : String)
  | length (name : String)
  | print (name : String)
  | handleName (name : String)
  | record (name : String)
  | delete (name : String)
  | deletions (name : String)

/-- Why a step gave no result. -/
inductive Refusal where
  | missing
  | notTensor
  | notHandle
  | raised (exception : Exception)
deriving DecidableEq, Repr

/-- The result of a step. -/
inductive Reply where
  | done
  | number (n : Nat)
  | text (s : String)
  | optionalText (s : Option String)
  | names (names : List String)
  | tensor (capsule : Capsule)
  | record (name : String) (tensor : ManagedTensor)
  /-- The requests in a log, to be read when the script has ended. -/
  | requests (log : Nat)

abbrev Outcome := Except Refusal Reply

/-- The version of this library. -/
def libraryVersion : String := "0.3.0"

namespace Script

/-- The script after an operation, also after one that raised. -/
def settle (result : Except (Failure Exception Script) (Script × Reply)) : Script × Outcome :=
  match result with
  | .ok (s, reply) => (s, .ok reply)
  | .error f => (f.state, .error (.raised f.cause))

/-! ## Making objects -/

def parseType (s : String) : Except Exception ElementType :=
  match ElementType.parse? s with
  | some t => .ok t
  | none => .error ⟨.value, some ("Unknown dtype: " ++ s)⟩

def parseDevice (s : String) : Except Exception Device :=
  match Device.parse? s with
  | some d => .ok d
  | none => .error ⟨.value, some ("Unknown device: " ++ s)⟩

/-- A text argument, a default where nothing is passed. -/
def textOr (default : String) : Value → Except Exception String
  | .nothing => .ok default
  | v => v.toText

/-- A new tensor of zeros. -/
def makeTensor (s : Script) (out : String) (shape type device : Value) :
    Except (Failure Exception Script) (Script × Reply) := do
  let shape ← leaving s shape.toSizes
  let typeName ← leaving s (textOr ElementType.default.name type)
  let deviceName ← leaving s (textOr Device.host.display device)
  let type ← leaving s (parseType typeName)
  let device ← leaving s (parseDevice deviceName)
  let (heap, b) ← (s.allocator.allocate s.heap type shape device).mapError s.onHeap
  let c := Capsule.wrapWith b (.ofConfig s.config)
  return ({ s with heap }.bind out (.tensor c), .done)

/-- A handle of packed elements, in the form that any consumer understands. -/
def packedHandle (h : Heap) (type : ElementType) (data : List UInt8) : Heap × Handle :=
  let (h, b) := Buffer.ofBytes h type data.toArray
  (h, handleOf (.ofBuffer b .legacy false))

/-- Puts a handle of packed elements under a name. -/
def bindPacked (s : Script) (out : String) (type : ElementType) (data : List UInt8) : Script :=
  let (heap, x) := packedHandle s.heap type data
  { s with heap }.bind out (.handle x)

/-- The bytes of a whole number as a single precision element. -/
def singleBytes (n : Nat) : List UInt8 := toLittleEndian 4 (Decimal.Binary.single.ofNat n)

def countUp (s : Script) (out : String) (n : Value) :
    Except (Failure Exception Script) (Script × Reply) := do
  let n ← leaving s n.toSize
  return (s.bindPacked out .float32 ((List.range n).flatMap singleBytes), .done)

/-- Two samples: ten ones of single precision, and ten bytes that are two. -/
def makeSamples (s : Script) (lead : String) : Script × Outcome :=
  let s := s.bindPacked (lead ++ "v1") .float32 ((List.replicate 10 1).flatMap singleBytes)
  let s := s.bindPacked (lead ++ "v2") .uint8 (List.replicate 10 2)
  (s, .ok (.names ["v1", "v2"]))

def sum (left right : Value) : Except Exception Nat := do
  let left ← left.toSize
  let right ← right.toSize
  return left + right

def makeForeign (s : Script) (out : String) (name : Option String) (f : ForeignTensor) : Script :=
  let number := s.numbered + 1
  let (heap, t) := s.heap.addForeign f number
  let s := { s with heap, numbered := number, foreigners := s.foreigners.put out number }
  s.bind out (.handle ⟨name, t, false⟩)

def makeProducer (s : Script) (out : String) (mode : ProducerMode) (result : Option String) :
    Script :=
  let id := result.bind s.find?
  let s := match id with
    | some id => s.retain id
    | none => s
  let (logs, log) := s.logs.add []
  { s with logs }.bind out (.producer mode id log)

/-! ## Handing over -/

def adoptObject (s : Script) (id : Nat) (o : Object) (out : String) : Script × Outcome :=
  match s.importObject id o with
  | (s, .ok c) => (s.bind out (.tensor c), .ok .done)
  | (s, .error e) => (s, .error (.raised e))

/-- The names of the arguments of a hand-over. -/
def exportArguments : List String := ["stream", "max_version", "dl_device", "copy"]

/-- The value of an argument, nothing where it is not passed. -/
def argument (arguments : List (String × Value)) (name : String) : Value :=
  (arguments.lookup name).getD .nothing

/-- Reads the arguments of a hand-over; the stream may be anything. -/
def readRequest (arguments : List (String × Value)) : Except Exception ExportRequest := do
  if arguments.any fun a => !exportArguments.contains a.1 then throw .wrongType
  let latest ← (argument arguments "max_version").optional Value.toVersion
  let device ← (argument arguments "dl_device").optional Value.toDevicePair
  let copy ← (argument arguments "copy").optional Value.toFlag
  return ⟨latest, device, copy⟩

def handOver (s : Script) (id : Nat) (c : Capsule) (out : String)
    (arguments : List (String × Value)) : Except (Failure Exception Script) (Script × Reply) := do
  let r ← leaving s (readRequest arguments)
  let (s, x) ← s.exportTensor id c r
  return (s.bind out (.handle x), .done)

/-- Prints the tensor of an object, which takes it. -/
def printObject (s : Script) (id : Nat) (o : Object) : Script × Outcome :=
  match s.importObject id o with
  | (s, .error e) => (s, .error (.raised e))
  | (s, .ok c) =>
    match c.consume s.heap with
    | .error f =>
      ({ s with heap := f.state.1.dropCapsule f.state.2 }, .error (.raised (.ofError f.cause)))
    | .ok (h, _, b) =>
      ({ s with heap := h.drop b },
        match printed h b with
        | .ok text => .ok (.text text)
        | .error e => .error (.raised (.ofError e)))

/-! ## Asking objects -/

def needObject (s : Script) (name : String) : Except Refusal (Nat × Object) :=
  match s.object? name with
  | some found => .ok found
  | none => .error .missing

def needTensor (s : Script) (name : String) : Except Refusal (Nat × Capsule) := do
  match ← s.needObject name with
  | (id, .tensor c) => return (id, c)
  | _ => throw .notTensor

def needHandle (s : Script) (name : String) : Except Refusal Handle := do
  match ← s.needObject name with
  | (_, .handle x) => return x
  | _ => throw .notHandle

/-- The bytes that the elements of a tensor take. -/
def byteCount (c : Capsule) : Except Exception Nat :=
  match c.info.bytes? with
  | some n => .ok n
  | none => .error ⟨.overflow, some "broadcast tensor is larger than the address space"⟩

/-- The first extent of a tensor, which must be a size that scripts can have. -/
def firstExtent (c : Capsule) : Except Exception Nat :=
  match c.info.layout.shape with
  | [] => .ok 0
  | d :: _ => if d.toNat ≤ maxSize then .ok d.toNat else .error .outOfRange

/-- The record of an unclaimed handle. -/
def readRecord (s : Script) (name : String) : Outcome := do
  let x ← s.needHandle name
  match x.name with
  | some n =>
    if CapsuleFormat.all.any fun f => f.handleName == n then return .record n x.tensor
    else throw .notHandle
  | none => throw .notHandle

/-- The log of the requests to a producer. -/
def readRequests (s : Script) (name : String) : Outcome := do
  match ← s.needObject name with
  | (_, .producer _ _ log) => return .requests log
  | _ => throw .missing

def raised (result : Except Exception Reply) : Outcome :=
  match result with
  | .ok reply => .ok reply
  | .error e => .error (.raised e)

/-! ## Steps -/

/-- The script after a step that works on an object. -/
def withObject (s : Script) (name : String) (f : Nat → Object → Script × Outcome) :
    Script × Outcome :=
  match s.needObject name with
  | .ok (id, o) => f id o
  | .error refusal => (s, .error refusal)

/-- The script after a step that works on a tensor object. -/
def withTensor (s : Script) (name : String) (f : Nat → Capsule → Script × Outcome) :
    Script × Outcome :=
  match s.needTensor name with
  | .ok (id, c) => f id c
  | .error refusal => (s, .error refusal)

/-- The script after a step, and what the step gives. -/
def step (s : Script) : Step → Script × Outcome
  | .makeTensor out shape type device => settle (s.makeTensor out shape type device)
  | .countUp out n => settle (s.countUp out n)
  | .samples lead => s.makeSamples lead
  | .add left right => (s, raised (do return .number (← sum left right)))
  | .version => (s, .ok (.text libraryVersion))
  | .foreignHandle out name f => (s.makeForeign out name f, .ok .done)
  | .producer out mode result => (s.makeProducer out mode result, .ok .done)
  | .requests name => (s, s.readRequests name)
  | .plain out => (s.bind out .plain, .ok .done)
  | .adopt name out => s.withObject name fun id o => s.adoptObject id o out
  | .handOver name out arguments =>
    s.withTensor name fun id c => settle (s.handOver id c out arguments)
  | .describe name => s.withTensor name fun _ c => (s, .ok (.tensor c))
  | .byteCount name =>
    s.withTensor name fun _ c => (s, raised (do return .number (← byteCount c)))
  | .length name =>
    s.withTensor name fun _ c => (s, raised (do return .number (← firstExtent c)))
  | .print name => s.withObject name fun id o => s.printObject id o
  | .handleName name => (s, do return .optionalText (← s.needHandle name).name)
  | .record name => (s, s.readRecord name)
  | .delete name => s.withObject name fun _ _ => (s.unbind name, .ok .done)
  | .deletions name =>
    (s, match s.foreigners.get? name with
      | some number => .ok (.number (s.heap.deletions number))
      | none => .error .missing)

/-- The script after steps, and what each one gives. -/
def run (s : Script) : List Step → Script × List Outcome
  | [] => (s, [])
  | c :: rest =>
    let (s, outcome) := s.step c
    let (s, outcomes) := s.run rest
    (s, outcome :: outcomes)

/-- The requests in a log, in their order. -/
def requests (s : Script) (log : Nat) : List Request := ((s.logs.get? log).getD []).reverse

end Script

end TensorExchange.Interop
