import TensorExchange.Buffer.Write
import TensorExchange.Interop.Object

/-!
Handing tensors over between a script's objects.

A consumer claims the tensor of a handle by renaming the handle; a handle that
was renamed before, or has a name of another kind, is refused as it is.  Other
objects are asked for a handle first, with the latest version that this library
understands, and once more without it if they do not take that.
-/

namespace TensorExchange.Interop

namespace Script

/-! ## Export -/

/-- The arguments with which a tensor is asked for a handle. -/
structure ExportRequest where
  latest : Option Version
  device : Option DevicePair
  copy : Option Bool
deriving DecidableEq, Repr

/-- The request of a consumer that states the latest version. -/
def ExportRequest.versioned : ExportRequest := ⟨some .current, none, none⟩

/-- Refuses what an export cannot do: leaving the device, and copying. -/
def checkExport (c : Capsule) (r : ExportRequest) : Except Exception Unit := do
  match r.device with
  | some pair =>
    if pair ≠ c.info.device.pair then
      throw ⟨.buffer, some (s!"tensor lives on {c.info.device}, " ++
        "cross-device export needs an explicit copy")⟩
  | none => pure ()
  if r.copy = some true then
    throw ⟨.buffer, some "copying export is not supported, tensors are handed off in place"⟩

/-- The managed tensor of a capsule in a form: the one it carries, or its buffer exported anew. -/
def exportAs (h : Heap) (c : Capsule) (wanted : CapsuleFormat) :
    Except (Failure Error (Heap × Capsule)) (Heap × Capsule × ManagedTensor) :=
  if c.info.format = wanted then do
    let (c, t) ← c.takeTensor.mapError (.within (h, ·))
    return (h, c, t)
  else do
    let (h, c, b) ← c.consume h
    let again := Capsule.wrapWith b ⟨wanted, c.info.readOnly⟩
    let (_, t) ← again.takeTensor.mapError (.within fun again => (h.dropCapsule again, c))
    return (h, c, t)

/-- A handle that carries a tensor of this library. -/
def handleOf (t : ManagedTensor) : Handle := ⟨some t.format.handleName, t, true⟩

/-- Asks the tensor object with a number for a handle. -/
def exportTensor (s : Script) (id : Nat) (c : Capsule) (r : ExportRequest) :
    Except (Failure Exception Script) (Script × Handle) := do
  leaving s (checkExport c r)
  let (heap, c, t) ← (exportAs s.heap c (negotiate r.latest s.config)).mapError fun f =>
    ⟨.ofError f.cause, { s with heap := f.state.1 }.update id (.tensor f.state.2)⟩
  return ({ s with heap }.update id (.tensor c), handleOf t)

/-! ## Import -/

/-- The form of the tensor in a handle, from the name that the handle has. -/
def claimable (x : Handle) : Except Exception CapsuleFormat :=
  match CapsuleFormat.all.find? fun f => x.name = some f.usedName with
  | some _ => .error (.ofError .alreadyConsumed)
  | none =>
    match CapsuleFormat.all.find? fun f => x.name = some f.handleName with
    | some f => .ok f
    | none =>
      .error ⟨.value, some "expected a PyCapsule named 'dltensor' or 'dltensor_versioned'"⟩

/-- Claims the tensor of an object, which must be a handle.  The handle is renamed once the tensor
is imported. -/
def claim (s : Script) (id : Nat) : Except (Failure Exception Script) (Script × Capsule) :=
  match s.objects.get? id with
  | some ⟨.handle x, _⟩ => do
    let f ← leaving s (claimable x)
    let (heap, c) ← (Capsule.importTensor s.heap x.tensor).mapError s.onHeap
    return ({ s with heap }.update id (.handle { x with name := some f.usedName }), c)
  | _ => .error ⟨⟨.type, some "expected a DLPack PyCapsule"⟩, s⟩

/-- Claims the tensor of a handle that nothing else refers to. -/
def claimFresh (s : Script) (x : Handle) : Script × Except Exception Capsule :=
  let (s, id) := s.add (.handle x)
  let (s, result) := settle (s.claim id)
  (s.release id, result)

/-- Writes a request into a log. -/
def note (s : Script) (log : Nat) (r : Request) : Script :=
  match s.logs.get? log with
  | some requests => { s with logs := s.logs.set log (r :: requests) }
  | none => s

/-- What a producer answers to a request: the object it gives, if it has one. -/
def answer (mode : ProducerMode) (result : Option Nat) (r : Request) :
    Except Exception (Option Nat) :=
  match mode with
  | .gives takesArguments => if r && !takesArguments then .error .wrongType else .ok result
  | .raises e => .error e

/-- Asks a producer, with the version first, and without it after a type error. -/
def ask (s : Script) (mode : ProducerMode) (result : Option Nat) (log : Nat) :
    Script × Except Exception (Option Nat) :=
  let s := s.note log true
  match answer mode result true with
  | .error e =>
    if e.kind = .type then (s.note log false, answer mode result false) else (s, .error e)
  | .ok result => (s, .ok result)

/-- Claims what a producer gave. -/
def claimGiven (s : Script) (result : Option Nat) : Script × Except Exception Capsule :=
  match result with
  | some id => settle (s.claim id)
  | none => (s, .error ⟨.type, some "expected a DLPack PyCapsule"⟩)

/-- Imports the tensor of any object. -/
def importObject (s : Script) (id : Nat) (o : Object) : Script × Except Exception Capsule :=
  match o with
  | .handle _ => s.claimGiven (some id)
  | .tensor c =>
    match s.exportTensor id c .versioned with
    | .ok (s, x) => s.claimFresh x
    | .error f => (f.state, .error f.cause)
  | .producer mode result log =>
    match s.ask mode result log with
    | (s, .ok result) => s.claimGiven result
    | (s, .error e) => (s, .error e)
  | .plain =>
    (s, .error ⟨.type, some "object does not support the DLPack protocol (no __dlpack__)"⟩)

end Script

end TensorExchange.Interop
