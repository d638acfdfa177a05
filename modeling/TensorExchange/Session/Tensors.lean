import TensorExchange.Session.Capsules

/-!
Commands on managed tensors that are on their way.

A managed tensor has left one owner and has not reached the next one.  Nobody deletes it as long
as it is here: a name that is used again loses its tensor without calling the deleter, as a client
that forgets a pointer would.  Another runtime may make tensors, with or without a deleter, and it
is counted how often each deleter ran.

A tensor that is imported leaves its name only when the import succeeds.  The remaining commands
hand null pointers and empty tensors to imports and deleters, which are told from tensors before
anything is read.
-/

namespace TensorExchange

/-- The commands on managed tensors. -/
inductive TensorCommand where
  /-- Has another runtime make a tensor. -/
  | foreign (out : String) (tensor : ForeignTensor)
  | describe (name : String)
  | adopt (name out : String)
  /-- Adopts a tensor whose pointer is null. -/
  | adoptNull
  /-- Asks whether a null pointer names a tensor. -/
  | findNull
  | delete (name : String)
  /-- Calls the deleter of an exported tensor with a null pointer. -/
  | deleteNull (name : String)
  /-- Calls the deleter of an exported tensor with an empty tensor. -/
  | deleteEmpty (name : String)
  /-- How often the deleter of a foreign tensor ran. -/
  | deletions (name : String)

namespace Session

def makeForeign (s : Session) (out : String) (f : ForeignTensor) : Session :=
  let number := s.numbered + 1
  let (heap, t) := s.heap.addForeign f number
  let s := { s with heap, numbered := number, foreigners := s.foreigners.put out number }
  s.putTensor out t

def adoptTensor (s : Session) (name out : String) :
    Except (Failure Refusal Session) (Session × Reply) := do
  let t ← leaving s (need s.tensors name)
  let (h, c) ← (Capsule.importTensor s.heap t).mapError s.onHeap
  return ({ s with tensors := s.tensors.erase name }.putCapsule h out c, .done)

def deleteTensor (s : Session) (name : String) :
    Except (Failure Refusal Session) (Session × Reply) := do
  let t ← leaving s (need s.tensors name)
  return ({ s with heap := s.heap.delete t, tensors := s.tensors.erase name }, .done)

/-- A tensor that this library exported; the deleters of others are not called in vain. -/
def needExported (s : Session) (name : String) : Except Refusal ManagedTensor := do
  let t ← need s.tensors name
  match t.keeper with
  | .exported _ => return t
  | _ => throw .undetermined

/-- Deleting the empty tensor, which nobody keeps, does nothing. -/
def deleteEmptyTensor (s : Session) (name : String) :
    Except (Failure Refusal Session) (Session × Reply) := do
  let t ← leaving s (s.needExported name)
  return ({ s with heap := s.heap.delete (.zero t.format) }, .done)

def runTensors (s : Session) : TensorCommand → Session × Outcome
  | .foreign out f => (s.makeForeign out f, .ok .done)
  | .describe name => (s, do return .tensor (← need s.tensors name))
  | .adopt name out => settle (s.adoptTensor name out)
  | .adoptNull => (s, .error (.failed (.invalidTensor .nullTensor)))
  | .findNull => (s, .ok .done)
  | .delete name => settle (s.deleteTensor name)
  | .deleteNull name => (s, do let _ ← s.needExported name; return .done)
  | .deleteEmpty name => settle (s.deleteEmptyTensor name)
  | .deletions name =>
    (s, do return .number (s.heap.deletions (← need s.foreigners name)))

end Session

end TensorExchange
