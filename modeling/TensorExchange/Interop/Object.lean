import TensorExchange.Allocator
import TensorExchange.Capsule
import TensorExchange.Exchange.Foreign
import TensorExchange.Interop.Value
import TensorExchange.Slots

/-!
Objects of the scripting side.

An object lives as long as something refers to it: a name, or a producer that
gives it to consumers.  A handle carries a managed tensor under a name; renaming
it tells that its tensor was claimed.  A handle that this library made deletes
its tensor when it goes away unclaimed, one of another runtime does not.
-/

namespace TensorExchange.Interop

/-- A named carrier of a managed tensor. -/
structure Handle where
  name : Option String
  tensor : ManagedTensor
  /-- Whether the handle deletes its tensor when it goes away unclaimed. -/
  deletes : Bool
deriving DecidableEq, Repr

/-- How a producer answers when it is asked for a tensor. -/
inductive ProducerMode where
  /-- Gives its object; a request with arguments is a type error where it takes none. -/
  | gives (takesArguments : Bool)
  | raises (exception : Exception)
deriving DecidableEq, Repr

/-- The arguments of a request: whether the latest version understood was stated. -/
abbrev Request := Bool

/-- The objects of a script. -/
inductive Object where
  | tensor (capsule : Capsule)
  | handle (handle : Handle)
  /-- Gives an object to consumers and writes each request into a log. -/
  | producer (mode : ProducerMode) (result : Option Nat) (log : Nat)
  | plain
deriving DecidableEq, Repr

/-- An object and how many references to it there are. -/
structure Entry where
  object : Object
  references : Nat
deriving DecidableEq, Repr

/-- A script: its objects, under names, and the memory behind them. -/
structure Script where
  heap : Heap
  config : Config
  allocator : Allocator
  objects : Table Entry
  names : Slots Nat
  /-- The requests that producers received, the latest first. -/
  logs : Table (List Request)
  /-- The numbers of the tensors that another runtime made, by name. -/
  foreigners : Slots Nat
  /-- How many tensors another runtime made. -/
  numbered : Nat

namespace Script

/-- A script on a machine, in a process with this environment. -/
def start (m : Machine) (env : Config.Environment) : Script where
  heap := .empty m
  config := .ofProcess env
  allocator := .ofConfig ⟨.host, 0⟩ (.ofProcess env)
  objects := .empty
  names := .empty
  logs := .empty
  foreigners := .empty
  numbered := 0

/-! ## References -/

/-- Adds an object with one reference. -/
def add (s : Script) (o : Object) : Script × Nat :=
  let (objects, id) := s.objects.add ⟨o, 1⟩
  ({ s with objects }, id)

/-- One more reference. -/
def retain (s : Script) (id : Nat) : Script :=
  match s.objects.get? id with
  | some e => { s with objects := s.objects.set id { e with references := e.references + 1 } }
  | none => s

/-- Changes an object in place, for all who refer to it. -/
def update (s : Script) (id : Nat) (o : Object) : Script :=
  match s.objects.get? id with
  | some e => { s with objects := s.objects.set id { e with object := o } }
  | none => s

/-- The script after an operation on its heap failed. -/
def onHeap (s : Script) (f : Failure Error Heap) : Failure Exception Script :=
  ⟨.ofError f.cause, { s with heap := f.state }⟩

/-- The heap after a handle went away. -/
def dropHandle (h : Heap) (x : Handle) : Heap :=
  if x.deletes ∧ x.name = some x.tensor.format.handleName then h.delete x.tensor else h

/-- One reference less: without any the object goes away, and what it refers to loses one. -/
def release (s : Script) (id : Nat) : Script :=
  match _found : s.objects.get? id with
  | none => s
  | some e =>
    if 1 < e.references then
      { s with objects := s.objects.set id { e with references := e.references - 1 } }
    else
      let rest := { s with objects := s.objects.erase id }
      match e.object with
      | .tensor c => { rest with heap := rest.heap.dropCapsule c }
      | .handle x => { rest with heap := dropHandle rest.heap x }
      | .producer _ (some result) _ => release rest result
      | .producer _ none _ => rest
      | .plain => rest
termination_by s.objects.size
decreasing_by exact Table.size_erase_lt _found

/-! ## Names -/

/-- The number of the object under a name. -/
def find? (s : Script) (name : String) : Option Nat := s.names.get? name

/-- The number of the object under a name, and the object. -/
def object? (s : Script) (name : String) : Option (Nat × Object) := do
  let id ← s.find? name
  let e ← s.objects.get? id
  return (id, e.object)

/-- Removes a name and its reference. -/
def unbind (s : Script) (name : String) : Script :=
  match s.find? name with
  | some id => { s with names := s.names.erase name }.release id
  | none => s

/-- Puts an object under a name, in place of what was there. -/
def bind (s : Script) (name : String) (o : Object) : Script :=
  let (s, id) := s.add o
  let s := s.unbind name
  { s with names := s.names.put name id }

/-- Releases every name. -/
def close (s : Script) : Script := s.names.entries.foldl (fun s e => s.unbind e.1) s

/-- How often the deleter of each foreign tensor ran, in the order of the names. -/
def deletions (s : Script) : List (String × Nat) :=
  s.foreigners.sorted.map fun (name, number) => (name, s.heap.deletions number)

end Script

end TensorExchange.Interop
