import TensorExchange.Memory.Account
import TensorExchange.Buffer.Array
import TensorExchange.Buffer.Write
import TensorExchange.Exchange.Foreign
import TensorExchange.Registry
import TensorExchange.Scalar
import TensorExchange.Slots

/-!
Sessions: a heap and the things that a client holds, each kind under names of its
own.

A command names what it works on and where its result goes.  A name that holds
nothing is reported before anything else.  What an operation that failed left of the
heap, a capsule or a registry is what the session has from then on: no command undoes
anything.  What was under the name of a result is let go once the result is there.
-/

namespace TensorExchange

/-- A client's session. -/
structure Session where
  heap : Heap
  /-- The allocator of buffers that name none. -/
  globalAllocator : Allocator
  allocators : Slots Allocator
  allocations : Slots Allocation
  buffers : Slots Buffer
  capsules : Slots Capsule
  tensors : Slots ManagedTensor
  registries : Slots Registry
  /-- Tensors on their way that lost their name to another one; nobody deletes them any more. -/
  strayTensors : List ManagedTensor
  /-- Raw memory that lost its name to another allocation; nobody gives it back any more. -/
  strayAllocations : List Allocation
  /-- The numbers of the tensors that another runtime made, by name. -/
  foreigners : Slots Nat
  /-- How many accounts and foreign tensors there were; both are numbered from one. -/
  numbered : Nat

/-- Why a command gave no result. -/
inductive Refusal where
  /-- The name holds nothing. -/
  | missing (name : String)
  /-- No client can ask for this, or the answer would depend on where nothing lies. -/
  | undetermined
  | failed (cause : Error)
deriving DecidableEq, Repr

/-- The result of a command. -/
inductive Reply where
  | done
  | flag (value : Bool)
  | number (value : Nat)
  | bytes (data : Array UInt8)
  | scalars (values : List Scalar)
  /-- An array view: its extents, its length and its first elements. -/
  | view (shape : List UInt64) (length : Nat) (values : List Scalar)
  | array (shape : List UInt64) (values : List Scalar)
  | stats (stats : Stats)
  | allocator (allocator : Allocator)
  | buffer (buffer : Buffer)
  | capsule (capsule : Capsule)
  | summary (info : Option CapsuleInfo)
  | tensor (tensor : ManagedTensor)
  | names (names : List String)
  /-- How many consumers took the tensor and how many came too late. -/
  | race (winners late : Nat)

/-- What a command gives. -/
abbrev Outcome := Except Refusal Reply

namespace Session

/-- A session on a machine, in a process with this environment. -/
def start (m : Machine) (env : Config.Environment) : Session where
  heap := .empty m
  globalAllocator := .ofConfig ⟨.host, 0⟩ (.ofProcess env)
  allocators := .empty
  allocations := .empty
  buffers := .empty
  capsules := .empty
  tensors := .empty
  registries := .empty
  strayTensors := []
  strayAllocations := []
  foreigners := .empty
  numbered := 0

/-- The thing under a name. -/
def need {α : Type} (slots : Slots α) (name : String) : Except Refusal α :=
  match slots.get? name with
  | some a => .ok a
  | none => .error (.missing name)

/-- The result of reading something, its error as a refusal. -/
def attempt {α : Type} (result : Except Error α) : Except Refusal α := result.mapError .failed

/-! ## Results under names -/

/-- Puts a buffer under a name and lets go of what was there. -/
def putBuffer (s : Session) (h : Heap) (name : String) (b : Buffer) : Session :=
  let h := match s.buffers.get? name with
    | some old => h.drop old
    | none => h
  { s with heap := h, buffers := s.buffers.put name b }

/-- Puts a capsule under a name and lets go of what was there. -/
def putCapsule (s : Session) (h : Heap) (name : String) (c : Capsule) : Session :=
  let h := match s.capsules.get? name with
    | some old => h.dropCapsule old
    | none => h
  { s with heap := h, capsules := s.capsules.put name c }

/-- Puts a registry under a name and lets go of what was there. -/
def putRegistry (s : Session) (h : Heap) (name : String) (r : Registry) : Session :=
  let h := match s.registries.get? name with
    | some old => h.dropRegistry old
    | none => h
  { s with heap := h, registries := s.registries.put name r }

/-- Puts a tensor on its way under a name; what was there is not deleted. -/
def putTensor (s : Session) (name : String) (t : ManagedTensor) : Session :=
  { s with
    tensors := s.tensors.put name t
    strayTensors := (s.tensors.get? name).toList ++ s.strayTensors }

/-- Puts raw memory under a name; what was there is not given back. -/
def putAllocation (s : Session) (h : Heap) (name : String) (a : Allocation) : Session :=
  { s with
    heap := h
    allocations := s.allocations.put name a
    strayAllocations := (s.allocations.get? name).toList ++ s.strayAllocations }

/-- Removes a buffer from its name without letting it go. -/
def eraseBuffer (s : Session) (name : String) : Session :=
  { s with buffers := s.buffers.erase name }

/-- Removes a capsule from its name without letting it go. -/
def eraseCapsule (s : Session) (name : String) : Session :=
  { s with capsules := s.capsules.erase name }

/-- Replaces a capsule by what became of it. -/
def updateCapsule (s : Session) (name : String) (c : Capsule) : Session :=
  { s with capsules := s.capsules.update name c }

/-- Replaces a registry by what became of it. -/
def updateRegistry (s : Session) (name : String) (r : Registry) : Session :=
  { s with registries := s.registries.update name r }

/-! ## Failures within a session -/

/-- The session after an operation on its heap failed. -/
def onHeap (s : Session) (f : Failure Error Heap) : Failure Refusal Session :=
  ⟨.failed f.cause, { s with heap := f.state }⟩

/-- The session after an operation on one of its capsules failed. -/
def onCapsule (s : Session) (name : String) (f : Failure Error Capsule) :
    Failure Refusal Session :=
  ⟨.failed f.cause, s.updateCapsule name f.state⟩

/-- The session after an operation on one of its registries failed. -/
def onRegistry (s : Session) (name : String) (f : Failure Error Registry) :
    Failure Refusal Session :=
  ⟨.failed f.cause, s.updateRegistry name f.state⟩

/-! ## The end of a session -/

/-- Lets go of everything that is held: registries, then capsules, then buffers. -/
def close (s : Session) : Session :=
  let h := s.registries.values.foldl Heap.dropRegistry s.heap
  let h := s.capsules.values.foldl Heap.dropCapsule h
  let h := s.buffers.values.foldl Heap.drop h
  { s with heap := h, registries := .empty, capsules := .empty, buffers := .empty }

/-- The counters of each allocator. -/
def accounts (s : Session) : List (String × Stats) :=
  s.allocators.sorted.map fun (name, a) => (name, s.heap.stats a.backend.account)

/-- How often the deleter of each foreign tensor ran. -/
def deletions (s : Session) : List (String × Nat) :=
  s.foreigners.sorted.map fun (name, number) => (name, s.heap.deletions number)

/-- The names of the tensors that are still on their way. -/
def pending (s : Session) : List String := s.tensors.sorted.map Prod.fst

end Session

end TensorExchange
