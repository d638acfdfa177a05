import TensorExchange.Session.Basic

/-!
Commands on allocators and raw memory.

A client may make allocators over the backend of this library or over one of its own, each with
an account that counts what passes through it.  It may ask such a backend for raw memory, without
a buffer around it, and has to give that back itself; and it may allocate buffers, from one of its
allocators or from the one that the process was configured with.

Requests are refused for the reasons that allocators and backends give, and a refusal carries the
heap that it leaves.
-/

namespace TensorExchange

/-- The commands on allocators. -/
inductive MemoryCommand where
  /-- A new allocator over a backend with an account of its own. -/
  | create (name : String) (kind : BackendKind) (config : Config)
  | describe (name : String)
  | stats (name : String)
  /-- Raw memory from the backend of an allocator. -/
  | obtain (name out : String) (size alignment : Nat) (device : Device)
  | giveBack (name : String)
  /-- A zeroed buffer, from the global allocator where none is named. -/
  | allocate (name : Option String) (out : String) (type : ElementType) (shape : List UInt64)
      (device : Device)

namespace Session

/-- The allocator under a name, the global one without a name. -/
def needAllocator (s : Session) : Option String → Except Refusal Allocator
  | some name => need s.allocators name
  | none => .ok s.globalAllocator

def createAllocator (s : Session) (name : String) (kind : BackendKind) (c : Config) : Session :=
  let number := s.numbered + 1
  { s with
    numbered := number
    allocators := s.allocators.put name (.ofConfig ⟨kind, number⟩ c) }

def obtainMemory (s : Session) (name out : String) (size alignment : Nat) (device : Device) :
    Except (Failure Refusal Session) (Session × Reply) := do
  let a ← leaving s (need s.allocators name)
  let (h, allocation) ← (s.heap.allocate a.backend size alignment device).mapError s.onHeap
  return (s.putAllocation h out allocation, .flag true)

def giveBackMemory (s : Session) (name : String) :
    Except (Failure Refusal Session) (Session × Reply) := do
  let allocation ← leaving s (need s.allocations name)
  return ({ s with
    heap := s.heap.free allocation
    allocations := s.allocations.erase name }, .done)

def allocateBuffer (s : Session) (name : Option String) (out : String) (type : ElementType)
    (shape : List UInt64) (device : Device) :
    Except (Failure Refusal Session) (Session × Reply) := do
  let a ← leaving s (s.needAllocator name)
  let (h, b) ← (a.allocate s.heap type shape device).mapError s.onHeap
  return (s.putBuffer h out b, .done)

def runMemory (s : Session) : MemoryCommand → Session × Outcome
  | .create name kind c => (s.createAllocator name kind c, .ok .done)
  | .describe name => (s, do return .allocator (← need s.allocators name))
  | .stats name =>
    (s, do return .stats (s.heap.stats (← need s.allocators name).backend.account))
  | .obtain name out size alignment device =>
    settle (s.obtainMemory name out size alignment device)
  | .giveBack name => settle (s.giveBackMemory name)
  | .allocate name out type shape device =>
    settle (s.allocateBuffer name out type shape device)

end Session

end TensorExchange
