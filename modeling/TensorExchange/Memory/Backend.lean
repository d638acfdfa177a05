import TensorExchange.Error
import TensorExchange.Memory.Pointer

/-!
Backends: where raw memory comes from.

A backend serves some devices, and what it hands out is counted on its account.
Beside the one for host memory a client may bring backends of its own, which hand
out host memory under the name of other devices.  All of it comes from one machine,
and about what that refuses for lack of memory nothing is assumed but that it then
refuses more as well.
-/

namespace TensorExchange

/-- The machine that all memory comes from. -/
structure Machine where
  /-- Whether it has no memory for a request of this size and alignment. -/
  refuses : Nat → Nat → Bool
  /-- Where it has no memory for a size, it has none for a larger one. -/
  mono : ∀ size more alignment, size ≤ more → refuses size alignment = true →
    refuses more alignment = true

/-- A machine that never runs out of memory. -/
def Machine.boundless : Machine := ⟨fun _ _ => false, fun _ _ _ _ h => h⟩

/-- The sources of memory. -/
inductive BackendKind where
  | host
  /-- A client's own, for the devices of one kind or, where none is given, for every device. -/
  | custom (name : String) (serves : Option DeviceKind)
deriving DecidableEq, Repr

namespace BackendKind

def name : BackendKind → String
  | host => "host"
  | custom name _ => name

/-- Whether the source serves a device. -/
def supports : BackendKind → Device → Bool
  | host, d => d.isCpu
  | custom _ (some kind), d => d.kind == kind
  | custom _ none, _ => true

end BackendKind

/-- A source of memory and the account on which its allocations are counted. -/
structure Backend where
  kind : BackendKind
  account : Nat
deriving DecidableEq, Repr

/-- A piece of raw memory, as it was asked for. -/
structure Allocation where
  backend : Backend
  block : Nat
  size : Nat
  alignment : Nat
  device : Device
deriving DecidableEq, Repr

namespace Backend

def name (b : Backend) : String := b.kind.name

def supports (b : Backend) (d : Device) : Bool := b.kind.supports d

/-- A size rounded up to a multiple of an alignment. -/
def roundUp (size alignment : Nat) : Nat := (size + alignment - 1) / alignment * alignment

/-- Accepts a request that can be served.  Host memory is refused to other devices here, while a
client's own backend hands it out whatever the device. -/
def checkRequest (b : Backend) (m : Machine) (size alignment : Nat) (device : Device) :
    Except Error Unit :=
  if b.kind = .host ∧ !b.supports device then
    .error (.allocation (.unsupportedDevice b.name device))
  else if !isPowerOfTwo alignment || maxSize < roundUp size alignment then
    .error (.allocation (.invalidRequest size alignment))
  else if m.refuses size alignment then
    .error (.allocation (.outOfMemory size))
  else .ok ()

end Backend

end TensorExchange
