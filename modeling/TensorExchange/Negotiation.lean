import TensorExchange.Config

/-!
Terms of a hand-over: where a consumer can use memory, and in which form it
takes a tensor.

Crossing devices is never implicit: a consumer that does not accept the device
of a tensor gets an error that names both sides.
-/

namespace TensorExchange

/-- The devices on which a consumer takes memory. -/
inductive Accept where
  | any
  | device (device : Device)
  /-- Memory that the host can read and write. -/
  | host
deriving DecidableEq, Repr

namespace Accept

def permits : Accept → Device → Bool
  | any, _ => true
  | device expected, actual => expected = actual
  | host, actual => actual.isHostAccessible

/-- How a consumer's terms are shown. -/
def display : Accept → String
  | any => "any device"
  | device d => d.display
  | host => "host-accessible memory"

/-- Accepts a device that the consumer permits. -/
def check (a : Accept) (d : Device) : Except Error Unit :=
  if a.permits d then .ok () else .error (.deviceMismatch a.display d)

theorem check_eq_ok_iff {a : Accept} {d : Device} : a.check d = .ok () ↔ a.permits d = true := by
  unfold check
  split <;> simp_all

end Accept

/-- The version of the exchange format that a consumer or a tensor states. -/
structure Version where
  major : UInt32
  minor : UInt32
deriving DecidableEq, Repr

/-- The version that exported tensors have. -/
def Version.current : Version := ⟨1, 1⟩

/-- The form of a tensor for a consumer that understands versions up to `latest`.  A consumer that
states none, or one before the first major version, understands the legacy form only. -/
def negotiate (latest : Option Version) (c : Config) : CapsuleFormat :=
  match latest with
  | some v => if 1 ≤ v.major then c.format else .legacy
  | none => .legacy

end TensorExchange
