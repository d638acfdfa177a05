import TensorExchange.Session.Tensors

/-!
Commands on registries.

A registry holds capsules under names of its own, which have nothing to do with the names of the
session.  Registering takes the capsule from its name in the session, also when its name in the
registry turns out to be taken: then the capsule is let go.  Taking gives it back under a name of
the session.  Draining takes every entry out, in the order of the names, and puts each under a name
that begins with what is given.

A registry that is replaced, or dropped, lets go of all its capsules.
-/

namespace TensorExchange

/-- The commands on registries. -/
inductive RegistryCommand where
  | create (name : String)
  /-- A new registry of capsules under names, the first one of each name. -/
  | collect (name : String) (entries : List (String × String))
  | register (name key capsule : String)
  | take (name key out : String)
  | list (name : String)
  | contains (name key : String)
  | inspect (name key : String)
  /-- Takes every entry out, each to a name that begins with `lead`. -/
  | drain (name lead : String)
  | drop (name : String)

namespace Session

/-- Takes capsules from their names, each with the name it is to have in a registry. -/
def pickCapsules (s : Session) : List (String × String) →
    Except Refusal (Session × List (String × Capsule))
  | [] => .ok (s, [])
  | (key, name) :: rest => do
    let c ← need s.capsules name
    let (s, picked) ← pickCapsules (s.eraseCapsule name) rest
    return (s, (key, c) :: picked)

def collectRegistry (s : Session) (name : String) (entries : List (String × String)) :
    Except (Failure Refusal Session) (Session × Reply) := do
  let (s, picked) ← leaving s (s.pickCapsules entries)
  let (h, r) := Registry.collect s.heap picked .empty
  return (s.putRegistry h name r, .done)

def registerCapsule (s : Session) (name key capsule : String) :
    Except (Failure Refusal Session) (Session × Reply) := do
  let r ← leaving s (need s.registries name)
  let c ← leaving s (need s.capsules capsule)
  let s := s.eraseCapsule capsule
  let r ← (r.register key c).mapError fun f =>
    ⟨.failed f.cause, { s.updateRegistry name f.state with heap := s.heap.dropCapsule c }⟩
  return (s.updateRegistry name r, .done)

def takeCapsule (s : Session) (name key out : String) :
    Except (Failure Refusal Session) (Session × Reply) := do
  let r ← leaving s (need s.registries name)
  let (r, c) ← (r.take key).mapError (s.onRegistry name)
  let s := s.updateRegistry name r
  return (s.putCapsule s.heap out c, .done)

/-- Puts capsules under names that begin with `lead`. -/
def putDrained (s : Session) (lead : String) : List (String × Capsule) → Session
  | [] => s
  | (key, c) :: rest => putDrained (s.putCapsule s.heap (lead ++ key) c) lead rest

def drainRegistry (s : Session) (name lead : String) :
    Except (Failure Refusal Session) (Session × Reply) := do
  let r ← leaving s (need s.registries name)
  let (r, drained) := r.drain
  let s := s.updateRegistry name r
  return (s.putDrained lead drained, .names (drained.map Prod.fst))

/-- Lets go of a registry, and says whether there was one. -/
def dropRegistry (s : Session) (name : String) : Session × Outcome :=
  match s.registries.get? name with
  | some r =>
    ({ s with heap := s.heap.dropRegistry r, registries := s.registries.erase name },
      .ok (.flag true))
  | none => (s, .ok (.flag false))

def runRegistries (s : Session) : RegistryCommand → Session × Outcome
  | .create name => (s.putRegistry s.heap name .empty, .ok .done)
  | .collect name entries => settle (s.collectRegistry name entries)
  | .register name key capsule => settle (s.registerCapsule name key capsule)
  | .take name key out => settle (s.takeCapsule name key out)
  | .list name => (s, do return .names (← need s.registries name).names)
  | .contains name key => (s, do return .flag ((← need s.registries name).contains key))
  | .inspect name key => (s, do return .summary ((← need s.registries name).inspect key))
  | .drain name lead => settle (s.drainRegistry name lead)
  | .drop name => s.dropRegistry name

end Session

end TensorExchange
