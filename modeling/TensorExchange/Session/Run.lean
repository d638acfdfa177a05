import TensorExchange.Session.Registries

/-!
Running a session: commands of every kind, one after the other.

A command never ends a session.  One that is refused gives its refusal, and the next one finds
the session that it left; so a run is a fold over the commands, which gives the last session and
what each command gave.

What is proved of all runs is in `Proofs`: theorems that begin with a session that was just
started and end with whatever commands lead to, by one lemma about `step` and an induction on the
list of commands.
-/

namespace TensorExchange

/-- A command of a session. -/
inductive Command where
  | memory (command : MemoryCommand)
  | buffers (command : BufferCommand)
  | capsules (command : CapsuleCommand)
  | tensors (command : TensorCommand)
  | registries (command : RegistryCommand)

namespace Session

/-- The session after a command, and what the command gives. -/
def step (s : Session) : Command → Session × Outcome
  | .memory c => s.runMemory c
  | .buffers c => s.runBuffers c
  | .capsules c => s.runCapsules c
  | .tensors c => s.runTensors c
  | .registries c => s.runRegistries c

/-- The session after commands, and what each one gives. -/
def run (s : Session) : List Command → Session × List Outcome
  | [] => (s, [])
  | c :: rest =>
    let (s, outcome) := s.step c
    let (s, outcomes) := s.run rest
    (s, outcome :: outcomes)

end Session

end TensorExchange
