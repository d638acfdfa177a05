import TensorExchange.Session.Buffers

/-!
Commands on capsules.

Wrapping takes the buffer from its name.  A buffer that does not fit what is declared is let go,
and a capsule whose tensor is taken for good leaves its name even when that fails.  All other
commands leave the capsule under its name, as what became of it: one that was consumed is still
there to be asked what it was.

A race is what any number of consumers do that come at once.  There is one moment at which a
capsule is consumed, so whoever comes first is the only one to get the buffer.
-/

namespace TensorExchange

/-- The commands on capsules. -/
inductive CapsuleCommand where
  | wrap (name out : String) (options : ExportOptions)
  | wrapAs (name out : String) (shape : List UInt64) (type : ElementType) (device : Device)
  | describe (name : String)
  | consume (name out : String) (accept : Accept)
  /-- Several consumers at once. -/
  | race (name out : String) (consumers : Nat)
  | bytes (name : String)
  | elements (name : String) (type : ElementType)
  | takeTensor (name out : String)
  /-- Takes the tensor and gives the capsule up. -/
  | intoTensor (name out : String)
  | drop (name : String)

namespace Session

def wrapBuffer (s : Session) (name out : String) (o : ExportOptions) :
    Except (Failure Refusal Session) (Session × Reply) := do
  let b ← leaving s (need s.buffers name)
  let s := s.eraseBuffer name
  return (s.putCapsule s.heap out (.wrapWith b o), .done)

def wrapBufferAs (s : Session) (name out : String) (shape : List UInt64) (type : ElementType)
    (device : Device) : Except (Failure Refusal Session) (Session × Reply) := do
  let b ← leaving s (need s.buffers name)
  let s := s.eraseBuffer name
  let (h, c) ← (Capsule.wrapAs s.heap b shape type device).mapError s.onHeap
  return (s.putCapsule h out c, .done)

def consumeCapsule (s : Session) (name out : String) (a : Accept) :
    Except (Failure Refusal Session) (Session × Reply) := do
  let c ← leaving s (need s.capsules name)
  let (h, c, b) ← (c.consumeAs s.heap a).mapError fun f =>
    ⟨.failed f.cause, { s.updateCapsule name f.state.2 with heap := f.state.1 }⟩
  return ((s.updateCapsule name c).putBuffer h out b, .done)

/-- Puts the buffers that were won under a name, one after the other. -/
def putWon (s : Session) (out : String) : List Buffer → Session
  | [] => s
  | b :: rest => putWon (s.putBuffer s.heap out b) out rest

def raceCapsule (s : Session) (name out : String) (n : Nat) :
    Except (Failure Refusal Session) (Session × Reply) := do
  let c ← leaving s (need s.capsules name)
  let (heap, c, won) := c.race s.heap n
  let s := { s.updateCapsule name c with heap }
  return (s.putWon out won, .race won.length (n - won.length))

def takeCapsuleTensor (s : Session) (name out : String) :
    Except (Failure Refusal Session) (Session × Reply) := do
  let c ← leaving s (need s.capsules name)
  let (c, t) ← c.takeTensor.mapError (s.onCapsule name)
  return ((s.updateCapsule name c).putTensor out t, .done)

def giveUpCapsule (s : Session) (name out : String) :
    Except (Failure Refusal Session) (Session × Reply) := do
  let c ← leaving s (need s.capsules name)
  let s := s.eraseCapsule name
  let (c, t) ← c.takeTensor.mapError fun f =>
    ⟨.failed f.cause, { s with heap := s.heap.dropCapsule f.state }⟩
  return ({ s with heap := s.heap.dropCapsule c }.putTensor out t, .done)

def dropCapsule (s : Session) (name : String) :
    Except (Failure Refusal Session) (Session × Reply) := do
  let c ← leaving s (need s.capsules name)
  return ({ s.eraseCapsule name with heap := s.heap.dropCapsule c }, .done)

def runCapsules (s : Session) : CapsuleCommand → Session × Outcome
  | .wrap name out o => settle (s.wrapBuffer name out o)
  | .wrapAs name out shape type device => settle (s.wrapBufferAs name out shape type device)
  | .describe name => (s, do return .capsule (← need s.capsules name))
  | .consume name out a => settle (s.consumeCapsule name out a)
  | .race name out n => settle (s.raceCapsule name out n)
  | .bytes name =>
    (s, do return .bytes (← attempt ((← need s.capsules name).bytes s.heap)))
  | .elements name type =>
    (s, do
      let c ← need s.capsules name
      return .scalars (type.decodeAll (← attempt (c.elements s.heap type))))
  | .takeTensor name out => settle (s.takeCapsuleTensor name out)
  | .intoTensor name out => settle (s.giveUpCapsule name out)
  | .drop name => settle (s.dropCapsule name)

end Session

end TensorExchange
