import TensorExchange.Negotiation

/-!
Values of the scripting side, and how arguments are read from them.

A value of the wrong kind is a type error, a number out of range an overflow
error, and a tuple of the wrong length a value error; the binding words these
itself, so they carry no message.
-/

namespace TensorExchange.Interop

/-- A value that a script passes. -/
inductive Value where
  | nothing
  | truth (value : Bool)
  | whole (value : Int)
  | fractional
  | text (s : String)
  | sequence (items : List Value)
  | mapping
deriving Inhabited

/-- The kinds of exception that a script sees. -/
inductive ExceptionKind where
  | type
  | value
  | key
  | memory
  | runtime
  | buffer
  | overflow
deriving DecidableEq, Repr

/-- An exception: its kind, and its message where this library words it. -/
structure Exception where
  kind : ExceptionKind
  message : Option String
deriving DecidableEq, Repr

namespace Exception

def wrongType : Exception := ⟨.type, none⟩

def outOfRange : Exception := ⟨.overflow, none⟩

def wrongLength : Exception := ⟨.value, none⟩

/-- The exception that stands for an error. -/
def ofError (e : Error) : Exception :=
  let kind : ExceptionKind :=
    match e with
    | .allocation _ => .memory
    | .notFound _ => .key
    | .alreadyConsumed | .file _ => .runtime
    | _ => .value
  ⟨kind, some e.message⟩

end Exception

namespace Value

/-- A whole number from `low` up to `bound`, which is left out; a truth value counts as one. -/
def toInt (low bound : Int) : Value → Except Exception Int
  | whole n => if low ≤ n ∧ n < bound then .ok n else .error .outOfRange
  | truth b => .ok (if b then 1 else 0)
  | _ => .error .wrongType

/-- A size: a whole number that is a word. -/
def toSize (v : Value) : Except Exception Nat := do
  return (← v.toInt 0 wordBound).toNat

def toText : Value → Except Exception String
  | text s => .ok s
  | _ => .error .wrongType

/-- A list of sizes. -/
def toSizes : Value → Except Exception (List UInt64)
  | sequence items => items.mapM fun v => do return UInt64.ofNat (← v.toSize)
  | _ => .error .wrongType

/-- A pair of whole numbers of one range. -/
def toPair (low bound : Int) : Value → Except Exception (Int × Int)
  | sequence [a, b] => do
    let a ← a.toInt low bound
    let b ← b.toInt low bound
    return (a, b)
  | sequence _ => .error .wrongLength
  | _ => .error .wrongType

/-- What an argument is read as, none where nothing is passed. -/
def optional {α : Type} (read : Value → Except Exception α) : Value →
    Except Exception (Option α)
  | nothing => .ok none
  | v => do return some (← read v)

def toVersion (v : Value) : Except Exception Version := do
  let (major, minor) ← v.toPair 0 0x100000000
  return ⟨UInt32.ofNat major.toNat, UInt32.ofNat minor.toNat⟩

def toDevicePair (v : Value) : Except Exception DevicePair := do
  let (type, id) ← v.toPair (-0x80000000) 0x80000000
  return ⟨Int32.ofInt type, Int32.ofInt id⟩

def toFlag : Value → Except Exception Bool
  | truth b => .ok b
  | _ => .error .wrongType

end Value

end TensorExchange.Interop
