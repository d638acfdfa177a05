import TensorExchange.Device
import TensorExchange.ElementType

/-!
Serialized values: how element types and devices are read from structured data.

An element type is its abbreviated name, or an object with that name as its only
key and nothing under it.  A device is the text that shows it, or any text a
person may use for it.
-/

namespace TensorExchange

/-- Structured data, as far as names are read from it. -/
inductive Serialized where
  | text (s : String)
  /-- An object with one key; whether what is under it is nothing. -/
  | keyed (key : String) (isNothing : Bool)
  | other
deriving DecidableEq, Repr

/-- Why serialized data was refused. -/
inductive SerializedError where
  | wrongForm
  | unknownType
  | invalidDevice (text : String)
deriving DecidableEq, Repr

/-- The wording of a refusal, where this library words it. -/
def SerializedError.message? : SerializedError → Option String
  | .wrongForm => none
  | .unknownType => none
  | .invalidDevice text => some ("invalid device: " ++ text)

/-- The type with an abbreviated name. -/
def ElementType.readShortName (s : String) : Except SerializedError ElementType :=
  match ofShortName? s with
  | some t => .ok t
  | none => .error .unknownType

def ElementType.ofSerialized : Serialized → Except SerializedError ElementType
  | .text s => readShortName s
  | .keyed key true => readShortName key
  | .keyed _ false => .error .wrongForm
  | .other => .error .wrongForm

def Device.ofSerialized : Serialized → Except SerializedError Device
  | .text s =>
    match Device.parse? s with
    | some d => .ok d
    | none => .error (.invalidDevice s)
  | _ => .error .wrongForm

end TensorExchange
