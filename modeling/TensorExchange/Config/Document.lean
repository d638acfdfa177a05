import TensorExchange.Config
import TensorExchange.Toml.Document

/-!
Configurations from documents: a text or a file whose root table sets fields.

A field that the document does not set has its default, and keys that name no
field are left alone.  Whatever is wrong with the document, or with the kind of
a field's value, is one error; a configuration that was read is validated.
-/

namespace TensorExchange

namespace Config

/-- A size is an integer that is not negative. -/
def sizeOf? : Toml.Value → Option Nat
  | .integer n => if 0 ≤ n then some n.toNat else none
  | _ => none

def flagOf? : Toml.Value → Option Bool
  | .flag b => some b
  | _ => none

/-- Whether a value is an array or a table with nothing in it. -/
def isEmptyValue : Toml.Value → Bool
  | .array [] => true
  | .table _ [] => true
  | _ => false

/-- A format is its name, or a table with that name as its only key and nothing under it. -/
def formatOf? : Toml.Value → Option CapsuleFormat
  | .text s => CapsuleFormat.ofName? s
  | .table _ [(name, v)] => if isEmptyValue v then CapsuleFormat.ofName? name else none
  | _ => none

/-- The field under a key, its default if the key is missing. -/
def field? {α : Type} (t : Toml.Table) (key : String) (read : Toml.Value → Option α)
    (default : α) : Option α :=
  match t.get? key with
  | some v => read v
  | none => some default

/-- The configuration that a root table sets. -/
def ofTable? (t : Toml.Table) : Option Config := do
  let alignment ← field? t "alignment" sizeOf? default.alignment
  let maxAllocation ← field? t "max_allocation_bytes" sizeOf? default.maxAllocation
  let format ← field? t "capsule_format" formatOf? default.format
  let readOnlyExports ← field? t "read_only_exports" flagOf? default.readOnlyExports
  return ⟨alignment, maxAllocation, format, readOnlyExports⟩

/-- The configuration that a document sets. -/
def ofDocument (s : String) : Except Error Config := do
  match Toml.read? s >>= ofTable? with
  | some c =>
    c.validate
    return c
  | none => throw (.config .malformedDocument)

/-- The configuration that a file sets; `none` is a file that does not exist. -/
def ofFile (content : Option ByteArray) : Except Error Config :=
  match content with
  | none => .error (.file .missing)
  | some bytes =>
    match String.fromUTF8? bytes with
    | some s => ofDocument s
    | none => .error (.file .notUtf8)

end Config

end TensorExchange
