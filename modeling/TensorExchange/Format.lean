import TensorExchange.Text.Blank
import TensorExchange.Text.Case

/-!
Capsule formats: the two forms in which a managed tensor is handed over.

The legacy form has a tensor and a deleter; the versioned form adds the version
of the exchange format and flags, among them the one that forbids writing.
-/

namespace TensorExchange

/-- The form of a managed tensor. -/
inductive CapsuleFormat where
  | legacy
  | versioned
deriving DecidableEq, Repr

namespace CapsuleFormat

def all : List CapsuleFormat := [legacy, versioned]

/-- The name under which a format is configured. -/
def name : CapsuleFormat → String
  | legacy => "legacy"
  | versioned => "versioned"

/-- The format as descriptions of capsules write it. -/
def tag : CapsuleFormat → String
  | legacy => "Legacy"
  | versioned => "Versioned"

/-- The name of a handle whose tensor nobody claimed. -/
def handleName : CapsuleFormat → String
  | legacy => "dltensor"
  | versioned => "dltensor_versioned"

/-- The name of a handle whose tensor was claimed. -/
def usedName (f : CapsuleFormat) : String := "used_" ++ f.handleName

/-- A short name that people use. -/
def shortName : CapsuleFormat → String
  | legacy => "v0"
  | versioned => "v1"

/-- The format a person means; capitals and the blanks around the text do not matter. -/
def parse? (s : String) : Option CapsuleFormat :=
  let word := Text.lower (Text.trim s)
  all.find? fun f => word == f.name || word == f.shortName

/-- The format with a configured name, which is spelled exactly. -/
def ofName? (s : String) : Option CapsuleFormat := all.find? fun f => s == f.name

end CapsuleFormat

end TensorExchange
