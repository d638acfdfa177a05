import TensorExchange.Error
import TensorExchange.Format

/-!
Configuration: the limits of allocation and the form of exported tensors.

A configuration starts from the defaults.  Settings of the environment are laid
over it one after the other, in a fixed order; the first that cannot be read
ends this, and what was laid over before stays.  A configuration is valid when
its alignment is a power of two and at most a page.
-/

namespace TensorExchange

/-- The settings of the exchange. -/
structure Config where
  alignment : Nat
  /-- The most bytes that one allocation may have. -/
  maxAllocation : Nat
  format : CapsuleFormat
  /-- Whether exported tensors forbid writing. -/
  readOnlyExports : Bool
deriving DecidableEq, Repr

/-- The bytes of a page. -/
def pageSize : Nat := 4096

def isPowerOfTwo (n : Nat) : Bool := 1 <<< n.log2 == n

namespace Config

/-- A cache line, four GiB, versioned exports that may be written. -/
def default : Config := ⟨64, 0x100000000, .versioned, false⟩

instance : Inhabited Config := ⟨default⟩

/-- Accepts a configuration whose alignment can be used. -/
def validate (c : Config) : Except Error Unit :=
  if !isPowerOfTwo c.alignment then .error (.config (.alignmentNotPowerOfTwo c.alignment))
  else if pageSize < c.alignment then .error (.config (.alignmentAbovePage c.alignment))
  else .ok ()

/-! ## The environment -/

/-- The settings of an environment, by name. -/
abbrev Environment := String → Option String

/-- Reads one setting and lays it over a configuration; a setting that is absent changes nothing. -/
structure Setting where
  name : String
  lay : String → Config → Except ConfigCause Config

/-- The number below `wordBound` that a setting gives, blanks around it not counted. -/
def readSize (name value : String) : Except ConfigCause Nat :=
  match Text.readNumeral wordBound (Text.trim value).toList with
  | .ok n => .ok n
  | .error cause => .error (.badNumeral name value cause)

/-- The truth value that a setting gives, blanks around it and capitals not counted. -/
def readFlag (name value : String) : Except ConfigCause Bool :=
  let word := Text.lower (Text.trim value)
  if word ∈ ["1", "true", "yes"] then .ok true
  else if word ∈ ["0", "false", "no"] then .ok false
  else .error (.badFlag name word)

def readFormat (name value : String) : Except ConfigCause CapsuleFormat :=
  match CapsuleFormat.parse? value with
  | some f => .ok f
  | none => .error (.badFormat name value)

def alignmentSetting : Setting where
  name := "HANDOFF_ALIGNMENT"
  lay value c := do return { c with alignment := ← readSize "HANDOFF_ALIGNMENT" value }

def limitSetting : Setting where
  name := "HANDOFF_MAX_ALLOCATION"
  lay value c := do return { c with maxAllocation := ← readSize "HANDOFF_MAX_ALLOCATION" value }

def formatSetting : Setting where
  name := "HANDOFF_CAPSULE_FORMAT"
  lay value c := do return { c with format := ← readFormat "HANDOFF_CAPSULE_FORMAT" value }

def readOnlySetting : Setting where
  name := "HANDOFF_READ_ONLY"
  lay value c := do return { c with readOnlyExports := ← readFlag "HANDOFF_READ_ONLY" value }

/-- The settings in the order in which they are read. -/
def settings : List Setting :=
  [alignmentSetting, limitSetting, formatSetting, readOnlySetting]

/-- Lays settings over a configuration until one is refused, then validates what came out.  Gives
the configuration reached and the error that ended this, if any. -/
def layAll (env : Environment) : List Setting → Config → Config × Except Error Unit
  | [], c => (c, c.validate)
  | s :: rest, c =>
    match env s.name with
    | none => layAll env rest c
    | some value =>
      match s.lay value c with
      | .ok c => layAll env rest c
      | .error cause => (c, .error (.config cause))

/-- The configuration that an environment leaves, and the error that ended its reading. -/
def applyEnvironment (c : Config) (env : Environment) : Config × Except Error Unit :=
  layAll env settings c

/-- The defaults with an environment laid over them. -/
def ofEnvironment (env : Environment) : Except Error Config := do
  let (c, result) := default.applyEnvironment env
  result
  return c

/-- The configuration of a process: its environment, or the defaults where that is refused. -/
def ofProcess (env : Environment) : Config :=
  match ofEnvironment env with
  | .ok c => c
  | .error _ => default

end Config

end TensorExchange
