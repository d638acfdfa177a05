import TensorExchange.Device
import TensorExchange.ElementType
import TensorExchange.Layout.Basic

/-!
Errors: why an operation was refused.

Each error names its cause, with the numbers and names that its wording shows;
`message` is that wording.  An operation that fails reports exactly one cause,
the first in the order in which the operation makes its checks.  A fault is not
a refusal: it stands for a step that memory safety forbids, such as a slice that
ends behind its memory, and aborts the operation that took it.
-/

namespace TensorExchange

/-- Why memory could not be obtained. -/
inductive AllocationCause where
  | oversizedShape (shape : List UInt64)
  | oversizedElements (shape : List UInt64) (type : ElementType)
  | aboveLimit (size limit : Nat)
  | unsupportedDevice (backend : String) (device : Device)
  /-- The alignment is no power of two, or the size rounded up to it is more than `maxSize`. -/
  | invalidRequest (size alignment : Nat)
  | outOfMemory (size : Nat)
  | unmaterializable (count : Nat) (type : ElementType)
  | gatherTooLarge (size : Nat)
  | described (text : String)
deriving DecidableEq, Repr

/-- Why a shape, a stride or a view does not fit. -/
inductive ShapeCause where
  | layout (cause : LayoutError)
  | scatteredReshape (strides : List Int64)
  | scatteredView
  | scatteredTensor
  | sharedStorage
  | misaligned (type : ElementType)
  /-- The lowest element of an array view lies at an address its type does not allow. -/
  | misalignedArray (type : ElementType)
  /-- The extents that are not zero multiply to more than `maxSize`. -/
  | oversizedArray
  | described (text : String)
deriving DecidableEq, Repr

/-- Why a tensor of another runtime, or a write, was refused. -/
inductive TensorCause where
  | nullTensor
  | negativeDevice (id : Int32)
  | negativeRank (rank : Int32)
  | nullShape
  | negativeExtent (extent : Int64)
  | layout (cause : LayoutError)
  | nullData
  | oversizedSpan
  | offsetOutOfRange
  | nullBase
  | readOnly
  | described (text : String)
deriving DecidableEq, Repr

/-- Why a configuration was refused. -/
inductive ConfigCause where
  | alignmentNotPowerOfTwo (alignment : Nat)
  | alignmentAbovePage (alignment : Nat)
  | badNumeral (setting value : String) (cause : Text.NumeralError)
  | badFormat (setting value : String)
  | badFlag (setting value : String)
  | malformedDocument
  | described (text : String)
deriving DecidableEq, Repr

/-- Why a file could not be read. -/
inductive FileCause where
  | missing
  | notUtf8
deriving DecidableEq, Repr

/-- A step that memory safety forbids. -/
inductive Fault where
  | sliceOutOfRange (start stop size : Int)
  | offsetOverflow
deriving DecidableEq, Repr

/-- Why an operation was refused. -/
inductive Error where
  | allocation (cause : AllocationCause)
  | shape (cause : ShapeCause)
  | deviceMismatch (expected : String) (actual : Device)
  | alreadyConsumed
  | duplicateName (name : String)
  | notFound (name : String)
  | elementTypeMismatch (actual requested : ElementType)
  | unsupportedElementType (triple : TypeTriple)
  | unsupportedDevice (type : Int32)
  | unsupportedVersion (major minor : UInt32)
  | invalidTensor (cause : TensorCause)
  | config (cause : ConfigCause)
  | file (cause : FileCause)
  | fault (cause : Fault)
deriving DecidableEq, Repr

/-! ## Failures -/

/-- How an operation failed: why, and what it leaves of the state that it works on. -/
structure Failure (ε σ : Type) where
  cause : ε
  state : σ
deriving DecidableEq, Repr

/-- The result of a check that is made in a state; where it fails, that state is left. -/
def leaving {ε σ α : Type} (s : σ) (check : Except ε α) : Except (Failure ε σ) α :=
  check.mapError (⟨·, s⟩)

/-- The state after an operation, also after one that failed, and what it gave. -/
def settle {ε σ α : Type} : Except (Failure ε σ) (σ × α) → σ × Except ε α
  | .ok (s, a) => (s, .ok a)
  | .error f => (f.state, .error f.cause)

/-- The failure of an operation on a part of the state, as one of the operation around it. -/
def Failure.within {ε σ τ : Type} (whole : σ → τ) (f : Failure ε σ) : Failure ε τ :=
  ⟨f.cause, whole f.state⟩

/-! ## Wording -/

def AllocationCause.message : AllocationCause → String
  | .oversizedShape shape => s!"shape {Text.listing shape} overflows the addressable size"
  | .oversizedElements shape type =>
    s!"{Text.listing shape} x {type} overflows the addressable size"
  | .aboveLimit size limit => s!"{size} bytes exceeds the {limit} byte allocation limit"
  | .unsupportedDevice backend device => s!"{backend} backend cannot allocate on {device}"
  | .invalidRequest size alignment =>
    s!"{size} bytes aligned to {alignment}: invalid parameters to Layout::from_size_align"
  | .outOfMemory size => s!"out of memory allocating {size} bytes"
  | .unmaterializable count type => s!"{count} elements of {type} cannot be materialized"
  | .gatherTooLarge size =>
    s!"gathering {size} bytes: memory allocation failed because the memory allocator returned " ++
      "an error"
  | .described text => text

def ShapeCause.message : ShapeCause → String
  | .layout cause => cause.message
  | .scatteredReshape strides =>
    s!"cannot reshape non-contiguous view (strides {Text.listing strides})"
  | .scatteredView => "byte access needs a contiguous view"
  | .scatteredTensor => "byte access needs a contiguous tensor"
  | .sharedStorage => "storage is shared with another view"
  | .misaligned type => s!"cannot view bytes as {type}: TargetAlignmentGreaterAndInputNotAligned"
  | .misalignedArray type => s!"data is not aligned for {type}"
  | .oversizedArray => "ShapeError/Overflow: arithmetic overflow"
  | .described text => text

def TensorCause.message : TensorCause → String
  | .nullTensor => "managed tensor pointer is null"
  | .negativeDevice id => s!"negative device id {id}"
  | .negativeRank rank => s!"negative ndim {rank}"
  | .nullShape => "shape pointer is null"
  | .negativeExtent extent => s!"negative dimension {extent}"
  | .layout cause => cause.message
  | .nullData => "data pointer is null"
  | .oversizedSpan => "tensor span overflows the address space"
  | .offsetOutOfRange => "byte offset out of range"
  | .nullBase => "tensor base address is null"
  | .readOnly => "buffer is read-only"
  | .described text => text

def ConfigCause.message : ConfigCause → String
  | .alignmentNotPowerOfTwo n => s!"alignment must be a power of two, got {n}"
  | .alignmentAbovePage n => s!"alignment {n} exceeds a page"
  | .badNumeral setting value cause => s!"{setting}={value}: {cause.message}"
  | .badFormat setting value => s!"{setting}={value}: expected legacy or versioned"
  | .badFlag setting value => s!"{setting}={value}: expected a boolean"
  | .malformedDocument => "TOML parse error"
  | .described text => text

def FileCause.message : FileCause → String
  | .missing => "No such file or directory (os error 2)"
  | .notUtf8 => "stream did not contain valid UTF-8"

def Fault.message : Fault → String
  | .sliceOutOfRange start stop size => s!"slice {start}..{stop} of {size} bytes is out of range"
  | .offsetOverflow => "an element offset leaves the word"

/-- The wording of an error: its kind, then its cause. -/
def Error.message : Error → String
  | .allocation cause => "Allocation failed: " ++ cause.message
  | .shape cause => "Shape error: " ++ cause.message
  | .deviceMismatch expected actual =>
    s!"Device mismatch: consumer accepts {expected}, tensor lives on {actual}"
  | .alreadyConsumed => "Capsule already consumed"
  | .duplicateName name => "Duplicate name: " ++ name
  | .notFound name => "Not found: " ++ name
  | .elementTypeMismatch actual requested =>
    s!"Dtype mismatch: buffer holds {actual}, requested {requested}"
  | .unsupportedElementType t =>
    s!"Unsupported data type: code={t.code}, bits={t.bits}, lanes={t.lanes}"
  | .unsupportedDevice type => s!"Unsupported device type: {type}"
  | .unsupportedVersion major minor => s!"Unsupported DLPack version {major}.{minor}"
  | .invalidTensor cause => "Invalid tensor: " ++ cause.message
  | .config cause => "Configuration error: " ++ cause.message
  | .file cause => "IO error: " ++ cause.message
  | .fault cause => cause.message

/-! ## Layout errors -/

/-- A refused layout as an error: one that is too large is a failed allocation. -/
def LayoutError.toError : LayoutError → Error
  | .overflow shape => .allocation (.oversizedShape shape)
  | cause => .shape (.layout cause)

/-- The result, a refused layout being a shape error whatever its cause. -/
def orShapeError {α : Type} : Except LayoutError α → Except Error α
  | .ok a => .ok a
  | .error cause => .error (.shape (.layout cause))

/-- The result, a refused layout making the tensor that has it invalid. -/
def orInvalidTensor {α : Type} : Except LayoutError α → Except Error α
  | .ok a => .ok a
  | .error cause => .error (.invalidTensor (.layout cause))

/-- The result, a refused layout keeping its own kind of error. -/
def orLayoutError {α : Type} : Except LayoutError α → Except Error α
  | .ok a => .ok a
  | .error cause => .error cause.toError

end TensorExchange
