import TensorExchange.Memory.Backend
import TensorExchange.Memory.Tensor

/-!
Record layouts: where the fields of the exchanged records lie in memory.

A field lies at the first place behind the one before it that its alignment
allows; a record is aligned like its most aligned field, and its size is a
multiple of that.  Pointers have eight bytes.
-/

namespace TensorExchange

/-- A field of a record. -/
structure Field where
  name : String
  size : Nat
  alignment : Nat
deriving DecidableEq, Repr

/-- A record: its fields in order. -/
structure RecordLayout where
  fields : List Field
deriving DecidableEq, Repr

namespace RecordLayout

/-- A number of `size` bytes, aligned to its size. -/
def number (name : String) (size : Nat) : Field := ⟨name, size, size⟩

def pointer (name : String) : Field := number name 8

/-- The places of fields that begin at `place` or behind it, and the place behind the last. -/
def placeFrom (place : Nat) : List Field → List (String × Nat) × Nat
  | [] => ([], place)
  | f :: rest =>
    let start := Backend.roundUp place f.alignment
    let (places, stop) := placeFrom (start + f.size) rest
    ((f.name, start) :: places, stop)

/-- The place of each field. -/
def places (r : RecordLayout) : List (String × Nat) := (placeFrom 0 r.fields).1

def alignment (r : RecordLayout) : Nat := (r.fields.map Field.alignment).foldr max 1

def size (r : RecordLayout) : Nat := Backend.roundUp (placeFrom 0 r.fields).2 r.alignment

/-- A field that holds a record. -/
def nested (name : String) (r : RecordLayout) : Field := ⟨name, r.size, r.alignment⟩

/-! ## The records of the exchange format -/

def device : RecordLayout := ⟨[number "device_type" 4, number "device_id" 4]⟩

def type : RecordLayout := ⟨[number "code" 1, number "bits" 1, number "lanes" 2]⟩

def version : RecordLayout := ⟨[number "major" 4, number "minor" 4]⟩

def tensor : RecordLayout :=
  ⟨[pointer "data", nested "device" device, number "ndim" 4, nested "dtype" type,
    pointer "shape", pointer "strides", number "byte_offset" 8]⟩

def legacy : RecordLayout :=
  ⟨[nested "dl_tensor" tensor, pointer "manager_ctx", pointer "deleter"]⟩

def versioned : RecordLayout :=
  ⟨[nested "version" version, pointer "manager_ctx", pointer "deleter", number "flags" 8,
    nested "dl_tensor" tensor]⟩

end RecordLayout

/-! ## Descriptions -/

def DevicePair.describe (p : DevicePair) : String :=
  s!"DLDevice \x7b device_type: {p.type}, device_id: {p.id} \x7d"

def TypeTriple.describe (t : TypeTriple) : String :=
  s!"DLDataType \x7b code: {t.code}, bits: {t.bits}, lanes: {t.lanes} \x7d"

def Version.describe (v : Version) : String :=
  s!"DLPackVersion \x7b major: {v.major}, minor: {v.minor} \x7d"

end TensorExchange
