import TensorExchange.Text.Case

/-!
Element types of a tensor.

An element type fixes how many bytes an element takes and how they are read.  It
has a canonical name, an abbreviation that is also its serialized form, and the
triple of type code, bits and lanes by which the exchange format tells types
apart.  Main statements: the triple and the canonical name are read back.
-/

namespace TensorExchange

/-- The element types that tensors may have. -/
inductive ElementType where
  | int8 | int16 | int32 | int64
  | uint8 | uint16 | uint32 | uint64
  | float16 | bfloat16 | float32 | float64
  | bool
deriving DecidableEq, Repr

/-- The triple that names an element type in the exchange format. -/
structure TypeTriple where
  code : UInt8
  bits : UInt8
  lanes : UInt16
deriving DecidableEq, Repr, Inhabited

namespace ElementType

/-- Every element type. -/
def all : List ElementType :=
  [int8, int16, int32, int64, uint8, uint16, uint32, uint64, float16, bfloat16, float32, float64,
    bool]

/-- The type taken where none is named. -/
def default : ElementType := float32

/-- Bytes per element. -/
def size : ElementType → Nat
  | int8 | uint8 | bool => 1
  | int16 | uint16 | float16 | bfloat16 => 2
  | int32 | uint32 | float32 => 4
  | int64 | uint64 | float64 => 8

/-- Bits per element. -/
def bits (t : ElementType) : Nat := t.size * 8

def isFloat : ElementType → Bool
  | float16 | bfloat16 | float32 | float64 => true
  | _ => false

def isSignedInt : ElementType → Bool
  | int8 | int16 | int32 | int64 => true
  | _ => false

/-- The canonical name, which is also how the type is shown. -/
def name : ElementType → String
  | int8 => "int8"
  | int16 => "int16"
  | int32 => "int32"
  | int64 => "int64"
  | uint8 => "uint8"
  | uint16 => "uint16"
  | uint32 => "uint32"
  | uint64 => "uint64"
  | float16 => "float16"
  | bfloat16 => "bfloat16"
  | float32 => "float32"
  | float64 => "float64"
  | bool => "bool"

/-- The abbreviated name, under which the type is serialized. -/
def shortName : ElementType → String
  | int8 => "i8"
  | int16 => "i16"
  | int32 => "i32"
  | int64 => "i64"
  | uint8 => "u8"
  | uint16 => "u16"
  | uint32 => "u32"
  | uint64 => "u64"
  | float16 => "f16"
  | bfloat16 => "bf16"
  | float32 => "f32"
  | float64 => "f64"
  | bool => "bool"

/-- The abbreviated name as descriptions of buffers and capsules write it. -/
def tag : ElementType → String
  | int8 => "I8"
  | int16 => "I16"
  | int32 => "I32"
  | int64 => "I64"
  | uint8 => "U8"
  | uint16 => "U16"
  | uint32 => "U32"
  | uint64 => "U64"
  | float16 => "F16"
  | bfloat16 => "BF16"
  | float32 => "F32"
  | float64 => "F64"
  | bool => "Bool"

/-- Further names that people use. -/
def aliases : ElementType → List String
  | int16 => ["short"]
  | int32 => ["int"]
  | int64 => ["long"]
  | uint8 => ["byte"]
  | float16 => ["half"]
  | float32 => ["float"]
  | float64 => ["double"]
  | bool => ["boolean"]
  | _ => []

/-- The type string of the array interface; it has none of its own for bfloat16. -/
def typeString : ElementType → String
  | int8 => "|i1"
  | int16 => "<i2"
  | int32 => "<i4"
  | int64 => "<i8"
  | uint8 => "|u1"
  | uint16 => "<u2"
  | uint32 => "<u4"
  | uint64 => "<u8"
  | float16 => "<f2"
  | bfloat16 => "<V2"
  | float32 => "<f4"
  | float64 => "<f8"
  | bool => "|b1"

/-- The type a person means by a name; capitals do not matter, blanks do. -/
def parse? (s : String) : Option ElementType :=
  let word := Text.lower s
  all.find? fun t => word == t.name || word == t.shortName || t.aliases.contains word

/-- The type with a serialized name, which is spelled exactly. -/
def ofShortName? (s : String) : Option ElementType :=
  all.find? fun t => s == t.shortName

/-! ## The exchange triple -/

/-- The type code: signed, unsigned, float, brain float, truth value. -/
def code : ElementType → UInt8
  | int8 | int16 | int32 | int64 => 0
  | uint8 | uint16 | uint32 | uint64 => 1
  | float16 | float32 | float64 => 2
  | bfloat16 => 4
  | bool => 6

/-- The triple of a type; vectors of elements are not exchanged. -/
def triple (t : ElementType) : TypeTriple := ⟨t.code, UInt8.ofNat t.bits, 1⟩

/-- The type with this triple. -/
def ofTriple? (t : TypeTriple) : Option ElementType := all.find? fun e => e.triple = t

theorem ofTriple?_triple (t : ElementType) : ofTriple? t.triple = some t := by
  cases t <;> decide

theorem triple_of_ofTriple? {d : TypeTriple} {t : ElementType} (h : ofTriple? d = some t) :
    t.triple = d := by
  simpa using List.find?_some h

theorem size_pos (t : ElementType) : 0 < t.size := by cases t <;> decide

theorem size_le_eight (t : ElementType) : t.size ≤ 8 := by cases t <;> decide

end ElementType

instance : ToString ElementType := ⟨ElementType.name⟩

end TensorExchange
