import TensorExchange.Decimal.Written
import TensorExchange.ElementType

/-!
Scalars: the values of single elements, decoded from memory.

Memory is little-endian.  Whole numbers have their value, floating-point numbers
keep their bits, so that no pattern is lost, and any byte but zero counts as
true.
-/

namespace TensorExchange

/-- The value of an element. -/
inductive Scalar where
  | whole (value : Int)
  | float (type : ElementType) (bits : Nat)
  | truth (value : Bool)
deriving DecidableEq, Repr

/-- The number that bytes write, the lowest first. -/
def littleEndian : List UInt8 → Nat
  | [] => 0
  | b :: bs => b.toNat + 256 * littleEndian bs

/-- The lowest `size` bytes of a number, the lowest first. -/
def toLittleEndian : Nat → Nat → List UInt8
  | 0, _ => []
  | size + 1, n => UInt8.ofNat (n % 256) :: toLittleEndian size (n / 256)

/-- A number below `2 ^ bits` read as a signed one. -/
def signedValue (bits n : Nat) : Int := if n < 1 <<< (bits - 1) then n else n - (1 <<< bits : Nat)

/-- The value that the bytes of one element stand for. -/
def ElementType.decode (t : ElementType) (bytes : List UInt8) : Scalar :=
  let n := littleEndian bytes
  match t with
  | .bool => .truth (n != 0)
  | .float16 | .bfloat16 | .float32 | .float64 => .float t n
  | .int8 | .int16 | .int32 | .int64 => .whole (signedValue t.bits n)
  | .uint8 | .uint16 | .uint32 | .uint64 => .whole n

/-- The values of packed elements. -/
def ElementType.decodeAll (t : ElementType) (bytes : Array UInt8) : List Scalar :=
  (List.range (bytes.size / t.size)).map fun i =>
    t.decode (bytes.extract (i * t.size) ((i + 1) * t.size)).toList

/-- The text of a float: the narrow types are written as single precision numbers. -/
def writeFloat (t : ElementType) (bits : Nat) : String :=
  match t with
  | .float64 => (Decimal.Binary.double.decode bits).write .double
  | .float16 => ((Decimal.Binary.half.decode bits).widen .single).write .single
  | .bfloat16 => ((Decimal.Binary.brain.decode bits).widen .single).write .single
  | _ => (Decimal.Binary.single.decode bits).write .single

/-- How an element is written. -/
def Scalar.write : Scalar → String
  | whole value => toString value
  | float type bits => writeFloat type bits
  | truth value => toString value

end TensorExchange
