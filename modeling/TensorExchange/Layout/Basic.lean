import TensorExchange.Text.Listing

/-!
Layouts: how the elements of a tensor lie in memory.

A layout is a list of axes, each with its extent and its stride in elements, and
the byte offset of the first element.  Extents and offsets are 64-bit words and
strides signed 64-bit words, as in the exchange format; products that might leave
those words are checked where a layout is built, in the order of the axes, and
nowhere later.
-/

namespace TensorExchange

/-- One more than the largest word. -/
def wordBound : Nat := 0x10000000000000000

/-- One more than the largest signed word. -/
def signedBound : Int := 0x8000000000000000

/-- The largest size that memory or a count of elements may have. -/
def maxSize : Nat := 0x7fffffffffffffff

/-- One axis: how many elements it has and how far apart they lie, in elements. -/
structure Axis where
  extent : UInt64
  stride : Int64
deriving DecidableEq, Repr

/-- The axes of a tensor, outermost first, and the byte offset of its first element. -/
structure Layout where
  axes : List Axis
  byteOffset : UInt64
deriving DecidableEq, Repr

/-- Why a layout was refused. -/
inductive LayoutError where
  | rankMismatch (shape strides : Nat)
  /-- The shape has more elements than memory has bytes, or its extent is not representable. -/
  | overflow (shape : List UInt64)
  | outOfBounds (start stop : Int) (size : Nat)
  | countMismatch (found wanted : Nat)
deriving DecidableEq, Repr

/-- The wording of the refusal. -/
def LayoutError.message : LayoutError → String
  | .rankMismatch shape strides => s!"shape has {shape} dimensions but strides have {strides}"
  | .overflow shape => s!"shape {Text.listing shape} overflows the addressable size"
  | .outOfBounds start stop size =>
    s!"view reaches bytes {start}..{stop} outside an allocation of {size} bytes"
  | .countMismatch found wanted => s!"reshape from {found} to {wanted} elements"

/-! ## Element counts -/

/-- The count so far times the extents that follow, none if it leaves the word on the way. -/
def countFrom? (count : Nat) : List UInt64 → Option Nat
  | [] => some count
  | d :: ds => if count * d.toNat < wordBound then countFrom? (count * d.toNat) ds else none

/-- How many elements a shape has, none if the product leaves the word on the way. -/
def count? (shape : List UInt64) : Option Nat := countFrom? 1 shape

/-- Accepts a shape whose count is at most `maxSize`. -/
def checkShape (shape : List UInt64) : Except LayoutError Unit :=
  match count? shape with
  | some n => if n ≤ maxSize then .ok () else .error (.overflow shape)
  | none => .error (.overflow shape)

namespace Layout

def shape (l : Layout) : List UInt64 := l.axes.map Axis.extent

def strides (l : Layout) : List Int64 := l.axes.map Axis.stride

/-- The number of axes. -/
def rank (l : Layout) : Nat := l.axes.length

/-- How many elements the layout has: the product of the extents in word arithmetic. -/
def count (l : Layout) : Nat := (l.axes.foldl (fun n a => n * a.extent) (1 : UInt64)).toNat

/-- The bytes the elements take when packed, none if memory cannot hold them. -/
def bytes? (l : Layout) (size : Nat) : Option Nat :=
  if l.count * size ≤ maxSize then some (l.count * size) else none

/-- The extents as the exchange format writes them, in signed words. -/
def signedShape (l : Layout) : List Int64 := l.shape.map UInt64.toInt64

end Layout

/-! ## Row-major strides -/

/-- The word nearest to a number. -/
def nearestWord (n : Int) : Int64 := Int64.ofInt (max (-signedBound) (min n (signedBound - 1)))

/-- The product, or the word nearest to it. -/
def saturatingMul (a b : Int64) : Int64 := nearestWord (a.toInt * b.toInt)

/-- The row-major strides of a shape, and the stride an axis before it would have.  An empty axis
counts as one element long, so every axis gets a stride of its own. -/
def strideWalk : List UInt64 → List Int64 × Int64
  | [] => ([], 1)
  | d :: ds =>
    let (strides, next) := strideWalk ds
    (next :: strides, saturatingMul next (max d 1).toInt64)

/-- The row-major strides of a shape. -/
def rowMajorStrides (shape : List UInt64) : Except LayoutError (List Int64) := do
  checkShape shape
  return (strideWalk shape).1

namespace Layout

/-- The packed row-major layout of a shape. -/
def contiguous (shape : List UInt64) : Except LayoutError Layout := do
  let strides ← rowMajorStrides shape
  return ⟨List.zipWith Axis.mk shape strides, 0⟩

/-- One packed axis of `n` elements. -/
def vector (n : UInt64) : Layout := ⟨[⟨n, 1⟩], 0⟩

/-- A single element without axes. -/
def scalar : Layout := ⟨[], 0⟩

/-- The layout with these strides and this byte offset. -/
def strided (shape : List UInt64) (strides : List Int64) (byteOffset : UInt64) :
    Except LayoutError Layout := do
  if shape.length ≠ strides.length then
    throw (.rankMismatch shape.length strides.length)
  checkShape shape
  return ⟨List.zipWith Axis.mk shape strides, byteOffset⟩

/-- The packed layout of a new shape over the same elements, from the same offset on. -/
def reshaped (l : Layout) (shape : List UInt64) : Except LayoutError Layout := do
  match count? shape with
  | none => throw (.overflow shape)
  | some n =>
    if n ≠ l.count then throw (.countMismatch l.count n)
    let packed ← contiguous shape
    return { packed with byteOffset := l.byteOffset }

end Layout

end TensorExchange
