import TensorExchange.Buffer.Read

/-!
Arrays: adopting them as buffers, and reading buffers as arrays.

Arrays belong to a library of its own.  It takes an owned array apart into a shape,
strides and the vector that has the elements, and says which of these comes first; all
of that a buffer keeps.  The other way, a buffer is read in place: the view begins at
the lowest element with positive strides, and each axis that runs backwards is then
turned around.  Or its elements are copied out, and the library makes an array of its
own from them.
-/

namespace TensorExchange

/-- The extents that are not zero multiply to at most `maxSize`. -/
def fitsArray (shape : List UInt64) : Bool :=
  match count? (shape.filter (· != 0)) with
  | some n => n ≤ maxSize
  | none => false

/-! ## Adopting an array -/

/-- What an owned array is taken apart into. -/
structure ArrayParts where
  type : ElementType
  shape : List UInt64
  /-- In elements. -/
  strides : List Int64
  /-- The vector that has the elements, in an order of its own. -/
  data : Array UInt8
  /-- Which element of the vector is the first one of the array; an array without elements may have
  none. -/
  first : Option Nat
deriving DecidableEq, Repr

namespace ArrayParts

def axes (a : ArrayParts) : List Axis := List.zipWith Axis.mk a.shape a.strides

/-- How many elements the array has. -/
def count (a : ArrayParts) : Nat := (a.axes.map fun axis => axis.extent.toNat).foldr (· * ·) 1

/-- How many elements the vector has. -/
def length (a : ArrayParts) : Nat := a.data.size / a.type.size

/-- Which element of the vector the one at an index is. -/
def entryAt (a : ArrayParts) (index : List Nat) : Int :=
  a.first.getD 0 + displacement a.axes index

/-- What holds of the parts of every array: as many strides as extents, a vector of whole elements
that memory can hold, extents that can be multiplied, and elements that are all in the vector. -/
def Valid (a : ArrayParts) : Prop :=
  a.strides.length = a.shape.length ∧ a.data.size = a.length * a.type.size ∧
    a.data.size ≤ maxSize ∧ fitsArray a.shape = true ∧
      ∀ k < a.count, 0 ≤ a.entryAt (unravel a.axes k) ∧ a.entryAt (unravel a.axes k) < a.length

instance (a : ArrayParts) : Decidable a.Valid := inferInstanceAs (Decidable (_ ∧ _))

end ArrayParts

/-- Adopts the parts of an array; if they do not fit together, its vector is let go. -/
def Buffer.ofArray (h : Heap) (a : ArrayParts) : Except (Failure Error Heap) (Heap × Buffer) := do
  let (h, whole) := Buffer.ofBytes h a.type a.data
  let byteOffset := UInt64.ofNat (a.first.getD 0 * a.type.size)
  let (h, b) ← (whole.view h a.shape a.strides byteOffset).mapError (.within (Heap.drop · whole))
  return (h.drop whole, b)

/-! ## Reading a buffer in place -/

/-- A view of memory: the byte at which its first element lies, and its axes. -/
structure ArrayView where
  origin : Int
  axes : List Axis
deriving DecidableEq, Repr

namespace ArrayView

/-- How many elements the view has. -/
def count (v : ArrayView) : Nat := (v.axes.map fun a => a.extent.toNat).foldr (· * ·) 1

def shape (v : ArrayView) : List UInt64 := v.axes.map Axis.extent

/-- The distance from the last element of an axis to its first, in elements. -/
def farEnd (a : Axis) : Int := ((a.extent.toNat : Int) - 1) * a.stride.toInt

/-- The axis seen from the other end. -/
def reverseAxis (a : Axis) : Axis := { a with stride := -a.stride }

/-- The view with its axes running forwards, from the lowest element on. -/
def ascending (origin : Int) (size : Nat) : List Axis → ArrayView
  | [] => ⟨origin, []⟩
  | a :: axes =>
    if a.stride < 0 then
      let v := ascending (origin + farEnd a * size) size axes
      ⟨v.origin, reverseAxis a :: v.axes⟩
    else
      let v := ascending origin size axes
      ⟨v.origin, a :: v.axes⟩

/-- Turns around the axes that run backwards in the layout viewed. -/
def descend (origin : Int) (size : Nat) : List Axis → List Axis → ArrayView
  | a :: axes, v :: view =>
    if a.stride < 0 then
      let w := descend (origin + farEnd v * size) size axes view
      ⟨w.origin, reverseAxis v :: w.axes⟩
    else
      let w := descend origin size axes view
      ⟨w.origin, v :: w.axes⟩
  | _, _ => ⟨origin, []⟩

/-- The bytes of the element at an index. -/
def elementAt (v : ArrayView) (memory : Array UInt8) (size : Nat) (index : List Nat) :
    Except Error (Array UInt8) :=
  let start := v.origin + displacement v.axes index * size
  TensorExchange.slice memory start (start + size)

/-- The bytes of the first `n` elements in row-major order. -/
def headBytes (v : ArrayView) (memory : Array UInt8) (size n : Nat) :
    Except Error (Array UInt8) :=
  (List.range (min n v.count)).foldlM
    (fun out k => do return out ++ (← v.elementAt memory size (unravel v.axes k))) #[]

end ArrayView

namespace Buffer

/-- The buffer as an array view, in place. -/
def arrayView (b : Buffer) (type : ElementType) : Except Error ArrayView := do
  b.checkType type
  b.checkHost
  if b.count = 0 then return ⟨0, b.layout.axes⟩
  let lowest := ArrayView.ascending b.layout.byteOffset.toNat type.size b.layout.axes
  if !(b.storage.base.shift lowest.origin).isAligned type.size then
    throw (.shape (.misalignedArray type))
  return ArrayView.descend lowest.origin type.size b.layout.axes lowest.axes

/-- A packed copy of the elements, from which the array library makes an array of the same shape. -/
def toArray {α : Type} (pack : ElementType → List UInt64 → Array UInt8 → Except ShapeCause α)
    (h : Heap) (b : Buffer) (type : ElementType) : Except Error α := do
  let data ← b.toPacked h type
  match pack type b.layout.shape data with
  | .ok a => return a
  | .error cause => throw (.shape cause)

end Buffer

/-- An array as a client of the array library sees it: its shape, and its elements in row-major
order. -/
structure PackedArray where
  type : ElementType
  shape : List UInt64
  data : Array UInt8
deriving DecidableEq, Repr

/-- Packs elements into an array, if arrays can have that shape. -/
def PackedArray.pack (type : ElementType) (shape : List UInt64) (data : Array UInt8) :
    Except ShapeCause PackedArray :=
  if fitsArray shape then .ok ⟨type, shape, data⟩ else .error .oversizedArray

end TensorExchange
