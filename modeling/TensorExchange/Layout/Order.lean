import TensorExchange.Layout.Basic

/-!
Memory order: whether the elements of a layout follow one another without gaps, with the last axis
running fastest or with the first.

It is decided from strides and extents alone.  The axes are walked from the fastest one on, and the
stride of each is compared with the product of the extents before it; an axis with one element is
passed over, as its stride leads nowhere.  The product saturates, like all products of strides, so
the walk cannot fail.

A layout without elements is in every order.  One that is in both is reported as row-major, the
order that copies are made in.
-/

namespace TensorExchange

/-- How the elements of a layout are arranged; a layout that is both counts as row-major. -/
inductive MemoryOrder where
  | rowMajor
  | columnMajor
  | strided
deriving DecidableEq, Repr

def MemoryOrder.name : MemoryOrder → String
  | .rowMajor => "row-major"
  | .columnMajor => "column-major"
  | .strided => "strided"

/-- Whether axes, innermost first, step through memory without gaps when the first of them steps by
`expected`.  The stride of an axis with one element does not matter. -/
def compactFrom (expected : Int64) : List Axis → Bool
  | [] => true
  | a :: axes =>
    (a.extent == 1 || a.stride == expected) &&
      compactFrom (saturatingMul expected a.extent.toInt64) axes

namespace Layout

/-- Packed in row-major order, or without elements. -/
def isContiguous (l : Layout) : Bool := l.count == 0 || compactFrom 1 l.axes.reverse

/-- Packed in column-major order, or without elements. -/
def isColumnMajor (l : Layout) : Bool := l.count == 0 || compactFrom 1 l.axes

def order (l : Layout) : MemoryOrder :=
  if l.isContiguous then .rowMajor
  else if l.isColumnMajor then .columnMajor
  else .strided

end Layout

end TensorExchange
