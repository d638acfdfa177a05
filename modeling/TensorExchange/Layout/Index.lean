import TensorExchange.Layout.Basic

/-!
Indices of the elements of a layout.

An index has one position per axis.  `unravel` lists the indices in row-major
order, `advance` steps from one to the next like an odometer, and `displacement`
says how many elements an index lies from the first one.
-/

namespace TensorExchange

/-- The index with row-major rank `k`; the last position changes fastest. -/
def unravel : List Axis → Nat → List Nat
  | [], _ => []
  | _ :: axes, k =>
    let inner := (axes.map fun a => a.extent.toNat).foldr (· * ·) 1
    k / inner :: unravel axes (k % inner)

/-- The next index in row-major order, and whether it started over. -/
def advance : List Axis → List Nat → List Nat × Bool
  | a :: axes, i :: index =>
    let (rest, carry) := advance axes index
    if carry then
      if i + 1 < a.extent.toNat then ((i + 1) :: rest, false) else (0 :: rest, true)
    else (i :: rest, false)
  | _, _ => ([], true)

/-- The elements between an index and the first element. -/
def displacement : List Axis → List Nat → Int
  | a :: axes, i :: index => (i : Int) * a.stride.toInt + displacement axes index
  | _, _ => 0

end TensorExchange
