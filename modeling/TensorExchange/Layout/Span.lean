import TensorExchange.Layout.Basic

/-!
Spans: the bytes that a layout reaches.

The span of a layout is the range from its lowest byte to the end of its highest
element, counted from the base of the memory, so it may begin below zero.  It is
computed in 128-bit arithmetic; a layout whose extent leaves even that is
refused.
-/

namespace TensorExchange

/-- A range of byte positions, the end not included. -/
structure Span where
  start : Int
  stop : Int
deriving DecidableEq, Repr

/-- How many bytes a span has. -/
def Span.length (s : Span) : Int := s.stop - s.start

/-- One more than the largest number of 128-bit arithmetic. -/
def wideBound : Int := 0x80000000000000000000000000000000

/-- A number of 128-bit arithmetic, none if it is out of range. -/
def wide? (n : Int) : Option Int := if -wideBound ≤ n ∧ n < wideBound then some n else none

/-- How far the last element of an axis lies from its first, in bytes. -/
def Axis.reach? (a : Axis) (size : Nat) : Option Int := do
  let elements ← wide? (((a.extent.toNat : Int) - 1) * a.stride.toInt)
  wide? (elements * size)

/-- The reaches of the axes added up, the negative ones and the others apart. -/
def hull? (size : Nat) (low high : Int) : List Axis → Option (Int × Int)
  | [] => some (low, high)
  | a :: axes => do
    let reach ← a.reach? size
    if reach < 0 then
      let low ← wide? (low + reach)
      hull? size low high axes
    else
      let high ← wide? (high + reach)
      hull? size low high axes

namespace Layout

/-- The span of a layout with elements, none if its bounds leave 128-bit arithmetic. -/
def wideSpan? (l : Layout) (size : Nat) : Option Span := do
  let (low, high) ← hull? size 0 0 l.axes
  let start ← wide? (l.byteOffset.toNat + low)
  let last ← wide? (l.byteOffset.toNat + high)
  let stop ← wide? (last + size)
  return ⟨start, stop⟩

/-- The bytes a layout reaches; without elements it reaches none. -/
def span (l : Layout) (size : Nat) : Except LayoutError (Option Span) :=
  if l.count = 0 then .ok none
  else
    match l.wideSpan? size with
    | some s => .ok (some s)
    | none => .error (.overflow l.shape)

/-- Accepts a layout whose elements all lie inside memory of `length` bytes. -/
def checkWithin (l : Layout) (size length : Nat) : Except LayoutError Unit := do
  match ← l.span size with
  | none => return ()
  | some s =>
    if 0 ≤ s.start ∧ s.stop ≤ length then return ()
    else throw (.outOfBounds s.start s.stop length)

end Layout

end TensorExchange
