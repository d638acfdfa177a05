import TensorExchange.Decimal.Binary

/-!
The shortest decimal that reads back as a floating-point number.

The numbers that round to a given one form an interval, with its ends when the
significand is even.  On the coarsest decimal grid that has a point inside, one
of the two grid points around the number is inside; that one is taken, of two
the nearer, and of two equally near the larger.
-/

namespace TensorExchange.Decimal

/-- A decimal number `digits * 10 ^ exponent`. -/
structure DecimalNumber where
  digits : Nat
  exponent : Int
deriving DecidableEq, Repr

/-- The numbers that round to `value * 2 ^ exponent`: those between the bounds, which count as
inside when `closed`.  All three are in units of the same power of two. -/
structure Rounding where
  low : Nat
  value : Nat
  high : Nat
  exponent : Int
  closed : Bool
deriving DecidableEq, Repr

namespace Rounding

/-- The interval of a positive number of a format, in quarters of its last binary place.  Below a
power of two the places are half as wide, except at the least exponent. -/
def of (f : Binary) (significand : Nat) (exponent : Int) : Rounding where
  low :=
    if significand = f.implicitBit ∧ f.minExponent < exponent then 4 * significand - 1
    else 4 * significand - 2
  value := 4 * significand
  high := 4 * significand + 2
  exponent := exponent - 2
  closed := significand % 2 == 0

/-- `n * 2 ^ exponent / 10 ^ grid` is `n * (scale r grid).1 / (scale r grid).2`. -/
def scale (r : Rounding) (grid : Int) : Nat × Nat :=
  (Nat.pow 10 (-grid).toNat <<< r.exponent.toNat, Nat.pow 10 grid.toNat <<< (-r.exponent).toNat)

/-- Whether `c * 10 ^ grid` lies in the interval. -/
def holds (r : Rounding) (grid : Int) (c : Nat) : Bool :=
  let (up, down) := r.scale grid
  if r.closed then r.low * up ≤ c * down && c * down ≤ r.high * up
  else r.low * up < c * down && c * down < r.high * up

/-- The point of a grid that stands for the number, if one lies in the interval. -/
def onGrid? (r : Rounding) (grid : Int) : Option Nat :=
  let (up, down) := r.scale grid
  let below := r.value * up / down
  let above := below + 1
  if r.holds grid above then
    if below ≠ 0 ∧ r.holds grid below ∧ 2 * (r.value * up) < (below + above) * down then
      some below
    else some above
  else if below ≠ 0 ∧ r.holds grid below then some below
  else none

/-- A power of ten above the interval. -/
def topGrid (r : Rounding) : Int := (r.high.log2 + 1 + r.exponent) * 30103 / 100000 + 2

/-- The first grid from `grid` down, of `n` at most, with a point in the interval. -/
def search (r : Rounding) (grid : Int) : Nat → DecimalNumber
  | 0 => ⟨0, 0⟩
  | n + 1 =>
    match r.onGrid? grid with
    | some c => ⟨c, grid⟩
    | none => search r (grid - 1) n

end Rounding

/-- The decimal without the zeros its digits end with. -/
def stripZeros (digits : Nat) (exponent : Int) : DecimalNumber :=
  if h : digits ≠ 0 ∧ digits % 10 = 0 then stripZeros (digits / 10) (exponent + 1)
  else ⟨digits, exponent⟩
termination_by digits
decreasing_by omega

/-- The shortest decimal that reads back as a positive number of a format.  Seventeen digits are
enough for every format up to double, and the search begins at most three grids above. -/
def shortest (f : Binary) (significand : Nat) (exponent : Int) : DecimalNumber :=
  let r := Rounding.of f significand exponent
  let found := r.search r.topGrid 24
  stripZeros found.digits found.exponent

end TensorExchange.Decimal
