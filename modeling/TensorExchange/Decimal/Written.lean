import TensorExchange.Decimal.Shortest
import TensorExchange.Text.Numeral

/-!
How floating-point numbers are written.

The shortest decimal is written with a point, at least one digit on both sides
of it, when its leading digit stands between the fourth place behind the point
and the sixteenth before it, and otherwise with an exponent.
-/

namespace TensorExchange.Decimal

/-- The powers of ten of a leading digit that are written with a point. -/
def isPositional (leading : Int) : Bool := -4 ≤ leading && leading < 16

/-- Digits with the point after the first, and an exponent. -/
def scientific (digits : List Char) (leading : Int) : String :=
  match digits with
  | [] => ""
  | [d] => s!"{d}e{leading}"
  | d :: rest => s!"{d}.{String.ofList rest}e{leading}"

/-- Digits with a point where it belongs. -/
def positional (digits : List Char) (leading : Int) : String :=
  if leading < 0 then
    "0." ++ String.ofList (List.replicate (-leading - 1).toNat '0' ++ digits)
  else
    let whole := leading.toNat + 1
    let padded := digits ++ List.replicate (whole - digits.length) '0'
    let places := digits.drop whole
    String.ofList (padded.take whole) ++ "." ++
      (if places.isEmpty then "0" else String.ofList places)

/-- A positive number of a format. -/
def writePositive (f : Binary) (significand : Nat) (exponent : Int) : String :=
  let d := shortest f significand exponent
  let digits := Text.decimal d.digits
  let leading := digits.length - 1 + d.exponent
  if isPositional leading then positional digits leading else scientific digits leading

/-- A value whose finite numbers are those of a format. -/
def FloatValue.write (f : Binary) : FloatValue → String
  | .nan => "NaN"
  | .infinite negative => if negative then "-inf" else "inf"
  | .finite negative significand exponent =>
    let text := if significand = 0 then "0.0" else writePositive f significand exponent
    if negative then "-" ++ text else text

/-- The same value in a wider format. -/
def FloatValue.widen (f : Binary) : FloatValue → FloatValue
  | .finite negative significand exponent =>
    let (significand, exponent) := f.widen significand exponent
    .finite negative significand exponent
  | v => v

end TensorExchange.Decimal
