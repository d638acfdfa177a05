import TensorExchange.Toml.Quoted

/-!
Numbers of a document.

Integers are decimal, without leading zeros, or have a base mark and digits;
underscores may stand between two digits.  They fit a signed 64-bit word.  A
float is refused when it is positive and rounds to infinity.
-/

namespace TensorExchange.Toml.Scan

def isDigit (c : Char) : Bool := '0' ≤ c && c ≤ '9'

/-- Digits, a single underscore allowed between two of them. -/
def digits (ok : Char → Bool) : Scan (List Char) := do
  let first ← one ok
  let rest ← many (one ok <|> (do char '_'; one ok))
  return first :: rest

/-- Whether the sign read, if any, is a minus. -/
def sign : Scan Bool := do
  match ← optional (one fun c => c == '+' || c == '-') with
  | some '-' => return true
  | _ => return false

/-- Decimal digits that do not begin with a zero, or a zero. -/
def plainDigits : Scan (List Char) := do
  match ← peek with
  | some '0' => char '0'; return ['0']
  | _ => digits isDigit

/-- The number if it fits a signed 64-bit word. -/
def word64 (n : Int) : Scan Int :=
  if -0x8000000000000000 ≤ n && n < 0x8000000000000000 then return n else failure

def decimalInteger : Scan Int := do
  let negative ← sign
  let n := digitsValue 10 (← plainDigits)
  word64 (if negative then -(n : Int) else n)

/-- An integer with a base mark. -/
def basedInteger (mark : String) (base : Nat) (ok : Char → Bool) : Scan Int := do
  word mark
  word64 (digitsValue base (← digits ok))

def integer : Scan Int := do
  match (← get).take 2 with
  | ['0', 'x'] => basedInteger "0x" 16 isHexDigit
  | ['0', 'o'] => basedInteger "0o" 8 fun c => '0' ≤ c && c ≤ '7'
  | ['0', 'b'] => basedInteger "0b" 2 fun c => c == '0' || c == '1'
  | _ => decimalInteger

/-! ## Floats -/

/-- The least number that rounds to infinity: half a unit above the largest finite double. -/
def infinityBound : Nat := (1 <<< 1024) - (1 <<< 970)

/-- Whether `n * 10 ^ e` rounds to infinity; only numbers of 309 digits are multiplied out. -/
def roundsToInfinity (n : Nat) (e : Int) : Bool :=
  if n == 0 then false
  else
    let length : Int := (Nat.toDigits 10 n).length + e
    if length ≤ 308 then false
    else if 310 ≤ length then true
    else if 0 ≤ e then infinityBound ≤ n * Nat.pow 10 e.toNat
    else infinityBound * Nat.pow 10 (-e).toNat ≤ n

def fraction : Scan (List Char) := do
  char '.'
  digits isDigit

def exponent : Scan Int := do
  let _ ← one fun c => c == 'e' || c == 'E'
  let negative ← sign
  let n := digitsValue 10 (← digits isDigit)
  return if negative then -(n : Int) else n

/-- A float written with digits: a fraction, an exponent or both. -/
def digitFloat : Scan Unit := do
  let negative ← sign
  let whole ← plainDigits
  let frac ← optional fraction
  let exp ← optional exponent
  if frac.isNone && exp.isNone then failure
  let places := frac.getD []
  let n := digitsValue 10 (whole ++ places)
  if !negative && roundsToInfinity n (exp.getD 0 - places.length) then failure

/-- Infinity or not a number, with a sign or without. -/
def specialFloat : Scan Unit := do
  let _ ← sign
  word "inf" <|> word "nan"

end TensorExchange.Toml.Scan
