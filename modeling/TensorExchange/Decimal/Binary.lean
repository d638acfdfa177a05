/-!
Binary floating-point formats: what number a pattern of bits stands for.

A format has a sign bit, then exponent bits, then fraction bits.  A finite
pattern stands for `significand * 2 ^ exponent`, the significand being a whole
number below twice the implicit bit.
-/

namespace TensorExchange.Decimal

/-- The widths of the fields of a format. -/
structure Binary where
  exponentBits : Nat
  fractionBits : Nat
deriving DecidableEq, Repr

/-- What a pattern stands for. -/
inductive FloatValue where
  | nan
  | infinite (negative : Bool)
  | finite (negative : Bool) (significand : Nat) (exponent : Int)
deriving DecidableEq, Repr

namespace Binary

def double : Binary := ⟨11, 52⟩

def single : Binary := ⟨8, 23⟩

def half : Binary := ⟨5, 10⟩

def brain : Binary := ⟨8, 7⟩

/-- What a normal significand has at least. -/
def implicitBit (f : Binary) : Nat := 1 <<< f.fractionBits

/-- The exponent of the least positive number. -/
def minExponent (f : Binary) : Int := 2 - (1 <<< (f.exponentBits - 1) : Nat) - f.fractionBits

/-- What a pattern of the format stands for. -/
def decode (f : Binary) (bits : Nat) : FloatValue :=
  let fraction := bits % f.implicitBit
  let exponent := bits / f.implicitBit % (1 <<< f.exponentBits)
  let negative := (bits >>> (f.fractionBits + f.exponentBits)) % 2 == 1
  if exponent = (1 <<< f.exponentBits) - 1 then
    if fraction = 0 then .infinite negative else .nan
  else if exponent = 0 then .finite negative fraction f.minExponent
  else .finite negative (f.implicitBit + fraction) (f.minExponent + (exponent - 1 : Nat))

/-- The pattern of the number nearest to a whole one, an even pattern where two are equally near. -/
def ofNat (f : Binary) (n : Nat) : Nat :=
  if n = 0 then 0
  else
    let exponent := n.log2
    let base := ((1 <<< (f.exponentBits - 1)) - 1 + exponent) * f.implicitBit
    if exponent ≤ f.fractionBits then base + ((n <<< (f.fractionBits - exponent)) - f.implicitBit)
    else
      let unit := 1 <<< (exponent - f.fractionBits)
      let below := n / unit
      let roundsUp := unit < 2 * (n % unit) ∨ (2 * (n % unit) = unit ∧ below % 2 = 1)
      base + (below - f.implicitBit) + (if roundsUp then 1 else 0)

/-- The same number with the significand and exponent it has in a wider format. -/
def widen (f : Binary) (significand : Nat) (exponent : Int) : Nat × Int :=
  let room := f.fractionBits - significand.log2
  let shift := min room (exponent - f.minExponent).toNat
  (significand <<< shift, exponent - shift)

end Binary

end TensorExchange.Decimal
