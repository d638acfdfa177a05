/-!
Decimal numerals of bounded whole numbers.

A numeral is one optional plus sign and ASCII digits.  Reading goes from left to
right and stops at the first fault, so of two faults the left one is reported;
at one place a character that is no digit comes before a value that grew too
large.  Main statement: a number below the bound is read back from its decimal
digits (`readNumeral_decimal`).
-/

namespace TensorExchange.Text

/-- Why a numeral was refused. -/
inductive NumeralError where
  | empty
  | invalidDigit
  | tooLarge
deriving DecidableEq, Repr

/-- The wording of the refusal. -/
def NumeralError.message : NumeralError → String
  | .empty => "cannot parse integer from empty string"
  | .invalidDigit => "invalid digit found in string"
  | .tooLarge => "number too large to fit in target type"

/-- The value of an ASCII digit. -/
def digitValue? (c : Char) : Option Nat :=
  if '0' ≤ c ∧ c ≤ '9' then some (c.toNat - '0'.toNat) else none

/-- Reads the digits on, `value` being what was read so far; values stay below `bound`. -/
def readDigits (bound value : Nat) : List Char → Except NumeralError Nat
  | [] => .ok value
  | c :: cs =>
    match digitValue? c with
    | none => .error .invalidDigit
    | some d =>
      if value * 10 + d < bound then readDigits bound (value * 10 + d) cs
      else .error .tooLarge

/-- Drops a leading plus sign unless nothing else is there. -/
def dropPlus : List Char → List Char
  | ['+'] => ['+']
  | '+' :: cs => cs
  | cs => cs

/-- The value of a numeral below `bound`. -/
def readNumeral (bound : Nat) (cs : List Char) : Except NumeralError Nat :=
  match cs with
  | [] => .error .empty
  | cs => readDigits bound 0 (dropPlus cs)

/-! ## Decimal digits -/

/-- The character of a digit below ten. -/
def digitChar (d : Nat) : Char := Char.ofNat ('0'.toNat + d)

/-- The decimal digits of a number, without leading zeros. -/
def decimal (n : Nat) : List Char :=
  if n < 10 then [digitChar n] else decimal (n / 10) ++ [digitChar (n % 10)]

theorem digitValue?_digitChar {d : Nat} (h : d < 10) : digitValue? (digitChar d) = some d := by
  match d, h with
  | 0, _ | 1, _ | 2, _ | 3, _ | 4, _ | 5, _ | 6, _ | 7, _ | 8, _ | 9, _ => rfl

theorem digitChar_ne_plus {d : Nat} (h : d < 10) : digitChar d ≠ '+' := by
  match d, h with
  | 0, _ | 1, _ | 2, _ | 3, _ | 4, _ | 5, _ | 6, _ | 7, _ | 8, _ | 9, _ => decide

theorem decimal_eq_cons (n : Nat) : ∃ d r, d < 10 ∧ decimal n = digitChar d :: r := by
  induction n using Nat.strongRecOn with
  | ind n ih =>
    rw [decimal]
    split
    · exact ⟨n, [], by assumption, rfl⟩
    · obtain ⟨d, r, hd, hr⟩ := ih (n / 10) (by omega)
      exact ⟨d, r ++ [digitChar (n % 10)], hd, by rw [hr]; rfl⟩

/-- Reading the digits of `n` leaves `n` as the value read so far. -/
theorem readDigits_decimal_append {bound n : Nat} (h : n < bound) (rest : List Char) :
    readDigits bound 0 (decimal n ++ rest) = readDigits bound n rest := by
  induction n using Nat.strongRecOn generalizing rest with
  | ind n ih =>
    rw [decimal]
    split
    · next h' => simp [readDigits, digitValue?_digitChar h', h]
    · rw [List.append_assoc, ih (n / 10) (by omega) (by omega)]
      have hn : n / 10 * 10 + n % 10 = n := by omega
      simp [readDigits, digitValue?_digitChar (Nat.mod_lt n (by decide : 0 < 10)), hn, h]

/-- A number below the bound is read back from its digits. -/
theorem readNumeral_decimal {bound n : Nat} (h : n < bound) :
    readNumeral bound (decimal n) = .ok n := by
  obtain ⟨d, r, hd, hr⟩ := decimal_eq_cons n
  have hplus : dropPlus (decimal n) = decimal n := by
    have hne := digitChar_ne_plus hd
    rw [hr]
    unfold dropPlus
    split <;> simp_all
  have hread := readDigits_decimal_append h []
  rw [List.append_nil] at hread
  rw [hr] at hplus hread
  rw [hr, readNumeral]
  · rw [hplus, hread]; rfl
  · simp

end TensorExchange.Text
