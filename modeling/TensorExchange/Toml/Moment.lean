import TensorExchange.Toml.Number

/-!
Dates and times of a document.

They are read only to be told from other values and from text that is no value:
months have their days, leap years counted, hours end with 23, minutes with 59,
and seconds with 60, for a leap second.
-/

namespace TensorExchange.Toml.Scan

/-- A number of exactly `n` digits from `low` to `high`. -/
def bounded (n low high : Nat) : Scan Nat := do
  let value := digitsValue 10 (← takeExactly isDigit n)
  if low ≤ value && value ≤ high then return value else failure

def isLeapYear (year : Nat) : Bool := year % 4 == 0 && (year % 100 != 0 || year % 400 == 0)

def daysInMonth (year month : Nat) : Nat :=
  if month == 2 then (if isLeapYear year then 29 else 28)
  else if month ∈ [4, 6, 9, 11] then 30
  else 31

def date : Scan Unit := do
  let year ← bounded 4 0 9999
  char '-'
  let month ← bounded 2 1 12
  char '-'
  let _ ← bounded 2 1 (daysInMonth year month)

def time : Scan Unit := do
  let _ ← bounded 2 0 23
  char ':'
  let _ ← bounded 2 0 59
  char ':'
  let _ ← bounded 2 0 60
  let _ ← optional (do char '.'; takeSome isDigit)

/-- The distance from universal time. -/
def zone : Scan Unit := do
  match ← one fun c => c == 'Z' || c == 'z' || c == '+' || c == '-' with
  | 'Z' | 'z' => return ()
  | _ =>
    let _ ← bounded 2 0 23
    char ':'
    let _ ← bounded 2 0 59

/-- A date, a time, or a date with a time after it. -/
def moment : Scan Unit :=
  (do
    date
    let _ ← optional (do
      let _ ← one fun c => c == 'T' || c == 't' || c == ' '
      time
      optional zone)) <|> time

end TensorExchange.Toml.Scan
