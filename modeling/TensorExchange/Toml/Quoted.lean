import TensorExchange.Toml.Scan

/-!
Quoted texts of a document.

A text in double quotes knows escapes, a text in single quotes none.  Three
quotes enclose a text of several lines: a line end right after them is dropped,
line ends inside count as line feeds, and one or two quotes may stand anywhere,
also directly before the closing three.
-/

namespace TensorExchange.Toml.Scan

def isHexDigit (c : Char) : Bool :=
  ('0' ≤ c && c ≤ '9') || ('a' ≤ c && c ≤ 'f') || ('A' ≤ c && c ≤ 'F')

/-- The value of a digit in a base up to sixteen. -/
def digitValue (c : Char) : Nat :=
  if '0' ≤ c && c ≤ '9' then c.toNat - '0'.toNat
  else if 'a' ≤ c && c ≤ 'f' then c.toNat - 'a'.toNat + 10
  else c.toNat - 'A'.toNat + 10

/-- The number that digits write in a base. -/
def digitsValue (base : Nat) (cs : List Char) : Nat :=
  cs.foldl (fun n c => n * base + digitValue c) 0

/-- The character whose number `n` hexadecimal digits write. -/
def hexChar (n : Nat) : Scan Char := do
  let value := digitsValue 16 (← takeExactly isHexDigit n)
  if value.isValidChar then return Char.ofNat value else failure

/-- The character that an escape stands for. -/
def escape : Scan Char := do
  char '\\'
  match ← one fun _ => true with
  | 'b' => return '\x08'
  | 't' => return '\t'
  | 'n' => return '\n'
  | 'f' => return '\x0c'
  | 'r' => return '\r'
  | '"' => return '"'
  | '\\' => return '\\'
  | 'u' => hexChar 4
  | 'U' => hexChar 8
  | _ => failure

/-- A character that stands for itself in double quotes. -/
def isBare (c : Char) : Bool := isPlain c && c != '"' && c != '\\'

/-- A character that stands for itself in single quotes. -/
def isLiteral (c : Char) : Bool := isPlain c && c != '\''

/-- A text on one line in double quotes. -/
def basicText : Scan String := do
  char '"'
  let cs ← many (one isBare <|> escape)
  char '"'
  return String.ofList cs

/-- A text on one line in single quotes. -/
def literalText : Scan String := do
  char '\''
  let cs ← takeWhile isLiteral
  char '\''
  return String.ofList cs

/-- A line end that a backslash hides, with all blanks and line ends after it. -/
def hiddenLine : Scan (List Char) := do
  char '\\'
  blanks
  newline
  let _ ← many ((do let _ ← takeSome isBlank) <|> newline)
  return []

/-- One or two quotes that do not close the text. -/
def innerQuotes (quote : Char) : Scan (List Char) := do
  let before ← get
  let quotes ← takeSome (· == quote)
  if quotes.length ≤ 2 then return quotes else do set before; failure

/-- The closing quotes: three, and before them up to two that belong to the text. -/
def closingQuotes (quote : Char) : Scan (List Char) := do
  let quotes ← takeSome (· == quote)
  if 3 ≤ quotes.length && quotes.length ≤ 5 then return quotes.drop 3 else failure

/-- A text of several lines whose pieces `piece` reads. -/
def longText (quote : Char) (piece : Scan (List Char)) : Scan String := do
  word (String.ofList [quote, quote, quote])
  let _ ← optional newline
  let pieces ← many ((do newline; return ['\n']) <|> piece <|> innerQuotes quote)
  let last ← closingQuotes quote
  return String.ofList (pieces.flatten ++ last)

def longBasicText : Scan String :=
  longText '"' (takeSome isBare <|> hiddenLine <|> (do return [← escape]))

def longLiteralText : Scan String := longText '\'' (takeSome isLiteral)

/-- A quoted text of any kind. -/
def quoted : Scan String := longBasicText <|> basicText <|> longLiteralText <|> literalText

end TensorExchange.Toml.Scan
