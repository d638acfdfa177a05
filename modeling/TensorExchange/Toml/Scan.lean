/-!
Scanning a document: steps that read characters from the front of what is left.

A step either fails or gives a result and what is left after it; the alternative
of two steps starts the second where the first began.  Blanks are spaces and
tabs, lines end with a line feed that a carriage return may precede, and a
comment holds no control character but the tab.
-/

namespace TensorExchange.Toml

/-- A step that reads from the front of the characters left. -/
abbrev Scan := StateT (List Char) Option

namespace Scan

/-- The next character, which stays. -/
def peek : Scan (Option Char) := do return (← get).head?

/-- Reads a character of a class. -/
def one (ok : Char → Bool) : Scan Char := do
  match ← get with
  | c :: cs => if ok c then set cs; return c else failure
  | [] => failure

/-- Reads this character. -/
def char (c : Char) : Scan Unit := do let _ ← one (· == c)

/-- Reads these characters. -/
def word (s : String) : Scan Unit := s.toList.forM char

/-- Reads characters of a class, as many as follow. -/
def takeWhile (ok : Char → Bool) : Scan (List Char) := do
  let cs ← get
  set (cs.dropWhile ok)
  return cs.takeWhile ok

/-- Reads characters of a class, at least one. -/
def takeSome (ok : Char → Bool) : Scan (List Char) := do
  let taken ← takeWhile ok
  if taken.isEmpty then failure else return taken

/-- Reads exactly `n` characters of a class. -/
def takeExactly (ok : Char → Bool) (n : Nat) : Scan (List Char) := do
  let cs ← get
  if (cs.take n).length == n && (cs.take n).all ok then set (cs.drop n); return cs.take n
  else failure

/-- Reads what a step reads, if it can. -/
def optional {α : Type} (step : Scan α) : Scan (Option α) := some <$> step <|> pure none

/-- Succeeds when nothing is left. -/
def atEnd : Scan Unit := do if (← get).isEmpty then return () else failure

/-- Takes a step again and again, `n` times at most, until it fails. -/
def upTo {α : Type} (step : Scan α) : Nat → Scan (List α)
  | 0 => pure []
  | n + 1 => do
    match ← optional step with
    | some a => return a :: (← upTo step n)
    | none => return []

/-- Takes a step that reads at least one character again and again until it fails. -/
def many {α : Type} (step : Scan α) : Scan (List α) := do upTo step (← get).length

/-- Items with a separator between them, possibly none. -/
def separated {α : Type} (item : Scan α) (mark : Char) : Scan (List α) := do
  match ← optional item with
  | none => return []
  | some a => return a :: (← many (do char mark; item))

/-! ## Blanks, lines and comments -/

def isBlank (c : Char) : Bool := c == ' ' || c == '\t'

/-- A character that may stand in a comment: no control character but the tab. -/
def isPlain (c : Char) : Bool := c == '\t' || (' ' ≤ c && c != '\x7f')

def blanks : Scan Unit := do let _ ← takeWhile isBlank

def newline : Scan Unit := word "\n" <|> word "\r\n"

def comment : Scan Unit := do
  char '#'
  let _ ← takeWhile isPlain

def lineEnd : Scan Unit := newline <|> atEnd

/-- The rest of a line that holds nothing more. -/
def trailing : Scan Unit := do
  blanks
  let _ ← optional comment
  lineEnd

/-- Blanks, comments and line ends. -/
def gap : Scan Unit := do
  let _ ← many ((do let _ ← takeSome isBlank) <|> (do let _ ← optional comment; newline))

end Scan

end TensorExchange.Toml
