import TensorExchange.Text.Case.Table

/-!
The lowercase form of a text.

Each character is replaced by its lowercase form.  Two need care: capital I with
a dot becomes two characters, and capital sigma takes the form it has at the end
of a word when a cased letter stands before it and none after it, not counting
the case-ignorable characters between.
-/

namespace TensorExchange.Text

/-- Whether some range holds the number. -/
def inRanges (ranges : List (Nat × Nat)) (n : Nat) : Bool :=
  ranges.any fun (low, high) => low ≤ n && n ≤ high

/-- A letter that has case. -/
def isCased (c : Char) : Bool := inRanges casedRanges c.toNat

/-- A character that does not end a word when case is decided. -/
def isCaseIgnorable (c : Char) : Bool := inRanges caseIgnorableRanges c.toNat

/-- Whether the run lists the character numbered `n`. -/
def CaseRun.lists (r : CaseRun) (n : Nat) : Bool :=
  r.first ≤ n && n ≤ r.last && (n - r.first) % r.step == 0

/-- The lowercase form of a character that has one of a single character, else the character. -/
def lowerSimple (c : Char) : Char :=
  match lowercaseRuns.find? (·.lists c.toNat) with
  | some r => Char.ofNat (c.toNat + r.shift).toNat
  | none => c

/-- Whether the first character that is not case-ignorable is cased. -/
def meetsCased (cs : List Char) : Bool :=
  match cs.dropWhile isCaseIgnorable with
  | c :: _ => isCased c
  | [] => false

/-- The lowercase sigma for a place in a word: `before` is what precedes it, nearest first. -/
def lowerSigma (before after : List Char) : Char :=
  if meetsCased before && !meetsCased after then 'ς' else 'σ'

/-- The lowercase form of one character between `before` and `after`. -/
def lowerChar (before : List Char) (c : Char) (after : List Char) : List Char :=
  if c = 'Σ' then [lowerSigma before after]
  else if c = 'İ' then ['i', '\u0307']
  else [lowerSimple c]

/-- The lowercase forms of the characters that follow `before`. -/
def lowerFrom (before : List Char) : List Char → List Char
  | [] => []
  | c :: after => lowerChar before c after ++ lowerFrom (c :: before) after

/-- The lowercase form of a text. -/
def lower (s : String) : String := String.ofList (lowerFrom [] s.toList)

/-! ## Characters without a lowercase form of their own -/

/-- Characters that the lowercase form keeps. -/
def isCaseless (c : Char) : Bool :=
  c ≠ 'Σ' && c ≠ 'İ' && lowerSimple c == c

theorem lowerChar_of_caseless {c : Char} (h : isCaseless c = true) (before after : List Char) :
    lowerChar before c after = [c] := by
  simp only [isCaseless, ne_eq, Bool.and_eq_true, decide_eq_true_eq, beq_iff_eq] at h
  obtain ⟨⟨h₁, h₂⟩, h₃⟩ := h
  simp [lowerChar, h₁, h₂, h₃]

theorem lowerFrom_of_caseless (cs : List Char) :
    ∀ before, (∀ c ∈ cs, isCaseless c = true) → lowerFrom before cs = cs := by
  induction cs with
  | nil => intro before _; rfl
  | cons c r ih =>
    intro before h
    rw [lowerFrom, lowerChar_of_caseless (h c (by simp)),
      ih (c :: before) fun d hd => h d (by simp [hd])]
    rfl

theorem lower_of_caseless {s : String} (h : ∀ c ∈ s.toList, isCaseless c = true) :
    lower s = s := by
  rw [lower, lowerFrom_of_caseless s.toList [] h, String.ofList_toList]

end TensorExchange.Text
