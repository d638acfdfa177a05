/-!
Blank characters and trimming.

A character is blank when it has the White_Space property.  `trim` drops the
blanks from both ends of a text and leaves the ones inside; names and numbers
that a person typed are trimmed before they are read.
-/

namespace TensorExchange.Text

/-- The characters with the White_Space property. -/
def isBlank (c : Char) : Bool :=
  let n := c.toNat
  (0x9 ≤ n && n ≤ 0xD) || n == 0x20 || n == 0x85 || n == 0xA0 || n == 0x1680 ||
    (0x2000 ≤ n && n ≤ 0x200A) || n == 0x2028 || n == 0x2029 || n == 0x202F || n == 0x205F ||
    n == 0x3000

/-- The characters without the blanks they begin with. -/
def trimLeft (cs : List Char) : List Char := cs.dropWhile isBlank

/-- The characters without the blanks they end with. -/
def trimRight (cs : List Char) : List Char := (trimLeft cs.reverse).reverse

/-- The text without the blanks at either end. -/
def trim (s : String) : String := String.ofList (trimRight (trimLeft s.toList))

/-! ## What trimming leaves -/

theorem trimLeft_eq_self {c : Char} {cs : List Char} (h : isBlank c = false) :
    trimLeft (c :: cs) = c :: cs := by
  simp [trimLeft, List.dropWhile, h]

theorem trimLeft_of_no_blank {cs : List Char} (h : ∀ c ∈ cs, isBlank c = false) :
    trimLeft cs = cs := by
  cases cs with
  | nil => rfl
  | cons c r => exact trimLeft_eq_self (h c (by simp))

theorem trim_of_no_blank {s : String} (h : ∀ c ∈ s.toList, isBlank c = false) : trim s = s := by
  have h' : ∀ c ∈ s.toList.reverse, isBlank c = false := by
    intro c hc
    exact h c (List.mem_reverse.1 hc)
  rw [trim, trimLeft_of_no_blank h, trimRight, trimLeft_of_no_blank h', List.reverse_reverse,
    String.ofList_toList]

end TensorExchange.Text
