/-!
The bracketed listing of numbers, used in messages and descriptions: items
between square brackets, a comma and a blank between two of them.
-/

namespace TensorExchange.Text

/-- The items in square brackets. -/
def bracketed (items : List String) : String :=
  "[" ++ String.intercalate ", " items ++ "]"

/-- A shape or another list of whole numbers. -/
def listing {α : Type} [ToString α] (xs : List α) : String :=
  bracketed (xs.map toString)

end TensorExchange.Text
