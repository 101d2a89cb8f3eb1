import TableAccess.Text.Blank
import TableAccess.Text.Split

/-!
The words of a search query: its longest runs of characters other than blanks and commas.
-/

set_option autoImplicit false
set_option relaxedAutoImplicit false

namespace TableAccess.Text

/-- What may stand between two words. -/
def isWordBreak (c : Char) : Bool := isBlank c || c == ','

/-- The words of a query, in order. -/
def wordsOf (s : List Char) : List (List Char) :=
  (pieces isWordBreak s).filter fun w => !w.isEmpty

/-- The words of a query, in order. -/
def words (query : String) : List String := (wordsOf query.toList).map String.ofList

end TableAccess.Text
