import TableAccess.Text.Blank

/-!
The excerpt of a statement that messages quote: at most 497 characters, on a line of its own.
-/

set_option autoImplicit false
set_option relaxedAutoImplicit false

namespace TableAccess.Text

/-- How many characters of a long text an excerpt keeps. -/
def excerptLength : Nat := 497

/-- The text without its final blanks, cut and marked by dots when it is long, and a line end. -/
def excerpt (s : String) : String :=
  let cs := s.toList
  let kept := String.ofList (trimEnd (cs.take excerptLength))
  kept ++ (if excerptLength < cs.length then "..." else "") ++ "\n"

end TableAccess.Text
