import TableAccess.Filter

/-!
The clauses that a statement can carry besides its table: columns, filter, order and paging.
-/

set_option autoImplicit false
set_option relaxedAutoImplicit false

namespace TableAccess

/-- The direction of an order. -/
inductive Direction
  | ascending
  | descending
  deriving DecidableEq, Repr, Inhabited

def Direction.token : Direction → String
  | .ascending => "ASC"
  | .descending => "DESC"

/-- Columns to order by, the first one first. -/
abbrev Ordering := List (String × Direction)

/-- The clauses of a statement. Without an order rows are ordered by their identifiers, with an
empty one they are not ordered. -/
structure Clauses where
  select : Option (List String) := none
  filter : Option Filter := none
  order : Option Ordering := none
  offset : Option UInt64 := none
  limit : Option UInt64 := none
  returning : Option (List String) := none
  deriving Inhabited

end TableAccess
