import TableAccess.Filter

/-!
What filters are made of: the names of their columns, and the values that these are compared with.
-/

set_option autoImplicit false
set_option relaxedAutoImplicit false

namespace TableAccess

/-- The values among some that are not null, in order. -/
def Value.present (vs : List Value) : List Value := vs.filter fun v => !v.isNull

theorem Value.present_null {v : Value} (null : v.isNull = true) : present [v] = [] :=
  List.filter_cons_of_neg (by rw [null]; decide)

theorem Value.present_held {v : Value} (held : v.isNull = false) : present [v] = [v] :=
  List.filter_cons_of_pos (by rw [held]; rfl)

/-- The values that are not null among those that a condition compares its column with. -/
def Condition.compared : Condition → List Value
  | .value (.list (some vs) _) | .anyOf vs => Value.present vs
  | .value v | .compare _ v => Value.present [v]

namespace Filter

/-- The values that are not null among those that some conditions compare their columns with. -/
def comparedInColumns : List (String × Option Condition) → List Value
  | [] => []
  | (_, none) :: columns => comparedInColumns columns
  | (_, some k) :: columns => k.compared ++ comparedInColumns columns

mutual
/-- The values that are not null among those that a filter compares columns with, in the order in
which they are written. -/
def compared : Filter → List Value
  | .mk columns groups => comparedInColumns columns ++ comparedInGroups groups

def comparedInGroups : List (Operator × List Filter) → List Value
  | [] => []
  | (_, members) :: groups => comparedInMembers members ++ comparedInGroups groups

def comparedInMembers : List Filter → List Value
  | [] => []
  | f :: fs => compared f ++ comparedInMembers fs
end

mutual
/-- The names of the columns of a filter, those of its groups included. -/
def names : Filter → List String
  | .mk columns groups => columns.map Prod.fst ++ namesInGroups groups

def namesInGroups : List (Operator × List Filter) → List String
  | [] => []
  | (_, members) :: groups => namesInMembers members ++ namesInGroups groups

def namesInMembers : List Filter → List String
  | [] => []
  | f :: fs => names f ++ namesInMembers fs
end

end Filter

end TableAccess
