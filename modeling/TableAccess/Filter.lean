import TableAccess.Value.Basic

/-!
Filters: conditions on columns, and groups of filters joined by a connective. All conditions
and all groups of a filter hold together.
-/

set_option autoImplicit false
set_option relaxedAutoImplicit false

namespace TableAccess

/-- The connectives of groups and the comparisons of conditions. -/
inductive Operator
  | and
  | or
  | equals
  | notEquals
  | greaterThan
  | lessThan
  | greaterOrEqual
  | lessOrEqual
  | is
  | isNot
  deriving DecidableEq, Repr

def Operator.token : Operator → String
  | .and => "AND"
  | .or => "OR"
  | .equals => "="
  | .notEquals => "!="
  | .greaterThan => ">"
  | .lessThan => "<"
  | .greaterOrEqual => ">="
  | .lessOrEqual => "<="
  | .is => "IS"
  | .isNot => "IS NOT"

/-- A condition on one column: equality with a value, with any of some values, or a
comparison. A list as the value of an equality stands for its elements, a null for nullness. -/
inductive Condition
  | value (v : Value)
  | anyOf (vs : List Value)
  | compare (op : Operator) (v : Value)

/-- A filter: conditions on columns, absent ones included, and groups of filters, each with the
operator that joins them. Both are in the order in which they were added. -/
inductive Filter
  | mk (columns : List (String × Option Condition)) (groups : List (Operator × List Filter))

/-- The values that a condition compares its column with. -/
def Condition.operands : Condition → List Value
  | .value (.list (some vs) _) => vs
  | .value v => [v]
  | .anyOf vs => vs
  | .compare _ v => [v]

def Condition.same : Condition → Condition → Bool
  | .value a, .value b => a.same b
  | .anyOf a, .anyOf b => Value.sameAll a b
  | .compare o a, .compare p b => o == p && a.same b
  | _, _ => false

namespace Filter

/-- A filter without conditions. -/
def empty : Filter := .mk [] []

instance : Inhabited Filter := ⟨empty⟩

def columns : Filter → List (String × Option Condition)
  | .mk cs _ => cs

def groups : Filter → List (Operator × List Filter)
  | .mk _ gs => gs

mutual
/-- The values that the conditions of a filter and of its groups compare with. -/
def operands : Filter → List Value
  | .mk columns groups =>
    (columns.filterMap Prod.snd).flatMap Condition.operands ++ groupOperands groups

/-- The values that the conditions of groups compare with. -/
def groupOperands : List (Operator × List Filter) → List Value
  | [] => []
  | (_, members) :: groups => memberOperands members ++ groupOperands groups

/-- The values that the conditions of filters compare with. -/
def memberOperands : List Filter → List Value
  | [] => []
  | f :: fs => operands f ++ memberOperands fs
end

/-- How many conditions and groups there are, absent conditions included. -/
def size (f : Filter) : Nat := f.columns.length + f.groups.length

/-- There are neither conditions nor groups. -/
def isEmpty (f : Filter) : Bool := f.columns.isEmpty && f.groups.isEmpty

/-- A filter with a further condition, which may be absent. -/
def maybe (f : Filter) (column : String) (condition : Option Condition) : Filter :=
  .mk (f.columns ++ [(column, condition)]) f.groups

def condition (f : Filter) (column : String) (condition : Condition) : Filter :=
  f.maybe column (some condition)

def eq (f : Filter) (column : String) (v : Value) : Filter := f.condition column (.value v)

/-- A filter with a further equality with any of some values. -/
def anyOf (f : Filter) (column : String) (vs : List Value) : Filter :=
  f.condition column (.anyOf vs)

def compare (f : Filter) (column : String) (op : Operator) (v : Value) : Filter :=
  f.condition column (.compare op v)

def group (f : Filter) (op : Operator) (members : List Filter) : Filter :=
  .mk f.columns (f.groups ++ [(op, members)])

/-- A filter with a further group of filters that hold together. -/
def and (f : Filter) (members : List Filter) : Filter := f.group .and members

/-- A filter with a further group of filters one of which holds. -/
def or (f : Filter) (members : List Filter) : Filter := f.group .or members

def withId (id : Int64) : Filter := empty.eq "id" (.integer id)

/-- Equality of lists of conditions, one by one. -/
def sameColumns :
    List (String × Option Condition) → List (String × Option Condition) → Bool
  | [], [] => true
  | (c, a) :: as, (d, b) :: bs =>
    c == d && (match a, b with
      | none, none => true
      | some a, some b => a.same b
      | _, _ => false) && sameColumns as bs
  | _, _ => false

mutual
def same : Filter → Filter → Bool
  | .mk cs gs, .mk ds hs => sameColumns cs ds && sameGroups gs hs

/-- Equality of lists of groups, one by one. -/
def sameGroups : List (Operator × List Filter) → List (Operator × List Filter) → Bool
  | [], [] => true
  | (o, fs) :: gs, (p, es) :: hs => o == p && sameAll fs es && sameGroups gs hs
  | _, _ => false

/-- Equality of lists of filters, one by one. -/
def sameAll : List Filter → List Filter → Bool
  | [], [] => true
  | f :: fs, e :: es => same f e && sameAll fs es
  | _, _ => false
end

end Filter

end TableAccess
