import TableAccess.Filter
import TableAccess.Statement.Clause

/-!
The predicate of a filter. A condition whose value writes nothing, a list without elements that
write anything and a group without such members are left out; a filter of which nothing is
left has no predicate.
-/

set_option autoImplicit false
set_option relaxedAutoImplicit false

namespace TableAccess

/-- A part of a statement that may be left out. -/
structure Predicate where
  write : WriteContext → Option String × WriteContext

namespace Predicate

/-- A predicate written after a text that is there already, and whether it is not left out. -/
def writeAfter (p : Predicate) (out : String) (c : WriteContext) :
    String × Bool × WriteContext :=
  let (s, c) := p.write c
  (out ++ s.getD "", s.isSome, c)

/-- The texts of the predicates that are not left out. -/
def writeAll : List Predicate → WriteContext → List String × WriteContext
  | [], c => ([], c)
  | p :: ps, c =>
    let (s, c) := p.write c
    let (ss, c) := writeAll ps c
    (s.toList ++ ss, c)

def enclosed (s : String) : String := "(" ++ s ++ ")"

/-- Alternatives or conditions in parentheses, left out when there are none. -/
def enclosedAll (separator : String) (texts : List String) : Option String :=
  if texts.isEmpty then none else some (enclosed (Text.joined separator texts))

def isNull (column : String) : Predicate :=
  ⟨fun c =>
    let (name, c) := (Clause.column column).write c
    (some (name ++ " IS null"), c)⟩

/-- A column compared with a value, left out when the value writes nothing. -/
def comparison (d : Dialect) (column : String) (op : Operator) (v : Value) : Predicate :=
  ⟨fun c =>
    let (literal, c) := (Clause.value d v).write c
    if literal = "" then (none, c)
    else
      let (name, c) := (Clause.column column).write c
      (some (name ++ " " ++ op.token ++ " " ++ literal), c)⟩

/-- A column equal to a value, or null for a null. -/
def equality (d : Dialect) (column : String) (v : Value) : Predicate :=
  if v.isNull then isNull column else comparison d column .equals v

def anyOf (d : Dialect) (column : String) (vs : List Value) : Predicate :=
  ⟨fun c =>
    let (ss, c) := writeAll (vs.map (equality d column)) c
    (enclosedAll " OR " ss, c)⟩

def condition (d : Dialect) (column : String) : Condition → Predicate
  | .value (.list (some vs) _) => anyOf d column vs
  | .anyOf vs => anyOf d column vs
  | .value v => equality d column v
  | .compare op v => comparison d column op v

/-- The texts of the conditions on columns that are there and not left out. -/
def writeColumns (d : Dialect) :
    List (String × Option Condition) → WriteContext → List String × WriteContext
  | [], c => ([], c)
  | (_, none) :: cs, c => writeColumns d cs c
  | (column, some k) :: cs, c =>
    let (s, c) := (condition d column k).write c
    let (ss, c) := writeColumns d cs c
    (s.toList ++ ss, c)

/-- Conditions that hold together, in parentheses when there are several. -/
def conjunction (texts : List String) : Option String :=
  match texts with
  | [] => none
  | [s] => some s
  | ss => some (enclosed (Text.joined " AND " ss))

mutual
/-- The predicate of a filter. -/
def writeFilter (d : Dialect) : Filter → WriteContext → Option String × WriteContext
  | .mk columns groups, c =>
    let (ss, c) := writeColumns d columns c
    let (ts, c) := writeGroups d groups c
    (conjunction (ss ++ ts), c)

/-- The texts of the groups that are not left out. -/
def writeGroups (d : Dialect) :
    List (Operator × List Filter) → WriteContext → List String × WriteContext
  | [], c => ([], c)
  | (op, members) :: groups, c =>
    let (ms, c) := writeMembers d members c
    let (ss, c) := writeGroups d groups c
    ((enclosedAll (" " ++ op.token ++ " ") ms).toList ++ ss, c)

/-- The texts of the members of a group that are not left out. -/
def writeMembers (d : Dialect) : List Filter → WriteContext → List String × WriteContext
  | [], c => ([], c)
  | f :: fs, c =>
    let (s, c) := writeFilter d f c
    let (ss, c) := writeMembers d fs c
    (s.toList ++ ss, c)
end

def filter (d : Dialect) (f : Filter) : Predicate := ⟨writeFilter d f⟩

/-- The members of a group joined by its operator, in parentheses. -/
def group (d : Dialect) (op : Operator) (members : List Filter) : Predicate :=
  ⟨fun c =>
    let (ms, c) := writeMembers d members c
    (enclosedAll (" " ++ op.token ++ " ") ms, c)⟩

/-- A filter by itself, with the parameters that it binds. -/
def compile (d : Dialect) (f : Filter) (parameterized : Bool) : String × List Value :=
  let (s, c) := writeFilter d f ⟨.condition, parameterized, []⟩
  (s.getD "", c.parameters)

end Predicate

end TableAccess
