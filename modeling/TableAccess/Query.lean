import TableAccess.Failure
import TableAccess.Fault
import TableAccess.Row

/-!
Statements with their parameters, and what a server answers to one: a stream of rows, counts
and failures. Whoever reads the stream stops at its first failure.
-/

set_option autoImplicit false
set_option relaxedAutoImplicit false

namespace TableAccess

/-- The text of a statement with the values of its parameters, the first one for `$1`. -/
structure Query where
  sql : String
  params : List Value

namespace Query

/-- A statement without parameters. -/
def plain (sql : String) : Query := ⟨sql, []⟩

def activity (q : Query) : Activity := .query q.sql

end Query

/-- What a statement gives back: a row, or the number of rows that it affected. -/
inductive Reply
  | row (r : Row)
  | affected (n : UInt64)

abbrev Answer := List (Except Failure Reply)

namespace Answer

/-- The rows and failures of an answer, without its counts. -/
def rows : Answer → List (Except Failure Row)
  | [] => []
  | .ok (.row r) :: items => .ok r :: rows items
  | .ok (.affected _) :: items => rows items
  | .error f :: items => .error f :: rows items

/-- The counts of an answer added to a sum one after another, or its first failure. A sum that
leaves its word wraps around. -/
def affectedFrom (sum : UInt64) : Answer → Except Failure UInt64
  | [] => .ok sum
  | .ok (.row _) :: items => affectedFrom sum items
  | .ok (.affected n) :: items => affectedFrom (sum + n) items
  | .error f :: _ => .error f

/-- The sum of the counts of an answer, or its first failure. -/
def affected (answer : Answer) : Except Failure UInt64 := answer.affectedFrom 0

/-- The same where sums are checked, so that one that leaves its word stops the program. -/
def affectedCheckedFrom (sum : UInt64) : Answer → Except Fault (Except Failure UInt64)
  | [] => .ok (.ok sum)
  | .ok (.row _) :: items => affectedCheckedFrom sum items
  | .ok (.affected n) :: items => do
    let _ ← Fault.word (.unsigned 64) (sum.toNat + n.toNat)
    affectedCheckedFrom (sum + n) items
  | .error f :: _ => .ok (.error f)

def affectedChecked (answer : Answer) : Except Fault (Except Failure UInt64) :=
  answer.affectedCheckedFrom 0

def failures : Answer → List Failure
  | [] => []
  | .ok _ :: items => failures items
  | .error f :: items => f :: failures items

def within (activity : Activity) (answer : Answer) : Answer :=
  answer.map fun item => item.mapError (Failure.within activity)

end Answer

end TableAccess
