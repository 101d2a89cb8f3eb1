import TableAccess.Record
import TableAccess.Statement.Write
import TableAccess.World

/-!
Repositories: the entities of one table. An operation runs one statement, unless its argument
is missing; it gives the entities of the answer, or the first failure of the answer within the
statement, which it reports.
-/

set_option autoImplicit false
set_option relaxedAutoImplicit false

namespace TableAccess

/-- The entities of the rows of an answer, up to its first failure or the first row that is no
entity. -/
def Answer.entities {α : Type} [Entity α] : Answer → Except Failure (List α)
  | [] => .ok []
  | .ok (.affected _) :: items => Answer.entities items
  | .error f :: _ => .error f
  | .ok (.row r) :: items =>
    match Entity.ofRow r with
    | .error f => .error f
    | .ok e =>
      match Answer.entities items with
      | .error f => .error f
      | .ok es => .ok (e :: es)

/-- The statement that a part writes by itself, its values as literals where it does not bind
them. -/
def Clause.query (a : Clause) : Query :=
  let (sql, c) := a.write .inline
  ⟨sql, c.parameters⟩

namespace Executor

variable {S α : Type}

def fetch [Entity α] (x : Executor S) (q : Query) : Fallible S (List α) := fun s =>
  let (answer, s) := x.run q s
  match (answer.entities : Except Failure (List α)) with
  | .ok es => (.ok es, s)
  | .error f => x.fail q f s

/-- Runs a statement for the first entity of its answer. -/
def fetchFirst [Entity α] (x : Executor S) (q : Query) : Fallible S (Option α) := fun s =>
  match x.fetch q s with
  | (.ok es, s) => (.ok es.head?, s)
  | (.error f, s) => (.error f, s)

/-- Refuses arguments, and reports that. No statement is run. -/
def refuse (x : Executor S) (reason : Refusal) : Fallible S α := fun s =>
  let f := Failure.of (.invalidArguments reason)
  (.error f, x.report .error f.message s)

end Executor

/-- The entities of a table. -/
structure Repository (α : Type) where
  table : Table
  deriving DecidableEq, Repr

namespace Repository

variable {S α : Type} [Entity α]

def find (r : Repository α) (x : Executor S) (o : Clauses) : Fallible S (List α) :=
  x.fetch (Statement.select x.dialect r.table o).query

/-- The first entity that clauses select. -/
def findOne (r : Repository α) (x : Executor S) (o : Clauses) : Fallible S (Option α) :=
  x.fetchFirst (Statement.select x.dialect r.table { o with limit := some 1 }).query

def findById (r : Repository α) (x : Executor S) (id : Int64) (columns : Option (List String)) :
    Fallible S (Option α) :=
  x.fetchFirst (Statement.select x.dialect r.table
    { select := columns, filter := some (.withId id), limit := some 1 }).query

/-- Inserts a row, and gives it as it was stored. -/
def create (r : Repository α) (x : Executor S) (fields : Option Fields)
    (columns : Option (List String)) : Fallible S α :=
  match fields with
  | none => x.refuse .nothingToCreate
  | some fields =>
    let q := (Statement.insert r.table fields { returning := columns }).query
    fun s =>
      match x.fetchFirst q s with
      | (.ok (some e), s) => (.ok e, s)
      | (.ok none, s) => x.fail q (.of .noInsertedRow) s
      | (.error f, s) => (.error f, s)

/-- Updates the rows of a filter, and gives them as they were stored. -/
def update (r : Repository α) (x : Executor S) (filter : Option Filter) (fields : Option Fields)
    (columns : Option (List String)) : Fallible S (List α) :=
  match fields with
  | none => x.refuse .nothingToUpdate
  | some fields =>
    x.fetch (Statement.update x.dialect r.table fields
      { filter := filter, returning := columns }).query

/-- Updates the row with an identifier, and gives it as it was stored. -/
def updateById (r : Repository α) (x : Executor S) (id : Int64) (fields : Option Fields)
    (columns : Option (List String)) : Fallible S (Option α) :=
  match fields with
  | none => x.refuse .nothingToUpdate
  | some fields =>
    x.fetchFirst (Statement.update x.dialect r.table fields
      { filter := some (.withId id), returning := columns }).query

end Repository

end TableAccess
