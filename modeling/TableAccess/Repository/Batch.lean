import TableAccess.Repository.Basic

/-!
Insertion of many equal rows at once, by a function of the server that takes the columns of a
row in a fixed sequence and the number of rows, and gives the identifiers of the new rows.
-/

set_option autoImplicit false
set_option relaxedAutoImplicit false

namespace TableAccess

/-- The entities of a table, with the sequence of columns that its insertion function takes. -/
structure BatchRepository (α : Type) extends Repository α where
  sequence : List String

/-- The identifiers in a list, nulls passed over, up to the first value that is none. -/
def idsOfList : List Value → Except Failure (List Int64)
  | [] => .ok []
  | v :: vs =>
    if v.isNull then idsOfList vs
    else match v.integer? with
      | none => .error (.of (.unexpectedId v))
      | some n =>
        match idsOfList vs with
        | .error f => .error f
        | .ok ns => .ok (n :: ns)

/-- The identifiers in a value: those of a list, one integer, or none for a null. -/
def idsOfValue : Value → Except Failure (List Int64)
  | .list (some vs) _ => idsOfList vs
  | v =>
    if v.isNull then .ok []
    else match v.integer? with
      | some n => .ok [n]
      | none => .error (.of (.unexpectedIds v))

/-- The identifiers in a row: in the column named after the function, or in the first one. -/
def idsOfRow (function : String) (r : Row) : Except Failure (List Int64) :=
  match (r.get? function).or (r.cells.head?.map Prod.snd) with
  | some v => idsOfValue v
  | none => .ok []

/-- The identifiers in the first row of an answer, unless a failure comes before it. -/
def Answer.ids (function : String) (a : Answer) : Except Failure (List Int64) :=
  match a.rows with
  | [] => .ok []
  | .error f :: _ => .error f
  | .ok r :: _ => idsOfRow function r

namespace BatchRepository

variable {S α : Type}

/-- The values of a row in the sequence of the function, null where the row has none. -/
def arguments (r : BatchRepository α) (fields : Fields) : List Value :=
  r.sequence.map fun column => (fields.get? column).getD .null

/-- Inserts a number of equal rows, and gives their identifiers. -/
def createMany (r : BatchRepository α) (x : Executor S) (item : Option Fields) (count : UInt64)
    (columns : Option (List String)) : Fallible S (List Int64) :=
  match item with
  | none => x.refuse .noItemToCreate
  | some fields =>
    let q := (Statement.insertMultiple x.dialect r.table (r.arguments fields) count columns).query
    fun s =>
      let (answer, s) := x.run q s
      match answer.ids (Statement.insertMultipleFunction r.table) with
      | .ok ids => (.ok ids, s)
      | .error f => x.fail q f s

end BatchRepository

end TableAccess
