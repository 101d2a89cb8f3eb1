import TableAccess.Failure
import TableAccess.Row

/-!
Records: the typed form of the rows of one table. A shape names the fields of a record, the
columns that they are read from and written to, and their types.
-/

set_option autoImplicit false
set_option relaxedAutoImplicit false

namespace TableAccess

/-- How a field takes part in the rows of its table: it is read and always written, it is read
and written unless it is optional and holds nothing, or it is neither read nor written. -/
inductive FieldRole
  | stored
  | sparse
  | ignored
  deriving DecidableEq, Repr

/-- A field of a record: its name, its column, its type and its role. -/
structure Field where
  name : String
  column : String
  type : FieldType
  role : FieldRole
  deriving DecidableEq, Repr

namespace Field

/-- The field is neither read nor written. -/
def ignored (f : Field) : Bool := f.role == .ignored

/-- What is written for a field of what it holds, if anything is. -/
def written? (f : Field) (x : f.type.Carrier) : Option Value :=
  match f.role with
  | .ignored => none
  | .stored => some (f.type.toValue x)
  | .sparse => present? f.type x
where
  /-- The value of what a field holds, none for an optional field that holds nothing. -/
  present? : (t : FieldType) → t.Carrier → Option Value
    | .optional t, x => x.map t.toValue
    | t, x => some (t.toValue x)

end Field

/-- The name and the fields of a kind of records. -/
structure Shape where
  name : String
  fields : List Field
  deriving DecidableEq, Repr

/-- What the fields of a record hold, in order. -/
@[reducible] def Members : List Field → Type
  | [] => Unit
  | f :: fs => f.type.Carrier × Members fs

/-- A record of a shape. -/
structure Record (s : Shape) where
  members : Members s.fields

/-- What can be read from a row and may have an identifier. -/
class Entity (α : Type) where
  ofRow : Row → Except Failure α
  id? : α → Option Int64

instance : Entity Row where
  ofRow := .ok
  id? := Row.id?

namespace Record

/-- The fields of a record from a row, in order. A column that is missing counts as null. -/
def readMembers (record : String) : (fs : List Field) → Row → Except Failure (Members fs)
  | [], _ => .ok ()
  | f :: fs, row =>
    if f.ignored then
      (readMembers record fs row).map fun rest => (f.type.initial, rest)
    else
      let (value, row) := row.take f.column
      match f.type.ofValue? (value.getD .null) with
      | .error e => .error ((Failure.of (.conversion e)).within (.recordColumn f.column record))
      | .ok x => (readMembers record fs row).map fun rest => (x, rest)

def ofRow (s : Shape) (row : Row) : Except Failure (Record s) :=
  (readMembers s.name s.fields row).map Record.mk

/-- The columns and values of the fields of a record that are written. -/
def writeMembers : (fs : List Field) → Members fs → List (String × Value)
  | [], _ => []
  | f :: fs, (x, rest) =>
    match f.written? x with
    | some v => (f.column, v) :: writeMembers fs rest
    | none => writeMembers fs rest

def fields {s : Shape} (r : Record s) : Fields := ⟨writeMembers s.fields r.members⟩

/-- The integer of the first field of the column `id`. -/
def readId : (fs : List Field) → Members fs → Option Int64
  | [], _ => none
  | f :: fs, (x, rest) =>
    if !f.ignored && f.column == "id" then (f.type.toValue x).integer? else readId fs rest

def id? {s : Shape} (r : Record s) : Option Int64 := readId s.fields r.members

/-- All fields of a record by name, as values. -/
def listMembers : (fs : List Field) → Members fs → List (String × Value)
  | [], _ => []
  | f :: fs, (x, rest) => (f.name, f.type.toValue x) :: listMembers fs rest

/-- All fields of a record by name, as values. -/
def toList {s : Shape} (r : Record s) : List (String × Value) := listMembers s.fields r.members

instance {s : Shape} : Entity (Record s) where
  ofRow := ofRow s
  id? := id?

end Record

end TableAccess
