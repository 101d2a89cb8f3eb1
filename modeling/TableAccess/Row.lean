import TableAccess.Value.Basic

/-!
Rows as the server returns them, and the columns and values that a statement writes.
-/

set_option autoImplicit false
set_option relaxedAutoImplicit false

namespace TableAccess

/-- A row: labels and values in the order of the server. Labels may repeat. -/
structure Row where
  cells : List (String × Value)

namespace Row

def labels (r : Row) : List String := r.cells.map Prod.fst

/-- The value of the first column with a label. -/
def get? (r : Row) (label : String) : Option Value :=
  (r.cells.find? fun c => c.1 == label).map Prod.snd

/-- Cells with a null in place of the value of the first one with a label. -/
def clearFirst (label : String) : List (String × Value) → List (String × Value)
  | [] => []
  | c :: cs => if c.1 == label then (c.1, .null) :: cs else c :: clearFirst label cs

/-- The value of the first column with a label, and the row with a null in its place. -/
def take (r : Row) (label : String) : Option Value × Row :=
  (r.get? label, ⟨clearFirst label r.cells⟩)

/-- The identifier of a row: the integer in its column `id`. -/
def id? (r : Row) : Option Int64 := (r.get? "id").bind Value.integer?

end Row

/-- The columns that a statement writes, with their values, in order. -/
structure Fields where
  entries : List (String × Value)

namespace Fields

def empty : Fields := ⟨[]⟩

/-- The columns without their values. -/
def columns (f : Fields) : List String := f.entries.map Prod.fst

/-- Entries with the value of the first one of a column replaced, or with a new entry. -/
def setEntry (column : String) (value : Value) :
    List (String × Value) → List (String × Value)
  | [] => [(column, value)]
  | e :: es => if e.1 == column then (e.1, value) :: es else e :: setEntry column value es

/-- The columns with a value set: in its place if the column is there, else at the end. -/
def set (f : Fields) (column : String) (value : Value) : Fields :=
  ⟨setEntry column value f.entries⟩

/-- The value of the first entry of a column. -/
def get? (f : Fields) (column : String) : Option Value :=
  (f.entries.find? fun e => e.1 == column).map Prod.snd

def size (f : Fields) : Nat := f.entries.length

def isEmpty (f : Fields) : Bool := f.entries.isEmpty

end Fields

def Row.fields (r : Row) : Fields := ⟨r.cells⟩

end TableAccess
