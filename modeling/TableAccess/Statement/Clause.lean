import TableAccess.Statement.Dialect
import TableAccess.Text.Joined

/-!
Parts of statements. A part is written in a context: what part of the statement it belongs to,
whether values are bound or written as literals, and the values bound so far. It gives its
text, and the context for what follows.
-/

set_option autoImplicit false
set_option relaxedAutoImplicit false

namespace TableAccess

/-- The parts of statements that a column can stand in. -/
inductive Region
  | none
  | call
  | insertColumns
  | insertValues
  | returning
  | searchRank
  | select
  | orderBy
  | condition
  | updateSet
  deriving DecidableEq, Repr

/-- Column names are quoted in orders, in the columns of an insertion and in assignments. -/
def Region.quotesColumns : Region → Bool
  | .orderBy | .insertColumns | .updateSet => true
  | _ => false

/-- What the parts of one statement share: the region, whether values are bound as parameters,
and the parameters so far. -/
structure WriteContext where
  region : Region
  parameterized : Bool
  parameters : List Value

namespace WriteContext

/-- The context of a statement whose values are written as literals. -/
def inline : WriteContext := ⟨.none, false, []⟩

/-- The context with a value bound as its next parameter. -/
def bind (c : WriteContext) (v : Value) : WriteContext :=
  { c with parameters := c.parameters ++ [v] }

def count (c : WriteContext) : Nat := c.parameters.length

end WriteContext

/-- A part of a statement. -/
structure Clause where
  write : WriteContext → String × WriteContext

namespace Clause

/-- A part written after a text that is there already. -/
def writeAfter (a : Clause) (out : String) (c : WriteContext) : String × WriteContext :=
  let (s, c) := a.write c
  (out ++ s, c)

def text (s : String) : Clause := ⟨fun c => (s, c)⟩

def append (a b : Clause) : Clause :=
  ⟨fun c =>
    let (s, c) := a.write c
    let (t, c) := b.write c
    (s ++ t, c)⟩

instance : Append Clause := ⟨append⟩

theorem write_append (a b : Clause) (c : WriteContext) : (a ++ b).write c =
    ((a.write c).1 ++ (b.write (a.write c).2).1, (b.write (a.write c).2).2) := rfl

theorem write_text (s : String) (c : WriteContext) : (text s).write c = (s, c) := rfl

instance : Coe String Clause := ⟨text⟩

/-- A part within a region, which is left again after it. -/
def within (region : Region) (a : Clause) : Clause :=
  ⟨fun c =>
    let (s, d) := a.write { c with region := region }
    (s, { d with region := c.region })⟩

def writeAll : List Clause → WriteContext → List String × WriteContext
  | [], c => ([], c)
  | a :: as, c =>
    let (s, c) := a.write c
    let (ss, c) := writeAll as c
    (s :: ss, c)

def joined (separator : String) (parts : List Clause) : Clause :=
  ⟨fun c =>
    let (ss, c) := writeAll parts c
    (Text.joined separator ss, c)⟩

/-- Parts that leave the context as it is are put together as their texts are. -/
theorem write_joined {β : Type} {part : β → Clause} {shown : β → String} {c : WriteContext}
    (each : ∀ x, (part x).write c = (shown x, c)) (separator : String) (xs : List β) :
    (joined separator (xs.map part)).write c = (Text.joined separator (xs.map shown), c) := by
  have all : writeAll (xs.map part) c = (xs.map shown, c) := by
    induction xs with
    | nil => rfl
    | cons x xs ih => simp only [List.map_cons, writeAll, each, ih]
  simp only [joined, all]

/-- The name of a column, quoted where the region asks for it. -/
def column (name : String) : Clause :=
  ⟨fun c => (if c.region.quotesColumns then Literal.identifier name else name, c)⟩

/-- Columns by name; all of them when none are given. -/
def columnList (columns : Option (List String)) : Clause :=
  match columns with
  | some (c :: cs) => joined ", " ((c :: cs).map column)
  | _ => text "*"

/-- The text of columns by name where names are not quoted. -/
def columnsText (columns : Option (List String)) : String :=
  match columns with
  | some (c :: cs) => Text.joined ", " (c :: cs)
  | _ => "*"

theorem write_columnList {c : WriteContext} (bare : c.region.quotesColumns = false)
    (columns : Option (List String)) : (columnList columns).write c = (columnsText columns, c) := by
  have named (name : String) : (column name).write c = (id name, c) := by
    simp only [column, bare, Bool.false_eq_true, if_false, id_eq]
  match columns with
  | none | some [] => rfl
  | some (name :: names) =>
    rw [columnList, write_joined named, List.map_id]
    rfl

mutual
/-- A value as it is bound: intervals travel as their text. -/
def parameterOf : Value → Value
  | .scalar .interval (some i) => .text i.text
  | .list (some vs) e =>
    .list (some (parametersOf vs)) (match e with
      | .scalar .interval _ => .nullOf .varchar
      | e => e)
  | v => v

/-- Values as they are bound, one by one. -/
def parametersOf : List Value → List Value
  | [] => []
  | v :: vs => parameterOf v :: parametersOf vs
end

/-- The place of the `n`th parameter. -/
def placeholder (n : Nat) : String := "$" ++ Text.natText n

theorem toList_placeholder (n : Nat) : (placeholder n).toList = '$' :: Text.numeral n := by
  have numeral : (Text.natText n).toList = Text.numeral n := String.toList_ofList
  rw [placeholder, String.toList_append, numeral]
  rfl

/-- The place of a value that is bound as the next parameter. -/
def parameter (v : Value) : Clause :=
  ⟨fun c =>
    let c := c.bind (parameterOf v)
    (placeholder c.count, c)⟩

/-- A value as a parameter where values are bound, a null always as a literal. -/
def value (d : Dialect) (v : Value) : Clause :=
  ⟨fun c => if c.parameterized && !v.isNull then (parameter v).write c else (d.literal v, c)⟩

end Clause

end TableAccess
