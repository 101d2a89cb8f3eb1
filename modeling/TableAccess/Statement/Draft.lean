import TableAccess.Statement.Write
import TableAccess.Text.Slice

/-!
Statements written into a draft that may hold text already.

Nothing is put together beforehand. A keyword is written before it is known whether anything
follows it, and taken back to a mark when nothing does. A separator is written when the draft has
grown since the mark in front of the last part. A region is entered, and left again for the one
before it. Of a name, what stands between two quotes is copied as a whole, by the bytes at which it
starts and ends.
-/

set_option autoImplicit false
set_option relaxedAutoImplicit false

namespace TableAccess

/-- A text that is being written, and the context of what is written next. -/
structure Draft where
  text : String
  context : WriteContext

namespace Draft

/-! ### Writing and taking back -/

/-- A draft without text. -/
def blank (c : WriteContext) : Draft := ⟨"", c⟩

def push (x : Draft) (s : String) : Draft := { x with text := x.text ++ s }

/-- The mark behind all that has been written. -/
def mark (x : Draft) : Nat := x.text.length

/-- Takes back what has been written behind a mark. -/
def cutTo (x : Draft) (mark : Nat) : Draft :=
  { x with text := String.ofList (x.text.toList.take mark) }

def enter (x : Draft) (region : Region) : Draft :=
  { x with context := { x.context with region := region } }

/-- A part within a region, which is left again after it. -/
def within (x : Draft) (region : Region) (part : Draft → Draft) : Draft :=
  (part (x.enter region)).enter x.context.region

/-- A part that may be left out, within a region. -/
def tryWithin (x : Draft) (region : Region) (part : Draft → Bool × Draft) : Bool × Draft :=
  let (live, y) := part (x.enter region)
  (live, y.enter x.context.region)

/-- Parts in order. In front of a part stands a separator if the draft has grown since the mark,
which is the one in front of the part before. -/
def separatedFrom (separator : String) : Nat → List (Draft → Draft) → Draft → Draft
  | _, [], x => x
  | mark, part :: parts, x =>
    let x := if mark < x.mark then x.push separator else x
    separatedFrom separator x.mark parts (part x)

def separated (x : Draft) (separator : String) (parts : List (Draft → Draft)) : Draft :=
  separatedFrom separator x.mark parts x

/-- Texts in order, with separators. -/
def pushAll (x : Draft) (separator : String) (texts : List String) : Draft :=
  x.separated separator (texts.map fun s y => y.push s)

/-- Two texts are written like both together. -/
theorem push_push (x : Draft) (s t : String) : (x.push s).push t = x.push (s ++ t) := by
  simp only [push, String.append_assoc]

/-! ### Names -/

/-- The characters of a text from the byte `i` on, with a replacement for each of one character.
What stands in front of such a character is copied from the byte `position`, which is the one after
the byte at which the last of them starts. -/
def escapeFrom (text : List Char) (search : Char) (replacement : String) :
    Nat → Nat → List Char → Draft → Except Fault Draft
  | position, _, [], x => do
    let copied ← Text.fromByte position text
    return x.push (String.ofList copied)
  | position, i, c :: rest, x =>
    if c = search then do
      let copied ← Text.slice position i text
      escapeFrom text search replacement (i + 1) (i + c.utf8Size) rest
        ((x.push (String.ofList copied)).push replacement)
    else escapeFrom text search replacement position (i + c.utf8Size) rest x

/-- A text with a replacement for each of one character. -/
def escaped (x : Draft) (search : Char) (replacement text : String) : Except Fault Draft :=
  escapeFrom text.toList search replacement 0 0 text.toList x

/-- Behind the front of a text that has been copied stands some that has been passed over. If the
character takes up one byte, the next copy starts behind it, and all cuts lie between characters. -/
private theorem escapeFrom_byte {search : Char} (byte : search.utf8Size = 1) (replacement : String)
    (front passed rest : List Char) (x : Draft) :
    escapeFrom (front ++ passed ++ rest) search replacement (Text.byteLength front)
        (Text.byteLength (front ++ passed)) rest x =
      .ok (x.push (String.ofList (passed ++ Literal.replaced search replacement.toList rest))) := by
  induction rest generalizing front passed x with
  | nil =>
    rw [escapeFrom, List.append_nil, Text.fromByte_append, Literal.replaced, List.flatMap_nil,
      List.append_nil]
    rfl
  | cons c rest ih =>
    have next : Text.byteLength (front ++ passed) + c.utf8Size =
        Text.byteLength (front ++ passed ++ [c]) := by
      rw [Text.byteLength_append (front ++ passed), Text.byteLength_cons, Text.byteLength_nil]
      rfl
    have further : front ++ passed ++ c :: rest = front ++ passed ++ [c] ++ rest := by
      rw [List.append_assoc _ [c], List.singleton_append]
    rw [escapeFrom, Literal.replaced_cons]
    by_cases hit : c = search
    · have behind := ih (front ++ passed ++ [c]) []
        ((x.push (String.ofList passed)).push replacement)
      rw [List.append_nil, List.nil_append, ← next, ← further, hit, byte] at behind
      rw [if_pos hit, if_pos hit, Text.slice_eq, Text.fromByte_append, Fault.ok_bind, hit, byte,
        behind, push_push, push_push, String.ofList_append, String.ofList_append,
        String.ofList_toList]
    · have behind := ih front (passed ++ [c]) x
      rw [← List.append_assoc front, ← next, ← further, List.append_assoc passed] at behind
      rw [if_neg hit, if_neg hit, behind]

/-- With a character of one byte, a text is written with all of them replaced. -/
theorem escaped_byte (x : Draft) {search : Char} (byte : search.utf8Size = 1)
    (replacement text : String) :
    x.escaped search replacement text =
      .ok (x.push (String.ofList (Literal.replaced search replacement.toList text.toList))) :=
  escapeFrom_byte byte replacement [] [] text.toList x

theorem isOk_escaped (x : Draft) {search : Char} (byte : search.utf8Size = 1)
    (replacement text : String) : (x.escaped search replacement text).isOk = true := by
  rw [escaped_byte x byte]
  rfl

/-- A name between double quotes, each double quote within it written twice. -/
def identifier (x : Draft) (name : String) : Draft :=
  let y := x.push "\""
  (Fault.result (y.escaped '"' "\"\"" name) (y.isOk_escaped rfl "\"\"" name)).push "\""

/-- What is written of a name is the identifier of the name. -/
theorem identifier_eq (x : Draft) (name : String) :
    x.identifier name = x.push (Literal.identifier name) := by
  have quoted : Literal.identifier name = "\"" ++ (String.ofList (Literal.replaced '"'
      "\"\"".toList name.toList) ++ "\"") := by
    rw [← String.toList_inj]
    simp only [Literal.identifier, String.toList_append, String.toList_ofList]
    rfl
  rw [identifier, Fault.result_ok (escaped_byte _ rfl _ _), push_push, push_push, quoted]

/-! ### Columns and values -/

/-- The name of a column, quoted where the region asks for it. -/
def column (x : Draft) (name : String) : Draft :=
  if x.context.region.quotesColumns then x.identifier name else x.push name

/-- Columns by name; all of them when none are given. -/
def columnList (x : Draft) (columns : Option (List String)) : Draft :=
  match columns with
  | some (c :: cs) => x.separated ", " ((c :: cs).map fun name y => y.column name)
  | _ => x.push "*"

def table (x : Draft) (t : Table) : Draft :=
  ((x.push t.schema).push ".").identifier t.name

/-- The place of a value that is bound as the next parameter. -/
def parameter (x : Draft) (v : Value) : Draft :=
  let c := x.context.bind (Clause.parameterOf v)
  { x with context := c }.push (Clause.placeholder c.count)

/-- A value as a parameter where values are bound, a null always as a literal. -/
def value (x : Draft) (d : Dialect) (v : Value) : Draft :=
  if x.context.parameterized && !v.isNull then x.parameter v else x.push (d.literal v)

/-- What a writer of values writes, unless the literal of one of them stops the program. Values that
are bound have no literals. -/
def attempt {α : Type} (x : Draft) (vs : List Value) (write : Draft → α) : Except Fault α :=
  if x.context.parameterized then .ok (write x)
  else
    match vs.findSome? Value.fault? with
    | some e => .error e
    | none => .ok (write x)

/-! ### Conditions -/

def isNull (x : Draft) (column : String) : Bool × Draft :=
  (true, ((x.column column).push " IS ").push "null")

/-- A column compared with a value, which is written apart first. Nothing is left of a comparison
with a value that writes nothing. -/
def comparison (x : Draft) (d : Dialect) (column : String) (op : Operator) (v : Value) :
    Bool × Draft :=
  let literal := (blank x.context).value d v
  let x := { x with context := literal.context }
  if literal.text = "" then (false, x)
  else (true, ((x.column column).push (" " ++ op.token ++ " ")).push literal.text)

def equality (x : Draft) (d : Dialect) (column : String) (v : Value) : Bool × Draft :=
  if v.isNull then x.isNull column else x.comparison d column .equals v

/-- The texts of the parts that are not left out, each written apart. -/
def gather : List (Draft → Bool × Draft) → WriteContext → List String × WriteContext
  | [], c => ([], c)
  | part :: parts, c =>
    let (live, y) := part (blank c)
    let (texts, c) := gather parts y.context
    (if live then y.text :: texts else texts, c)

/-- Texts in parentheses, left out when there are none. -/
def enclosed (x : Draft) (separator : String) (texts : List String) : Bool × Draft :=
  if texts.isEmpty then (false, x)
  else (true, ((x.push "(").pushAll separator texts).push ")")

def anyOf (x : Draft) (d : Dialect) (column : String) (vs : List Value) : Bool × Draft :=
  let (texts, c) := gather (vs.map fun v y => y.equality d column v) x.context
  { x with context := c }.enclosed " OR " texts

def condition (x : Draft) (d : Dialect) (column : String) : Condition → Bool × Draft
  | .value (.list (some vs) _) => x.anyOf d column vs
  | .anyOf vs => x.anyOf d column vs
  | .value v => x.equality d column v
  | .compare op v => x.comparison d column op v

/-- Conditions that hold together, in parentheses when there are several. -/
def conjunction (x : Draft) (texts : List String) : Bool × Draft :=
  (!texts.isEmpty,
    if 1 < texts.length then ((x.push "(").pushAll " AND " texts).push ")"
    else x.pushAll " AND " texts)

/-- The texts of the conditions on columns that are there and not left out. -/
def columnTexts (d : Dialect) (columns : List (String × Option Condition)) (c : WriteContext) :
    List String × WriteContext :=
  gather (columns.filterMap fun (column, k) => k.map fun k y => y.condition d column k) c

mutual
/-- The predicate of a filter. The texts of its members are written apart before it. -/
def filter (d : Dialect) : Filter → Draft → Bool × Draft
  | .mk columns groups, x =>
    let (ss, c) := columnTexts d columns x.context
    let (ts, c) := groupTexts d groups c
    { x with context := c }.conjunction (ss ++ ts)

/-- The texts of the groups that are not left out. -/
def groupTexts (d : Dialect) :
    List (Operator × List Filter) → WriteContext → List String × WriteContext
  | [], c => ([], c)
  | (op, members) :: groups, c =>
    let (ms, c) := memberTexts d members c
    let (live, y) := (blank c).enclosed (" " ++ op.token ++ " ") ms
    let (ts, c) := groupTexts d groups y.context
    (if live then y.text :: ts else ts, c)

/-- The texts of the members of a group that are not left out. -/
def memberTexts (d : Dialect) : List Filter → WriteContext → List String × WriteContext
  | [], c => ([], c)
  | f :: fs, c =>
    let (live, y) := filter d f (blank c)
    let (ts, c) := memberTexts d fs y.context
    (if live then y.text :: ts else ts, c)
end

/-- The members of a group joined by its operator, in parentheses. -/
def group (x : Draft) (d : Dialect) (op : Operator) (members : List Filter) : Bool × Draft :=
  let (ms, c) := memberTexts d members x.context
  { x with context := c }.enclosed (" " ++ op.token ++ " ") ms

/-! ### Clauses -/

/-- The condition clause of a filter, taken back when nothing of the filter is left. -/
def whereClause (x : Draft) (d : Dialect) (filter : Option Filter) : Bool × Draft :=
  match filter with
  | none => (false, x)
  | some f =>
    let (live, y) := (x.push " WHERE ").tryWithin .condition (Draft.filter d f)
    (live, if live then y else y.cutTo x.mark)

/-- Columns with their directions; the identifier when no order is given. -/
def orderEntries (x : Draft) : Option Ordering → Bool × Draft
  | none => (true, (x.column "id").push " ASC")
  | some order =>
    (!order.isEmpty, x.separated ", " (order.map fun (name, direction) y =>
      ((y.column name).push " ").push direction.token))

/-- The columns to order by. -/
def orderList (x : Draft) (order : Option Ordering) : Bool × Draft :=
  x.tryWithin .orderBy fun y => y.orderEntries order

def orderBy (x : Draft) (order : Option Ordering) : Draft :=
  let (live, y) := (x.push " ORDER BY ").orderList order
  if live then y else y.cutTo x.mark

/-- A number of rows after a keyword, left out when it is absent or zero. -/
def countAfter (x : Draft) (word : String) : Option UInt64 → Draft
  | some n => if n = 0 then x else (x.push word).push (Text.natText n.toNat)
  | none => x

/-- How many rows to pass over and how many to take. -/
def paging (x : Draft) (offset limit : Option UInt64) : Draft :=
  (x.countAfter " OFFSET " offset).countAfter " LIMIT " limit

/-- The columns that a writing statement gives back. -/
def returning (x : Draft) (columns : Option (List String)) : Draft :=
  (x.push " RETURNING ").within .returning fun y => y.columnList columns

/-! ### Selection, insertion and update -/

def select (x : Draft) (d : Dialect) (t : Table) (o : Clauses) : Draft :=
  let x := (x.push "SELECT ").within .select fun y => y.columnList o.select
  let x := (((x.push " FROM ").table t).whereClause d o.filter).2
  (x.orderBy o.order).paging o.offset o.limit

def insert (x : Draft) (t : Table) (fields : Fields) (o : Clauses) : Draft :=
  let x := ((x.push "INSERT INTO ").table t).push " ("
  let x := x.within .insertColumns fun x =>
    x.separated ", " (fields.entries.map fun e y => y.column e.1)
  let x := (x.push ") VALUES (").within .insertValues fun x =>
    x.separated ", " (fields.entries.map fun e y => y.parameter e.2)
  (x.push ")").returning o.returning

def assignment (x : Draft) (name : String) (v : Value) : Draft :=
  ((x.column name).push "=").parameter v

def update (x : Draft) (d : Dialect) (t : Table) (fields : Fields) (o : Clauses) : Draft :=
  let x := ((x.push "UPDATE ").table t).push " SET "
  let x := x.within .updateSet fun x =>
    x.separated ", " (fields.entries.map fun e y => y.assignment e.1 e.2)
  (x.whereClause d o.filter).2.returning o.returning

/-! ### Search -/

/-- Words bound as the next parameters, and the places of them. -/
def bindWords : List String → Draft → List Nat × Draft
  | [], x => ([], x)
  | word :: words, x =>
    let c := x.context.bind (.text word)
    let (places, x) := bindWords words { x with context := c }
    (c.count :: places, x)

/-- The columns in which one of the words occurs, at the start or anywhere. -/
def searchMatch (x : Draft) (columns : List String) (places : List Nat) (atStart : Bool) :
    Draft :=
  let x := (x.push "(").separated " OR " ((Statement.pairs columns places).map fun (name, n) y =>
    (((y.column name).push (if atStart then " ILIKE " else " ILIKE '%' || ")).push
      (Clause.placeholder n)).push " || '%'")
  x.push ")"

/-- The order that puts columns that start with one of the words first. -/
def searchRank (x : Draft) (columns : List String) (places : List Nat) : Draft :=
  x.separated ", " ((Statement.pairs columns places).map fun (name, n) y =>
    (((y.column name).push " ILIKE ").push (Clause.placeholder n)).push
      " || '%' DESC NULLS LAST")

/-- The order by the distance of the columns from the words. -/
def searchDistance (x : Draft) (columns : List String) (places : List Nat) (function : String) :
    Draft :=
  x.separated ", " ((Statement.pairs columns places).map fun (name, n) y =>
    (((((y.push function).push "(LOWER(").column name).push "::text), LOWER(").push
      (Clause.placeholder n)).push ")) ASC")

/-- The filter of a search, if there is one. -/
def searchFilter (x : Draft) (d : Dialect) : Option Filter → Bool × Draft
  | some f => x.tryWithin .condition (Draft.filter d f)
  | none => (false, x)

/-- The conditions of a search after their keyword, which is taken back when there are none. -/
def searchCondition (x : Draft) (d : Dialect) (filter : Option Filter) (pass : SearchPass)
    (columns : List String) (places : List Nat) : Draft :=
  let (filtered, y) := (x.push " WHERE ").searchFilter d filter
  let (conditioned, y) := if pass.matches then
      let y := if filtered then y.push " AND " else y
      (true, y.within .condition fun y => y.searchMatch columns places (pass == .leading))
    else (filtered, y)
  if conditioned then y else y.cutTo x.mark

/-- The ranking of a pass of a search, if it has one. -/
def searchRanking (x : Draft) (columns : List String) (places : List Nat) :
    SearchPass → Bool × Draft
  | .ranked => (true, x.within .searchRank fun y => y.searchRank columns places)
  | .fuzzy function =>
    (true, x.within .searchRank fun y => y.searchDistance columns places function)
  | _ => (false, x)

/-- The orders of a search after their keyword: its ranking, and the order that is asked for. What
separates them is taken back when no order is asked for, and the keyword when there is neither. -/
def searchOrder (x : Draft) (order : Option Ordering) (pass : SearchPass)
    (columns : List String) (places : List Nat) : Draft :=
  let (ranked, y) := (x.push " ORDER BY ").searchRanking columns places pass
  let mark := y.mark
  let (asked, y) := (if ranked then y.push ", " else y).orderList order
  let y := if asked then y else y.cutTo mark
  if ranked || asked then y else y.cutTo x.mark

def search (x : Draft) (d : Dialect) (t : Table) (words columns : List String) (o : Clauses)
    (pass : SearchPass) : Draft :=
  let x := (((x.push "SELECT * FROM ").push t.schema).push ".").push t.name
  let (places, x) := if pass == .listing then ([], x) else bindWords words x
  let x := x.searchCondition d o.filter pass columns places
  (x.searchOrder o.order pass columns places).paging o.offset o.limit

/-! ### Insertion of many rows -/

/-- The literal of an argument, a null when it writes nothing. -/
def argument (x : Draft) (d : Dialect) (v : Value) : Draft :=
  let y := x.push (d.literal v)
  (if y.mark = x.mark then y.push "null" else y).push ", "

/-- A call of the function that inserts many rows of a table. -/
def insertMultiple (x : Draft) (d : Dialect) (t : Table) (arguments : List Value)
    (count : UInt64) (select : Option (List String)) : Draft :=
  let x := (x.push "SELECT ").within .select fun y => y.columnList select
  let x := ((x.push " FROM ").push t.schema).push "."
  let x := (x.push (Statement.insertMultipleFunction t)).push "("
  x.within .call fun x =>
    let x := arguments.foldl (fun x v => x.argument d v) x
    (x.push (Text.natText count.toNat)).push ")"

end Draft

end TableAccess
