import TableAccess.Row
import TableAccess.Statement.Clauses
import TableAccess.Statement.Predicate
import TableAccess.Table

/-!
The statements on one table: selection, insertion, update, search and insertion of many rows.

Filters are written in the mode of the context. What an insertion or an update writes is bound
as parameters, the words of a search are, and the values of an insertion of many rows are
literals.
-/

set_option autoImplicit false
set_option relaxedAutoImplicit false

namespace TableAccess

/-- The shapes of a search: everything, matches with those at the start first, matches at the
start, matches anywhere, or everything by its distance from the words. -/
inductive SearchPass
  | listing
  | ranked
  | leading
  | containing
  | fuzzy (function : String)
  deriving DecidableEq, Repr

/-- The pass only takes rows that match. -/
def SearchPass.matches : SearchPass → Bool
  | .ranked | .leading | .containing => true
  | .listing | .fuzzy _ => false

namespace Statement

open Clause (text column columnList joined parameter within placeholder)

def table (t : Table) : Clause := text (t.schema ++ "." ++ Literal.identifier t.name)

/-- A part after a keyword, both left out together. -/
def keyword (word : String) (p : Predicate) : Predicate :=
  ⟨fun c =>
    let (s, c) := p.write c
    (s.map (word ++ ·), c)⟩

/-- A predicate as a part that writes nothing when it is left out. -/
def optional (p : Predicate) : Clause :=
  ⟨fun c =>
    let (s, c) := p.write c
    (s.getD "", c)⟩

/-- A predicate within a region, which is left again after it. -/
def withinRegion (region : Region) (p : Predicate) : Predicate :=
  ⟨fun c =>
    let (s, d) := p.write { c with region := region }
    (s, { d with region := c.region })⟩

/-- A part as a predicate that is left out unless it is wanted. -/
def provided (wanted : Bool) (a : Clause) : Predicate :=
  ⟨fun c =>
    let (s, c) := a.write c
    (if wanted then some s else none, c)⟩

/-- The condition clause of a filter, left out when nothing of the filter is left. -/
def whereClause (d : Dialect) (filter : Option Filter) : Predicate :=
  match filter with
  | none => ⟨fun c => (none, c)⟩
  | some f => keyword " WHERE " (withinRegion .condition (Predicate.filter d f))

/-- The columns to order by; the identifier when no order is given. -/
def orderList (order : Option Ordering) : Predicate :=
  let order := order.getD [("id", .ascending)]
  let entries := order.map fun (name, direction) => column name ++ text (" " ++ direction.token)
  withinRegion .orderBy (provided (!order.isEmpty) (joined ", " entries))

def orderBy (order : Option Ordering) : Clause := optional (keyword " ORDER BY " (orderList order))

/-- A number of rows after a keyword, left out when it is absent or zero. -/
def countAfter (word : String) : Option UInt64 → String
  | some n => if n = 0 then "" else word ++ Text.natText n.toNat
  | none => ""

/-- How many rows to pass over and how many to take. -/
def paging (offset limit : Option UInt64) : Clause :=
  text (countAfter " OFFSET " offset ++ countAfter " LIMIT " limit)

/-- The columns that a writing statement gives back. -/
def returning (columns : Option (List String)) : Clause :=
  text " RETURNING " ++ within .returning (columnList columns)

def select (d : Dialect) (t : Table) (o : Clauses) : Clause :=
  text "SELECT " ++ within .select (columnList o.select) ++ text " FROM " ++ table t ++
    optional (whereClause d o.filter) ++ orderBy o.order ++ paging o.offset o.limit

def insert (t : Table) (fields : Fields) (o : Clauses) : Clause :=
  text "INSERT INTO " ++ table t ++ text " (" ++
    within .insertColumns (joined ", " (fields.entries.map fun e => column e.1)) ++
    text ") VALUES (" ++
    within .insertValues (joined ", " (fields.entries.map fun e => parameter e.2)) ++
    text ")" ++ returning o.returning

def assignment (name : String) (v : Value) : Clause := column name ++ text "=" ++ parameter v

def update (d : Dialect) (t : Table) (fields : Fields) (o : Clauses) : Clause :=
  text "UPDATE " ++ table t ++ text " SET " ++
    within .updateSet (joined ", " (fields.entries.map fun e => assignment e.1 e.2)) ++
    optional (whereClause d o.filter) ++ returning o.returning

/-! ### Search -/

/-- Every column with every one of the parameters, column by column. -/
def pairs (columns : List String) (places : List Nat) : List (String × Nat) :=
  columns.flatMap fun name => places.map fun n => (name, n)

/-- The columns in which one of the words occurs, at the start or anywhere. -/
def searchMatch (columns : List String) (places : List Nat) (atStart : Bool) : Clause :=
  let like := if atStart then " ILIKE " else " ILIKE '%' || "
  text "(" ++
    joined " OR " ((pairs columns places).map fun (name, n) =>
      column name ++ text (like ++ placeholder n ++ " || '%'")) ++
    text ")"

/-- The order that puts columns that start with one of the words first. -/
def searchRank (columns : List String) (places : List Nat) : Clause :=
  joined ", " ((pairs columns places).map fun (name, n) =>
    column name ++ text (" ILIKE " ++ placeholder n ++ " || '%' DESC NULLS LAST"))

/-- The order by the distance of the columns from the words. -/
def searchDistance (columns : List String) (places : List Nat) (function : String) : Clause :=
  joined ", " ((pairs columns places).map fun (name, n) =>
    text (function ++ "(LOWER(") ++ column name ++
      text ("::text), LOWER(" ++ placeholder n ++ ")) ASC"))

/-- Words bound as the next parameters, and the places of them. -/
def bindWords (words : List String) (c : WriteContext) : List Nat × WriteContext :=
  (List.range' (c.count + 1) words.length,
    { c with parameters := c.parameters ++ words.map Value.text })

/-- The rows that a pass of a search takes: those of the filter, and the matches among them. -/
def searchCondition (d : Dialect) (filter : Option Filter) (pass : SearchPass)
    (columns : List String) (places : List Nat) : Predicate :=
  ⟨fun c =>
    let (kept, c) := match filter with
      | some f => (withinRegion .condition (Predicate.filter d f)).write c
      | none => (none, c)
    if pass.matches then
      let (found, c) :=
        (within .condition (searchMatch columns places (pass == .leading))).write c
      (some ((match kept with
        | some s => s ++ " AND "
        | none => "") ++ found), c)
    else (kept, c)⟩

/-- The order of a pass of a search: its ranking before the order that is asked for. -/
def searchOrder (order : Option Ordering) (pass : SearchPass) (columns : List String)
    (places : List Nat) : Predicate :=
  ⟨fun c =>
    let (ranking, c) := match pass with
      | .ranked => (provided true (within .searchRank (searchRank columns places))).write c
      | .fuzzy function =>
        (provided true (within .searchRank (searchDistance columns places function))).write c
      | _ => (none, c)
    let (asked, c) := (orderList order).write c
    (match ranking, asked with
      | some r, some s => some (r ++ ", " ++ s)
      | some r, none => some r
      | none, s => s, c)⟩

def search (d : Dialect) (t : Table) (words columns : List String) (o : Clauses)
    (pass : SearchPass) : Clause :=
  ⟨fun c =>
    let (places, c) := if pass == .listing then ([], c) else bindWords words c
    (text ("SELECT * FROM " ++ t.fullName) ++
      optional (keyword " WHERE " (searchCondition d o.filter pass columns places)) ++
      optional (keyword " ORDER BY " (searchOrder o.order pass columns places)) ++
      paging o.offset o.limit).write c⟩

/-! ### Insertion of many rows -/

/-- The name of the function that inserts many rows of a table. -/
def insertMultipleFunction (t : Table) : String := "insert_multiple_" ++ t.name

/-- The literal of an argument, a null for a value that has none. -/
def argument (d : Dialect) (v : Value) : String :=
  let s := d.literal v
  if s = "" then "null" else s

/-- A call of the function that inserts many rows of a table. -/
def insertMultiple (d : Dialect) (t : Table) (arguments : List Value) (count : UInt64)
    (select : Option (List String)) : Clause :=
  text "SELECT " ++ within .select (columnList select) ++
    text (" FROM " ++ t.schema ++ "." ++ insertMultipleFunction t ++ "(" ++
      String.join (arguments.map fun v => argument d v ++ ", ") ++
      Text.natText count.toNat ++ ")")

/-! ### Transactions -/

/-- Opens a transaction. -/
def begin : String := "BEGIN"

/-- Closes a transaction and keeps what it wrote. -/
def commit : String := "COMMIT"

/-- Closes a transaction and undoes what it wrote. -/
def rollback : String := "ROLLBACK"

/-- Sets a mark within a transaction. -/
def savepoint (name : String) : String := "SAVEPOINT " ++ name

/-- Undoes what was written since a mark. -/
def rollbackTo (name : String) : String := "ROLLBACK TO SAVEPOINT " ++ name

end Statement

end TableAccess
