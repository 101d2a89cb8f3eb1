import TableAccess.Proofs.Predicate.Bound
import TableAccess.Proofs.Statement.Escaping
import TableAccess.Proofs.Statement.Lexemes
import TableAccess.Proofs.Statement.Searching

/-!
Quoted names in statements.

Tables are named behind their schema, columns in the columns of an insertion, in assignments and in
orders. Each of these names is a lexeme by itself there, whatever its characters, and the lexemes
around it are those of the statement.
-/

set_option autoImplicit false
set_option relaxedAutoImplicit false

namespace TableAccess

namespace WriteContext

private theorem count_bind (c : WriteContext) (v : Value) : (c.bind v).count = c.count + 1 := by
  simp only [count, bind, List.length_append, List.length_singleton]

/-- A value is bound in front of other values. -/
private theorem bindAll_cons (c : WriteContext) (v : Value) (vs : List Value) :
    (c.bind (Clause.parameterOf v)).bindAll vs = c.bindAll (v :: vs) := by
  simp only [bind, bindAll, List.map_cons, List.append_assoc, List.singleton_append]

end WriteContext

namespace Statement

open Clause (text column columnsText write_columnList joined parameter within placeholder)
open Lexeme

/-! ### Texts of statements -/

/-- Parts that bind one value each bind them in order, each at the next place. -/
theorem write_joined_bound {α : Type} {part : α → Clause} (shown : α → Nat → String)
    (value : α → Value) {region : Region}
    (each : ∀ x c, c.region = region →
      (part x).write c = (shown x (c.count + 1), c.bind (Clause.parameterOf (value x))))
    (separator : String) (xs : List α) (c : WriteContext) (here : c.region = region) :
    (joined separator (xs.map part)).write c =
      (Text.joined separator ((xs.zipIdx (c.count + 1)).map fun p => shown p.1 p.2),
        c.bindAll (xs.map value)) := by
  have all : Clause.writeAll (xs.map part) c =
      ((xs.zipIdx (c.count + 1)).map fun p => shown p.1 p.2, c.bindAll (xs.map value)) := by
    induction xs generalizing c with
    | nil => simp [Clause.writeAll, WriteContext.bindAll]
    | cons x xs ih =>
      have rest := ih (c.bind (Clause.parameterOf (value x))) here
      rw [WriteContext.count_bind, WriteContext.bindAll_cons] at rest
      simp only [List.map_cons, Clause.writeAll, each x c here, rest, List.zipIdx_cons]
  simp only [joined, all]

/-- The text of a table. -/
def tableText (t : Table) : String := t.schema ++ "." ++ Literal.identifier t.name

private theorem write_returning (columns : Option (List String)) (c : WriteContext) :
    (returning columns).write c = (" RETURNING " ++ columnsText columns, c) := by
  simp only [returning, Clause.write_append, Clause.write_text, within,
    write_columnList (c := { c with region := .returning }) rfl]

/-- The columns of an insertion are quoted. -/
private theorem write_columns (entries : List (String × Value)) (c : WriteContext) :
    (within .insertColumns (joined ", " (entries.map fun e => column e.1))).write c =
      (Text.joined ", " (entries.map fun e => Literal.identifier e.1), c) := by
  let d : WriteContext := { c with region := .insertColumns }
  have quoted (e : String × Value) : (column e.1).write d = (Literal.identifier e.1, d) := rfl
  have named := Clause.write_joined quoted ", " entries
  simp only [within, named, d]

/-- The values of an insertion are bound. -/
private theorem write_values (entries : List (String × Value)) (c : WriteContext) :
    (within .insertValues (joined ", " (entries.map fun e => parameter e.2))).write c =
      (Text.joined ", " ((entries.zipIdx (c.count + 1)).map fun p => placeholder p.2),
        c.bindAll (entries.map Prod.snd)) := by
  let d : WriteContext := { c with region := .insertValues }
  have each (e : String × Value) (d : WriteContext) (_ : d.region = .insertValues) :
      (parameter e.2).write d =
        (placeholder (d.count + 1), d.bind (Clause.parameterOf e.2)) := by
    simp only [parameter, WriteContext.count_bind]
  have bound := write_joined_bound (fun _ n => placeholder n) Prod.snd each ", " entries d rfl
  simp only [within, bound, d]
  rfl

/-- The assignments of an update have quoted columns and bind their values. -/
private theorem write_assignments (entries : List (String × Value)) (c : WriteContext) :
    (within .updateSet (joined ", " (entries.map fun e => assignment e.1 e.2))).write c =
      (Text.joined ", " ((entries.zipIdx (c.count + 1)).map fun p =>
        Literal.identifier p.1.1 ++ "=" ++ placeholder p.2), c.bindAll (entries.map Prod.snd)) := by
  let d : WriteContext := { c with region := .updateSet }
  let shown (e : String × Value) (n : Nat) := Literal.identifier e.1 ++ "=" ++ placeholder n
  have each (e : String × Value) (d : WriteContext) (here : d.region = .updateSet) :
      (assignment e.1 e.2).write d =
        (shown e (d.count + 1), d.bind (Clause.parameterOf e.2)) := by
    simp only [assignment, Clause.write_append, Clause.write_text, column, here,
      Region.quotesColumns, if_true, parameter, WriteContext.count_bind, shown]
  have bound := write_joined_bound shown Prod.snd each ", " entries d rfl
  simp only [within, bound, d]
  rfl

/-- The text of an insertion, and what it binds. -/
theorem write_insert (t : Table) (fields : Fields) (o : Clauses) (c : WriteContext) :
    (insert t fields o).write c =
      ("INSERT INTO " ++ tableText t ++ " (" ++
        Text.joined ", " (fields.entries.map fun e => Literal.identifier e.1) ++ ") VALUES (" ++
        Text.joined ", " ((fields.entries.zipIdx (c.count + 1)).map fun p => placeholder p.2) ++
        ")" ++ (" RETURNING " ++ columnsText o.returning),
        c.bindAll (fields.entries.map Prod.snd)) := by
  simp only [insert, table, Clause.write_append, Clause.write_text, write_columns, write_values,
    write_returning]
  rfl

/-- A condition clause is left out or starts with its keyword. -/
private theorem write_whereClause (d : Dialect) (filter : Option Filter) (c : WriteContext) :
    ((whereClause d filter).write c).1 = none ∨
      ∃ s, ((whereClause d filter).write c).1 = some (" WHERE " ++ s) := by
  cases filter with
  | none => exact .inl rfl
  | some f =>
    have start : ((whereClause d (some f)).write c).1 =
        ((withinRegion .condition (Predicate.filter d f)).write c).1.map (" WHERE " ++ ·) := rfl
    rw [start]
    cases ((withinRegion .condition (Predicate.filter d f)).write c).1 with
    | none => exact .inl rfl
    | some s => exact .inr ⟨s, rfl⟩

private theorem steady_whereClause (d : Dialect) (filter : Option Filter) :
    Steady (whereClause d filter).write := by
  cases filter with
  | none => exact .const none
  | some f =>
    exact steady_keyword " WHERE " (steady_withinRegion .condition (Predicate.steady_filter d f))

/-- The text of an update, which goes on with a keyword behind its assignments, and what it binds.
Where values are written as literals the filter binds nothing. -/
theorem write_update (d : Dialect) (t : Table) (fields : Fields) (o : Clauses) (c : WriteContext) :
    ∃ s after, (update d t fields o).write c =
      ("UPDATE " ++ tableText t ++ " SET " ++
        Text.joined ", " ((fields.entries.zipIdx (c.count + 1)).map fun p =>
          Literal.identifier p.1.1 ++ "=" ++ placeholder p.2) ++ s, after) ∧
      (∃ more, s = " WHERE " ++ more ∨ s = " RETURNING " ++ more) ∧
      (c.parameterized = false → after = c.bindAll (fields.entries.map Prod.snd)) := by
  let bound := c.bindAll (fields.entries.map Prod.snd)
  let condition := (whereClause d o.filter).write bound
  let returned := " RETURNING " ++ columnsText o.returning
  refine ⟨condition.1.getD "" ++ returned, condition.2, ?_, ?_, ?_⟩
  · simp only [update, table, Clause.write_append, Clause.write_text, write_assignments, optional,
      tableText, write_returning, String.append_assoc, condition, bound, returned]
  · rcases write_whereClause d o.filter bound with none_left | ⟨text, left⟩
    · refine ⟨columnsText o.returning, .inr ?_⟩
      simp only [condition, none_left, Option.getD_none, String.empty_append, returned]
    · refine ⟨text ++ returned, .inl ?_⟩
      simp only [condition, left, Option.getD_some, String.append_assoc]
  · intro inline
    exact congrArg Prod.snd (steady_whereClause d o.filter bound inline)

/-! ### Lexemes of statements -/

theorem lexes_table {t : Table} (plain : PlainName t.schema) :
    Lexes (tableText t) [word t.schema, mark '.', name t.name] := by
  intro rest boundary
  have dot (rest : List Char) : read (".".toList ++ rest) = mark '.' :: read rest := rfl
  have start (rest : List Char) : Boundary (".".toList ++ rest) := boundary_cons (by decide) _
  rw [tableText, String.toList_append, String.toList_append, List.append_assoc, List.append_assoc,
    plain.lexes _ (start _), dot, lexes_identifier _ rest boundary]
  rfl

private theorem identifier_ne_empty (s : String) : Literal.identifier s ≠ "" := by
  intro none
  have chars := congrArg String.toList none
  rw [Literal.identifier, String.toList_ofList] at chars
  cases chars

/-- The lexemes of quoted columns. -/
def columnLexemes (entries : List (String × Value)) : List Lexeme :=
  commas (entries.map fun e => [name e.1])

/-- The lexemes of the places of values, the first of which is the `n`th parameter. -/
def placeLexemes (entries : List (String × Value)) (n : Nat) : List Lexeme :=
  commas ((entries.zipIdx n).map fun p => [place p.2])

/-- The lexemes of assignments, the first of which is to the `n`th parameter. -/
def assignmentLexemes (entries : List (String × Value)) (n : Nat) : List Lexeme :=
  commas ((entries.zipIdx n).map fun p => [name p.1.1, mark '=', place p.2])

private theorem lexes_columns (entries : List (String × Value)) :
    Lexes (Text.joined ", " (entries.map fun e => Literal.identifier e.1))
      (columnLexemes entries) := by
  have each (e : String × Value) : Lexes (Literal.identifier e.1) [name e.1] :=
    lexes_identifier e.1
  have filled (e : String × Value) : Literal.identifier e.1 ≠ "" := identifier_ne_empty e.1
  rw [columnLexemes]
  exact lexes_joined _ _ each filled entries

private theorem lexes_places (entries : List (String × Value)) (n : Nat) :
    Lexes (Text.joined ", " ((entries.zipIdx n).map fun p => placeholder p.2))
      (placeLexemes entries n) := by
  have each (p : (String × Value) × Nat) : Lexes (placeholder p.2) [place p.2] :=
    lexes_placeholder p.2
  have filled (p : (String × Value) × Nat) : placeholder p.2 ≠ "" := by simp [placeholder]
  rw [placeLexemes]
  exact lexes_joined _ _ each filled (entries.zipIdx n)

private theorem lexes_assignments (entries : List (String × Value)) (n : Nat) :
    Lexes (Text.joined ", " ((entries.zipIdx n).map fun p =>
      Literal.identifier p.1.1 ++ "=" ++ placeholder p.2)) (assignmentLexemes entries n) := by
  have equals (rest : List Char) : read ("=".toList ++ rest) = mark '=' :: read rest := rfl
  have start (rest : List Char) : Boundary ("=".toList ++ rest) := boundary_cons (by decide) _
  have each (p : (String × Value) × Nat) :
      Lexes (Literal.identifier p.1.1 ++ "=" ++ placeholder p.2)
        [name p.1.1, mark '=', place p.2] := by
    intro rest boundary
    rw [String.toList_append, String.toList_append, List.append_assoc, List.append_assoc,
      lexes_identifier _ _ (start _), equals, lexes_placeholder _ rest boundary]
    rfl
  have filled (p : (String × Value) × Nat) :
      Literal.identifier p.1.1 ++ "=" ++ placeholder p.2 ≠ "" := by
    intro none
    rw [String.append_eq_empty_iff, String.append_eq_empty_iff] at none
    exact identifier_ne_empty p.1.1 none.1.1
  rw [assignmentLexemes]
  exact lexes_joined _ _ each filled (entries.zipIdx n)

/-- What follows the table of an insertion, whatever its name: the columns and the places of their
values. -/
theorem insert_behind_table (t : Table) (fields : Fields) (o : Clauses) (c : WriteContext) :
    ∃ behind : String, ((insert t fields o).write c).1 = "INSERT INTO " ++ tableText t ++ behind ∧
      Boundary behind.toList ∧
      read behind.toList = mark '(' :: (columnLexemes fields.entries ++ mark ')' ::
        word "VALUES" :: mark '(' :: (placeLexemes fields.entries (c.count + 1) ++
          mark ')' :: word "RETURNING" :: read (columnsText o.returning).toList)) := by
  have opening (r : List Char) : read (" (".toList ++ r) = mark '(' :: read r := rfl
  have between (r : List Char) : read (") VALUES (".toList ++ r) =
      mark ')' :: word "VALUES" :: mark '(' :: read r := rfl
  have closing (r : List Char) : read (")".toList ++ (" RETURNING ".toList ++ r)) =
      mark ')' :: word "RETURNING" :: read r := rfl
  have blank (r : List Char) : Boundary (" (".toList ++ r) := boundary_cons (by decide) _
  have close (r : List Char) : Boundary (") VALUES (".toList ++ r) := boundary_cons (by decide) _
  have last (r : List Char) : Boundary (")".toList ++ r) := boundary_cons (by decide) _
  rw [write_insert]
  simp only [String.append_assoc]
  refine ⟨_, rfl, ?_, ?_⟩
  · rw [String.toList_append]
    exact blank _
  · simp only [String.toList_append]
    rw [opening, lexes_columns _ _ (close _), between, lexes_places _ _ _ (last _), closing]

/-- An insertion is read as its table, its columns and the places of their values. -/
theorem read_insert {t : Table} (plain : PlainName t.schema) (fields : Fields) (o : Clauses)
    (c : WriteContext) : read ((insert t fields o).write c).1.toList =
      word "INSERT" :: word "INTO" :: word t.schema :: mark '.' :: name t.name :: mark '(' ::
        (columnLexemes fields.entries ++ mark ')' :: word "VALUES" :: mark '(' ::
          (placeLexemes fields.entries (c.count + 1) ++
            mark ')' :: word "RETURNING" :: read (columnsText o.returning).toList)) := by
  obtain ⟨behind, text, boundary, lexemes⟩ := insert_behind_table t fields o c
  have start (r : List Char) : read ("INSERT INTO ".toList ++ r) =
      word "INSERT" :: word "INTO" :: read r := rfl
  rw [text, String.toList_append, String.toList_append, List.append_assoc, start,
    lexes_table plain _ boundary, lexemes]
  rfl

/-- What follows the table of an update, whatever its name: the assignments, behind which the
update goes on with a keyword. -/
theorem update_behind_table (d : Dialect) (t : Table) (fields : Fields) (o : Clauses)
    (c : WriteContext) : ∃ behind : String, ∃ keyword rest,
      ((update d t fields o).write c).1 = "UPDATE " ++ tableText t ++ behind ∧
      Boundary behind.toList ∧ (keyword = "WHERE" ∨ keyword = "RETURNING") ∧
      read behind.toList = word "SET" ::
        (assignmentLexemes fields.entries (c.count + 1) ++ word keyword :: rest) := by
  obtain ⟨s, after, written, ⟨more, tail⟩, -⟩ := write_update d t fields o c
  let assignments := Text.joined ", " ((fields.entries.zipIdx (c.count + 1)).map fun p =>
    Literal.identifier p.1.1 ++ "=" ++ placeholder p.2)
  have blank (r : List Char) : Boundary (" SET ".toList ++ r) := boundary_cons (by decide) _
  have whole {r : List Char} (boundary : Boundary r) :
      read (" SET ".toList ++ (assignments.toList ++ r)) =
        word "SET" :: (assignmentLexemes fields.entries (c.count + 1) ++ read r) := by
    have set (r : List Char) : read (" SET ".toList ++ r) = word "SET" :: read r := rfl
    rw [set, lexes_assignments _ _ _ boundary]
  obtain ⟨keyword, either, boundary, lexemes⟩ : ∃ keyword, (keyword = "WHERE" ∨
      keyword = "RETURNING") ∧ Boundary s.toList ∧
        read s.toList = word keyword :: read more.toList := by
    have condition (r : List Char) : read (" WHERE ".toList ++ r) = word "WHERE" :: read r := rfl
    have returned (r : List Char) :
        read (" RETURNING ".toList ++ r) = word "RETURNING" :: read r := rfl
    rcases tail with rfl | rfl
    · refine ⟨"WHERE", .inl rfl, ?_⟩
      rw [String.toList_append, condition]
      exact ⟨boundary_cons (c := ' ') (by decide) _, rfl⟩
    · refine ⟨"RETURNING", .inr rfl, ?_⟩
      rw [String.toList_append, returned]
      exact ⟨boundary_cons (c := ' ') (by decide) _, rfl⟩
  refine ⟨" SET " ++ (assignments ++ s), keyword, read more.toList, ?_, ?_, either, ?_⟩
  · rw [written]
    simp only [String.append_assoc, assignments]
  · rw [String.toList_append]
    exact blank _
  · rw [String.toList_append, String.toList_append, whole boundary, lexemes]

/-- An update is read as its table and its assignments, behind which it goes on with a keyword. -/
theorem read_update (d : Dialect) {t : Table} (plain : PlainName t.schema) (fields : Fields)
    (o : Clauses) (c : WriteContext) : ∃ keyword rest, (keyword = "WHERE" ∨ keyword = "RETURNING") ∧
      read ((update d t fields o).write c).1.toList =
        word "UPDATE" :: word t.schema :: mark '.' :: name t.name :: word "SET" ::
          (assignmentLexemes fields.entries (c.count + 1) ++ word keyword :: rest) := by
  obtain ⟨behind, keyword, rest, text, boundary, either, lexemes⟩ :=
    update_behind_table d t fields o c
  have start (r : List Char) : read ("UPDATE ".toList ++ r) = word "UPDATE" :: read r := rfl
  refine ⟨keyword, rest, either, ?_⟩
  rw [text, String.toList_append, String.toList_append, List.append_assoc, start,
    lexes_table plain _ boundary, lexemes]
  rfl

/-! ### Orders of selections -/

/-- The columns to order by, each with its direction. -/
def askedTexts (order : Option Ordering) : List String :=
  (order.getD [("id", .ascending)]).map fun e => Literal.identifier e.1 ++ " " ++ e.2.token

/-- What a selection ends in: the columns to order by, and the numbers of rows. -/
def tailText (o : Clauses) : String :=
  ", ".intercalate (askedTexts o.order) ++
    (countAfter " OFFSET " o.offset ++ countAfter " LIMIT " o.limit)

/-- The lexemes of a number of rows that is given and not zero. -/
def countLexemes (keyword : String) : Option UInt64 → List Lexeme
  | some n => if n = 0 then [] else [word keyword, word (Text.natText n.toNat)]
  | none => []

/-- The lexemes of what a selection ends in. -/
def tailLexemes (o : Clauses) : List Lexeme :=
  commas ((o.order.getD [("id", .ascending)]).map fun e => [name e.1, word e.2.token]) ++
    (countLexemes "OFFSET" o.offset ++ countLexemes "LIMIT" o.limit)

private theorem lexes_token (direction : Direction) :
    Lexes direction.token [word direction.token] :=
  PlainName.lexes (by cases direction <;> decide)

private theorem lexes_asked (order : Option Ordering) : Lexes (", ".intercalate (askedTexts order))
    (commas ((order.getD [("id", .ascending)]).map fun e => [name e.1, word e.2.token])) := by
  have blank (r : List Char) : read (" ".toList ++ r) = read r := rfl
  have start (r : List Char) : Boundary (" ".toList ++ r) := boundary_cons (by decide) _
  have each (e : String × Direction) : Lexes (Literal.identifier e.1 ++ " " ++ e.2.token)
      [name e.1, word e.2.token] := by
    intro rest boundary
    rw [String.toList_append, String.toList_append, List.append_assoc, List.append_assoc,
      lexes_identifier _ _ (start _), blank, lexes_token _ rest boundary]
    rfl
  have filled (e : String × Direction) : Literal.identifier e.1 ++ " " ++ e.2.token ≠ "" := by
    intro none
    rw [String.append_eq_empty_iff, String.append_eq_empty_iff] at none
    exact identifier_ne_empty e.1 none.1.1
  have nonempty : ∀ s ∈ askedTexts order, s ≠ "" := by
    intro s member
    obtain ⟨e, -, rfl⟩ := List.mem_map.mp member
    exact filled e
  rw [← Text.joined_eq_intercalate nonempty]
  exact lexes_joined _ _ each filled _

private theorem lexes_count (keyword spaced : String)
    (start : ∀ r, read (spaced.toList ++ r) = word keyword :: read r) (n : Option UInt64) :
    Lexes (countAfter spaced n) (countLexemes keyword n) := by
  intro rest boundary
  cases n with
  | none => rfl
  | some n =>
    by_cases zero : n = 0
    · rw [countAfter, countLexemes, if_pos zero, if_pos zero]
      rfl
    · rw [countAfter, countLexemes, if_neg zero, if_neg zero, String.toList_append,
        List.append_assoc, start, lexes_natText _ rest boundary]
      rfl

private theorem boundary_count (keyword : String) (blank : keyword.toList.head? = some ' ')
    (n : Option UInt64) : Boundary (countAfter keyword n).toList := by
  cases n with
  | none => exact boundary_nil
  | some n =>
    by_cases zero : n = 0
    · rw [countAfter, if_pos zero]
      exact boundary_nil
    · obtain ⟨rest, text⟩ := List.head?_eq_some_iff.mp blank
      rw [countAfter, if_neg zero, String.toList_append, text]
      exact boundary_cons (by decide) _

private theorem boundary_counts (o : Clauses) :
    Boundary (countAfter " OFFSET " o.offset ++ countAfter " LIMIT " o.limit).toList := by
  rw [String.toList_append]
  exact (boundary_count " OFFSET " rfl o.offset).append (boundary_count " LIMIT " rfl o.limit)

private theorem read_tail (o : Clauses) : read (tailText o).toList = tailLexemes o := by
  have counts := (lexes_count "OFFSET" " OFFSET " (fun _ => rfl) o.offset).append
    (lexes_count "LIMIT" " LIMIT " (fun _ => rfl) o.limit) (boundary_count " LIMIT " rfl o.limit)
  exact ((lexes_asked o.order).append counts (boundary_counts o)).read_eq

private theorem listed_eq (keyword separator : String) (items : List String) :
    listed keyword separator items =
      (if items = [] then "" else keyword) ++ separator.intercalate items := by
  cases items with
  | nil => rw [if_pos rfl, String.intercalate_nil]; rfl
  | cons s items => rw [if_neg (List.cons_ne_nil s items)]; rfl

/-- The text of a selection. -/
private theorem write_select (d : Dialect) (t : Table) (o : Clauses) (c : WriteContext) :
    ((select d t o).write c).1 =
      "SELECT " ++ columnsText o.select ++ " FROM " ++ tableText t ++
        (((optional (whereClause d o.filter)).write c).1 ++
          ((if askedTexts o.order = [] then "" else " ORDER BY ") ++ tailText o)) := by
  have order (c : WriteContext) : (orderBy o.order).write c =
      (listed " ORDER BY " ", " (askedTexts o.order), c) :=
    write_optional_keyword (write_orderList o.order) " ORDER BY "
  simp only [select, table, tableText, Clause.write_append, Clause.write_text, within,
    write_columnList (c := { c with region := .select }) rfl, order, paging, listed_eq, tailText,
    String.append_assoc]

/-- The order of a search ends like that of a selection. -/
private theorem write_searchOrder_tail (order : Option Ordering) (pass : SearchPass)
    (columns : List String) (places : List Nat) (c : WriteContext) :
    ∃ front, ((optional (keyword " ORDER BY " (searchOrder order pass columns places))).write c).1 =
      front ++ ", ".intercalate (askedTexts order) := by
  have asked (c : WriteContext) : (orderList order).write c =
      (gathered ", " (askedTexts order), c) := write_orderList order
  obtain ⟨ranking, both⟩ : ∃ ranking, ((searchOrder order pass columns places).write c).1 =
      match ranking, gathered ", " (askedTexts order) with
        | some r, some s => some (r ++ ", " ++ s)
        | some r, none => some r
        | none, s => s := by
    simp only [searchOrder, asked]
    exact ⟨_, rfl⟩
  let search := searchOrder order pass columns places
  have whole : ((optional (keyword " ORDER BY " search)).write c).1 =
      ((search.write c).1.map (" ORDER BY " ++ ·)).getD "" := rfl
  rw [whole, both, gathered]
  cases askedTexts order with
  | nil =>
    rw [String.intercalate_nil]
    exact ⟨_, (String.append_empty).symm⟩
  | cons s items =>
    cases ranking with
    | none => exact ⟨" ORDER BY ", rfl⟩
    | some r => exact ⟨" ORDER BY " ++ (r ++ ", "), (String.append_assoc).symm⟩

/-- The text of a search ends like that of a selection. -/
private theorem write_search_tail (d : Dialect) (t : Table) (words columns : List String)
    (o : Clauses) (pass : SearchPass) (c : WriteContext) :
    ∃ front, ((search d t words columns o pass).write c).1 = front ++ tailText o := by
  let bound := if pass == .listing then (([] : List Nat), c) else bindWords words c
  let condition := (optional (keyword " WHERE "
    (searchCondition d o.filter pass columns bound.1))).write bound.2
  obtain ⟨front, order⟩ := write_searchOrder_tail o.order pass columns bound.1 condition.2
  refine ⟨"SELECT * FROM " ++ t.fullName ++ condition.1 ++ front, ?_⟩
  have whole : ((search d t words columns o pass).write c).1 =
      "SELECT * FROM " ++ t.fullName ++ condition.1 ++
        ((optional (keyword " ORDER BY " (searchOrder o.order pass columns bound.1))).write
          condition.2).1 ++ (countAfter " OFFSET " o.offset ++ countAfter " LIMIT " o.limit) := rfl
  rw [whole, order, tailText]
  simp only [String.append_assoc]

/-- What follows the table of a selection starts with a blank, or is nothing. -/
private theorem boundary_behind_table (d : Dialect) (o : Clauses) (c : WriteContext) :
    Boundary (((optional (whereClause d o.filter)).write c).1 ++
      ((if askedTexts o.order = [] then "" else " ORDER BY ") ++ tailText o)).toList := by
  have condition : Boundary ((optional (whereClause d o.filter)).write c).1.toList := by
    have text : ((optional (whereClause d o.filter)).write c).1 =
        ((whereClause d o.filter).write c).1.getD "" := rfl
    rw [text]
    rcases write_whereClause d o.filter c with none_left | ⟨s, left⟩
    · rw [none_left]
      exact boundary_nil
    · rw [left, Option.getD_some, String.toList_append]
      exact boundary_cons (c := ' ') (by decide) _
  rw [String.toList_append]
  refine condition.append ?_
  by_cases unordered : askedTexts o.order = []
  · rw [if_pos unordered, tailText, unordered, String.intercalate_nil, String.empty_append,
      String.empty_append]
    exact boundary_counts o
  · rw [if_neg unordered, String.toList_append]
    exact boundary_cons (c := ' ') (by decide) _

/-- Behind whatever has been written, a character of one byte is replaced everywhere in a text that
is copied between the bytes at which it is found, so that a name is written between quotes with each
of its own written twice. A quoted name is one lexeme, up to any text that does not start with a
double quote, so that different names have different texts. In the statements on a table whose
schema needs no quotes, whatever is written, the table is read behind its schema, and every column
of an insertion, of an assignment or of an order as its name, between the other lexemes of the
statement. -/
theorem quoted_names_read_back :
    (∀ (x : Draft) (search : Char) (replacement s : String), x.escaped search replacement s =
      if 1 < search.utf8Size ∧ search ∈ s.toList then .error .withinCharacter
      else .ok (x.push (String.ofList (Literal.replaced search replacement.toList s.toList)))) ∧
    (∀ (x : Draft) (s : String), x.identifier s = x.push (Literal.identifier s)) ∧
    (∀ (s : String) (rest : List Char), rest.head? ≠ some '"' →
      first? ((Literal.identifier s).toList ++ rest) = some (name s, rest)) ∧
    Function.Injective Literal.identifier ∧
    ∀ (d : Dialect) (t : Table) (fields : Fields) (o : Clauses) (c : WriteContext),
      PlainName t.schema →
      read ((insert t fields o).write c).1.toList =
        word "INSERT" :: word "INTO" :: word t.schema :: mark '.' :: name t.name :: mark '(' ::
          (columnLexemes fields.entries ++ mark ')' :: word "VALUES" :: mark '(' ::
            (placeLexemes fields.entries (c.count + 1) ++
              mark ')' :: word "RETURNING" :: read (columnsText o.returning).toList)) ∧
      (∃ keyword rest, (keyword = "WHERE" ∨ keyword = "RETURNING") ∧
        read ((update d t fields o).write c).1.toList =
          word "UPDATE" :: word t.schema :: mark '.' :: name t.name :: word "SET" ::
            (assignmentLexemes fields.entries (c.count + 1) ++ word keyword :: rest)) ∧
      (∃ condition, let behind := condition ++ tailText o
        ((select d t o).write c).1 =
          "SELECT " ++ columnsText o.select ++ " FROM " ++ tableText t ++ behind ∧
        read (tableText t ++ behind).toList =
          word t.schema :: mark '.' :: name t.name :: read behind.toList) ∧
      (∀ words columns pass, ∃ front,
        ((search d t words columns o pass).write c).1 = front ++ tailText o) ∧
      read (tailText o).toList = tailLexemes o := by
  refine ⟨Draft.escaped_eq, Draft.identifier_eq, fun s rest => first?_identifier s, ?_,
    fun d t fields o c plain => ⟨?_, ?_, ?_, ?_, ?_⟩⟩
  · intro s s' same
    have one (s : String) : first? (Literal.identifier s).toList = some (name s, []) := by
      have alone := first?_identifier s (show ([] : List Char).head? ≠ some '"' by decide)
      rwa [List.append_nil] at alone
    have read := one s
    rw [same, one s'] at read
    cases read
    rfl
  · exact read_insert plain fields o c
  · exact read_update d plain fields o c
  · let condition := ((optional (whereClause d o.filter)).write c).1
    let keyword := if askedTexts o.order = [] then "" else " ORDER BY "
    have behind : condition ++ keyword ++ tailText o = condition ++ (keyword ++ tailText o) :=
      String.append_assoc
    have lexemes := lexes_table plain _ (boundary_behind_table d o c)
    rw [← String.toList_append] at lexemes
    refine ⟨condition ++ keyword, ?_⟩
    rw [behind]
    exact ⟨write_select d t o c, lexemes⟩
  · exact fun words columns pass => write_search_tail d t words columns o pass c
  · exact read_tail o

theorem names_of_quotes_read_back :
    (Draft.blank .inline).identifier "é\"\"a" = ⟨"\"é\"\"\"\"a\"", .inline⟩ ∧
    (Draft.blank .inline).escaped 'é' "e" "café" = .error .withinCharacter ∧
    " ASC".toList.head? ≠ some '"' ∧
    first? ((Literal.identifier "\"\"a").toList ++ " ASC".toList) =
      some (name "\"\"a", " ASC".toList) ∧
    PlainName "public" ∧
    read ((insert ⟨"public", "\""⟩ ⟨[("a\", \"b", .text "x"), ("", .null)]⟩ {}).write
        .inline).1.toList =
      [word "INSERT", word "INTO", word "public", mark '.', name "\"", mark '(', name "a\", \"b",
        mark ',', name "", mark ')', word "VALUES", mark '(', place 1, mark ',', place 2,
        mark ')', word "RETURNING", word "*"] := by
  obtain ⟨copied, written, alone, -, statements⟩ := quoted_names_read_back
  have quoted : Literal.identifier "é\"\"a" = "\"é\"\"\"\"a\"" := by decide
  have name := written (Draft.blank .inline) "é\"\"a"
  rw [quoted] at name
  have wide := (copied (Draft.blank .inline) 'é' "e" "café").trans
    (if_pos ⟨by decide, by decide⟩)
  have plain : PlainName "public" := by decide
  obtain ⟨insertion, -⟩ := statements .generic ⟨"public", "\""⟩
    ⟨[("a\", \"b", .text "x"), ("", .null)]⟩ {} .inline plain
  exact ⟨name, wide, by decide, alone _ _ (by decide), plain, insertion⟩

end Statement

end TableAccess
