import TableAccess.Proofs.Statement.Names

/-!
What insertions and updates write, read back from their lexemes.

An insertion lists its columns and the places of their values apart, an update assigns each column
a place. Either way a reader finds the columns with their own values again, in order, at the places
that the parameters have.
-/

set_option autoImplicit false
set_option relaxedAutoImplicit false

namespace TableAccess

open Lexeme

/-- What a statement writes: a table, and columns with the places of their values. -/
structure Writing where
  table : Table
  entries : List (String × Nat)

namespace Writing

/-! ### Readers -/

/-- What follows a word. -/
def after? (w : String) : List Lexeme → Option (List Lexeme)
  | word v :: ls => if v = w then some ls else none
  | _ => none

/-- A table behind its schema, and what follows it. -/
def table? : List Lexeme → Option (Table × List Lexeme)
  | word schema :: mark '.' :: name table :: ls => some (⟨schema, table⟩, ls)
  | _ => none

/-- What stands in parentheses, and what follows them. -/
def enclosed? : List Lexeme → Option (List Lexeme × List Lexeme)
  | mark '(' :: ls =>
    match ls.dropWhile (· ≠ mark ')') with
    | _ :: rest => some (ls.takeWhile (· ≠ mark ')'), rest)
    | [] => none
  | _ => none

/-- The items between commas. -/
def items (ls : List Lexeme) : List (List Lexeme) :=
  if ls.isEmpty then [] else ls.splitOn (mark ',')

def column? : List Lexeme → Option String
  | [name s] => some s
  | _ => none

def place? : List Lexeme → Option Nat
  | [place n] => some n
  | _ => none

def assignment? : List Lexeme → Option (String × Nat)
  | [name s, mark '=', place n] => some (s, n)
  | _ => none

def isWord : Lexeme → Bool
  | word _ => true
  | _ => false

/-- An insertion, each column of which goes with the place in the same position. -/
def insertion? (ls : List Lexeme) : Option Writing := do
  let (table, ls) ← table? (← after? "INTO" (← after? "INSERT" ls))
  let (columns, ls) ← enclosed? ls
  let (places, ls) ← enclosed? (← after? "VALUES" ls)
  let _ ← after? "RETURNING" ls
  let columns ← (items columns).mapM column?
  let places ← (items places).mapM place?
  if columns.length = places.length then some ⟨table, columns.zip places⟩ else none

/-- An update, the assignments of which end at a word. -/
def update? (ls : List Lexeme) : Option Writing := do
  let (table, ls) ← table? (← after? "UPDATE" ls)
  let ls ← after? "SET" ls
  let entries ← (items (ls.takeWhile (!isWord ·))).mapM assignment?
  return ⟨table, entries⟩

/-- The columns with the values that a list of parameters has in their places. -/
def values? (w : Writing) (parameters : List Value) : Option (List (String × Value)) :=
  w.entries.mapM fun e =>
    match e.2 with
    | 0 => none
    | n + 1 => parameters[n]?.map (e.1, ·)

/-! ### Items between commas -/

/-- What holds of commas and of the lexemes of every item holds of all lexemes. -/
private theorem forall_mem_commas {α : Type} {P : Lexeme → Prop} {lexemes : α → List Lexeme}
    (comma : P (mark ',')) (each : ∀ x, ∀ l ∈ lexemes x, P l) (xs : List α) :
    ∀ l ∈ commas (xs.map lexemes), P l := by
  induction xs with
  | nil => exact fun l member => nomatch member
  | cons x xs ih =>
    cases xs with
    | nil =>
      rw [commas, List.map_singleton, List.intercalate_singleton]
      exact each x
    | cons y xs =>
      rw [commas, List.map_cons, List.map_cons, List.intercalate_cons_cons]
      exact List.forall_mem_append.mpr
        ⟨List.forall_mem_append.mpr ⟨each x, List.forall_mem_singleton.mpr comma⟩, ih⟩

/-- A way to write things as lexemes that can be put between commas and read back. -/
structure Legible {α β : Type} (item? : List Lexeme → Option β) (lexemes : α → List Lexeme)
    (value : α → β) : Prop where
  item : ∀ x, item? (lexemes x) = some (value x)
  filled : ∀ x, lexemes x ≠ []
  comma : ∀ x, mark ',' ∉ lexemes x

private theorem commas_ne_nil {ls : List Lexeme} (filled : ls ≠ []) (others : List (List Lexeme)) :
    commas (ls :: others) ≠ [] := by
  intro none
  cases others with
  | nil =>
    rw [commas, List.intercalate_singleton] at none
    exact filled none
  | cons ks others =>
    rw [commas, List.intercalate_cons_cons, List.append_assoc, List.append_eq_nil_iff] at none
    exact filled none.1

namespace Legible

variable {α β : Type} {item? : List Lexeme → Option β} {lexemes : α → List Lexeme} {value : α → β}

private theorem items_commas (h : Legible item? lexemes value) (xs : List α) :
    items (commas (xs.map lexemes)) = xs.map lexemes := by
  cases xs with
  | nil => rfl
  | cons x xs =>
    have apart : ∀ ls ∈ (x :: xs).map lexemes, mark ',' ∉ ls := by
      intro ls member
      obtain ⟨x, -, rfl⟩ := List.mem_map.mp member
      exact h.comma x
    have some_lexemes : commas ((x :: xs).map lexemes) ≠ [] := commas_ne_nil (h.filled x) _
    rw [items, if_neg (mt List.isEmpty_iff.mp some_lexemes), commas]
    exact List.splitOn_intercalate _ apart (List.cons_ne_nil _ _)

/-- Things written with commas between them are read back one by one. -/
theorem mapM_items (h : Legible item? lexemes value) (xs : List α) :
    (items (commas (xs.map lexemes))).mapM item? = some (xs.map value) := by
  rw [h.items_commas, List.mapM_map]
  exact (congrArg (List.mapM · xs) (funext h.item)).trans List.mapM_pure

end Legible

/-! ### Statements read back -/

open Statement (columnLexemes placeLexemes assignmentLexemes)

private theorem legible_columns : Legible column? (fun e : String × Value => [name e.1]) Prod.fst :=
  ⟨fun _ => rfl, fun _ => List.cons_ne_nil _ _, fun _ => by simp⟩

private theorem legible_places :
    Legible place? (fun p : (String × Value) × Nat => [place p.2]) Prod.snd :=
  ⟨fun _ => rfl, fun _ => List.cons_ne_nil _ _, fun _ => by simp⟩

private theorem legible_assignments :
    Legible assignment? (fun p : (String × Value) × Nat => [name p.1.1, mark '=', place p.2])
      (fun p => (p.1.1, p.2)) :=
  ⟨fun _ => rfl, fun _ => List.cons_ne_nil _ _, fun _ => by simp⟩

/-- Lexemes up to a closing parenthesis that is none of them. -/
private theorem enclosed?_append {ls : List Lexeme} (apart : ∀ l ∈ ls, l ≠ mark ')')
    (rest : List Lexeme) :
    enclosed? (mark '(' :: (ls ++ mark ')' :: rest)) = some (ls, rest) := by
  have others : ∀ l ∈ ls, decide (l ≠ mark ')') = true :=
    fun l member => decide_eq_true (apart l member)
  rw [enclosed?, List.dropWhile_append_of_pos others, List.takeWhile_append_of_pos others,
    List.dropWhile_cons_of_neg (by simp), List.takeWhile_cons_of_neg (by simp), List.append_nil]

/-- Columns in parentheses are read back. -/
theorem enclosed?_columns (entries : List (String × Value)) (rest : List Lexeme) :
    enclosed? (mark '(' :: (columnLexemes entries ++ mark ')' :: rest)) =
      some (columnLexemes entries, rest) := by
  apply enclosed?_append
  exact forall_mem_commas (by decide) (fun e => by simp) entries

theorem mapM_items_columns (entries : List (String × Value)) :
    (items (columnLexemes entries)).mapM column? = some (entries.map Prod.fst) :=
  legible_columns.mapM_items entries

/-- Assignments end at the word that follows them. -/
theorem takeWhile_assignments (entries : List (String × Value)) (n : Nat) (keyword : String)
    (rest : List Lexeme) :
    (assignmentLexemes entries n ++ word keyword :: rest).takeWhile (!isWord ·) =
      assignmentLexemes entries n := by
  have silent : ∀ l ∈ assignmentLexemes entries n, (!isWord l) = true :=
    forall_mem_commas (P := fun l => (!isWord l) = true) rfl (fun p => by simp [isWord]) _
  rw [List.takeWhile_append_of_pos silent, List.takeWhile_cons_of_neg Bool.false_ne_true,
    List.append_nil]

theorem mapM_items_assignments (entries : List (String × Value)) (n : Nat) :
    (items (assignmentLexemes entries n)).mapM assignment? =
      some ((entries.map Prod.fst).zip (List.range' n entries.length)) := by
  have assigned := legible_assignments.mapM_items (entries.zipIdx n)
  rw [← assignmentLexemes] at assigned
  rw [assigned, List.zipIdx_eq_zip_range', List.zip_map_left]
  rfl

/-- Columns of a table with their values in places one after another, the first of them given. -/
def inOrder (t : Table) (columns : List String) (first : Nat) : Writing :=
  ⟨t, columns.zip (List.range' first columns.length)⟩

private theorem insertion?_read {t : Table} (plain : PlainName t.schema) (fields : Fields)
    (o : Clauses) (c : WriteContext) :
    insertion? (read ((Statement.insert t fields o).write c).1.toList) =
      some (inOrder t (fields.entries.map Prod.fst) (c.count + 1)) := by
  have lexemes := Statement.read_insert plain fields o c
  have places : ∀ l ∈ placeLexemes fields.entries (c.count + 1), l ≠ mark ')' :=
    forall_mem_commas (by decide) (fun p => by simp) (fields.entries.zipIdx (c.count + 1))
  have numbers := legible_places.mapM_items (fields.entries.zipIdx (c.count + 1))
  rw [← placeLexemes, List.zipIdx_map_snd] at numbers
  rw [lexemes, insertion?]
  simp only [after?, table?, if_true, Option.bind_eq_bind, Option.bind_some, enclosed?_columns,
    enclosed?_append places, mapM_items_columns, numbers, List.length_map, List.length_range',
    inOrder]

private theorem update?_read (d : Dialect) {t : Table} (plain : PlainName t.schema)
    (fields : Fields) (o : Clauses) (c : WriteContext) :
    update? (read ((Statement.update d t fields o).write c).1.toList) =
      some (inOrder t (fields.entries.map Prod.fst) (c.count + 1)) := by
  obtain ⟨keyword, rest, -, lexemes⟩ := Statement.read_update d plain fields o c
  rw [lexemes, update?]
  simp only [after?, table?, if_true, Option.bind_eq_bind, Option.bind_some, takeWhile_assignments,
    mapM_items_assignments, inOrder, List.length_map]
  rfl

private theorem values?_inOrder (t : Table) (entries : List (String × Value))
    (before : List Value) :
    (inOrder t (entries.map Prod.fst) (before.length + 1)).values?
        (before ++ entries.map fun e => Clause.parameterOf e.2) =
      some (entries.map fun e => (e.1, Clause.parameterOf e.2)) := by
  induction entries generalizing before with
  | nil => rfl
  | cons e entries ih =>
    have rest := ih (before ++ [Clause.parameterOf e.2])
    rw [List.length_append, List.length_singleton, List.append_assoc, List.singleton_append] at rest
    simp only [values?, inOrder, List.map_cons, List.length_cons, List.range'_succ,
      List.zip_cons_cons, List.mapM_cons] at rest ⊢
    rw [List.getElem?_append_right (Nat.le_refl _), Nat.sub_self, rest]
    rfl

end Writing

namespace Statement

open Writing (insertion? update? inOrder)

/-- An insertion and an update of a table whose schema needs no quotes, in a context whose values
are literals. Each is read back as its table and its columns, in order, with the next parameters
from left to right as the places of their values. The parameters that it binds are those values,
one for each column, nulls among them, and no others: the filter of an update binds none. So the
columns have their own values in their places. -/
theorem columns_take_their_own_values (d : Dialect) (t : Table) (plain : PlainName t.schema)
    (fields : Fields) (o : Clauses) (c : WriteContext) (inline : c.parameterized = false) :
    let columns := fields.entries.map Prod.fst
    let values := fields.entries.map fun e => Clause.parameterOf e.2
    let after : WriteContext := { c with parameters := c.parameters ++ values }
    let writing := inOrder t columns (c.count + 1)
    (∃ sql, (insert t fields o).write c = (sql, after) ∧
      insertion? (read sql.toList) = some writing) ∧
    (∃ sql, (update d t fields o).write c = (sql, after) ∧
      update? (read sql.toList) = some writing) ∧
    writing.values? after.parameters = some (columns.zip values) := by
  intro columns values after writing
  have bound : c.bindAll (fields.entries.map Prod.snd) = after := by
    simp only [WriteContext.bindAll, List.map_map, after, values]
    rfl
  have inserted := write_insert t fields o c
  obtain ⟨s', after', updated, -, inline_after⟩ := write_update d t fields o c
  refine ⟨⟨_, Prod.ext rfl ?_, Writing.insertion?_read plain fields o c⟩,
    ⟨_, Prod.ext rfl ?_, Writing.update?_read d plain fields o c⟩, ?_⟩
  · rw [inserted, bound]
  · rw [updated, inline_after inline, bound]
  · rw [List.zip_map']
    exact Writing.values?_inOrder t fields.entries c.parameters

/-- Columns with quotes, commas and places in their names, one of them twice. -/
def puzzlingFields : Fields :=
  ⟨[("a\", \"b", .null), ("$2) VALUES (", .scalar .interval (some ⟨1, 0, 0⟩)), ("", .text "$1"),
    ("", .scalar .int32 (some 7))]⟩

theorem puzzling_columns_take_values :
    PlainName "public" ∧ WriteContext.inline.parameterized = false ∧
    ∃ sql after,
      (update .generic ⟨"public", "a\"b"⟩ puzzlingFields
        { filter := some (Filter.empty.eq "id" (.integer 3)), returning := some ["id"] }).write
          .inline = (sql, after) ∧
      update? (read sql.toList) = some ⟨⟨"public", "a\"b"⟩,
        [("a\", \"b", 1), ("$2) VALUES (", 2), ("", 3), ("", 4)]⟩ ∧
      after.parameters =
        [.null, .text "720:00:00", .text "$1", .scalar .int32 (some 7)] := by
  have plain : PlainName "public" := by decide
  obtain ⟨-, ⟨sql, written, assigned⟩, -⟩ := columns_take_their_own_values .generic
    ⟨"public", "a\"b"⟩ plain puzzlingFields
    { filter := some (Filter.empty.eq "id" (.integer 3)), returning := some ["id"] } .inline rfl
  have month : (Interval.mk 1 0 0).text = "720:00:00" := by decide +kernel
  refine ⟨plain, rfl, sql, _, written, assigned, ?_⟩
  rw [← month]
  rfl

end Statement

end TableAccess
