import TableAccess.Proofs.Statement.Lexemes
import TableAccess.Proofs.Statement.Shapes
import TableAccess.Proofs.Text.Cuts
import TableAccess.Statement.Write

/-!
The arguments of a call.

The commas and the closing parenthesis of a call stand outside of quotes and of inner parentheses.
A text that has no such comma or parenthesis of its own, and leaves what it enters, is one argument.
The literals of all values are such texts, whatever commas and parentheses they contain.
-/

set_option autoImplicit false
set_option relaxedAutoImplicit false

namespace TableAccess

open Reading (isQuote)

/-- Where a character of a call stands: in how many inner parentheses, and in what quotes. -/
structure Nesting where
  depth : Nat
  quote : Option Char
  deriving DecidableEq

namespace Nesting

/-- The arguments themselves stand in no inner parentheses and no quotes. -/
def top : Nesting := ⟨0, none⟩

def next (n : Nesting) (c : Char) : Nesting :=
  match n.quote with
  | some q => if c = q then { n with quote := none } else n
  | none =>
    if isQuote c then { n with quote := some c }
    else if c = '(' then { n with depth := n.depth + 1 }
    else if c = ')' then { n with depth := n.depth - 1 }
    else n

/-- Where a text ends, unless a comma or a parenthesis of the call itself is part of it. -/
def after (n : Nesting) : List Char → Option Nesting
  | [] => some n
  | c :: cs => if n = top ∧ (c = ',' ∨ c = ')') then none else (n.next c).after cs

/-- The arguments up to the end of the call, the first of which has been read in part, and what
follows the call. -/
def split (n : Nesting) (read : List Char) : List Char → Option (List (List Char) × List Char)
  | [] => none
  | c :: cs =>
    if n = top ∧ c = ')' then some ([read], cs)
    else if n = top ∧ c = ',' then (split top [] cs).map fun (as, rest) => (read :: as, rest)
    else (n.next c).split (read ++ [c]) cs

end Nesting

/-- A call: what stands before its parentheses, its arguments without blanks in front of them, and
what follows it. -/
structure Call where
  function : String
  arguments : List String
  rest : String
  deriving DecidableEq

namespace Call

/-- An argument without the blanks in front of it. -/
def argument (s : List Char) : String := String.ofList (s.dropWhile Text.isBlank)

def read? (sql : String) : Option Call := do
  let (function, inner) ← Text.cutFirst (· == '(') sql.toList
  let (arguments, rest) ← Nesting.top.split [] inner
  return ⟨String.ofList function, arguments.map argument, String.ofList rest⟩

end Call

/-! ### Arguments -/

namespace Nesting

variable {n m k : Nesting} {s t : List Char}

theorem after_append (first : n.after s = some m) (t : List Char) :
    n.after (s ++ t) = m.after t := by
  induction s generalizing n with
  | nil => cases first; rfl
  | cons c s ih =>
    rw [after] at first
    split at first
    · cases first
    · next inner =>
      rw [List.cons_append, after, if_neg inner, ih first]

theorem after_trans (first : n.after s = some m) (last : m.after t = some k) :
    n.after (s ++ t) = some k := (after_append first t).trans last

/-- What is part of an argument is read with it. -/
theorem split_append (inner : n.after s = some m) (read rest : List Char) :
    n.split read (s ++ rest) = m.split (read ++ s) rest := by
  induction s generalizing n read with
  | nil => cases inner; rw [List.append_nil, List.nil_append]
  | cons c s ih =>
    rw [after] at inner
    split at inner
    · cases inner
    · next here =>
      have no_end : ¬ (n = top ∧ c = ')') := fun h => here ⟨h.1, .inr h.2⟩
      have no_comma : ¬ (n = top ∧ c = ',') := fun h => here ⟨h.1, .inl h.2⟩
      rw [List.cons_append, split, if_neg no_end, if_neg no_comma, ih inner, List.append_assoc,
        List.singleton_append]

/-- A text without its quote stays between quotes. -/
theorem after_quoted {q : Char} {depth : Nat} (inside : ∀ c ∈ s, c ≠ q) :
    after ⟨depth, some q⟩ s = some ⟨depth, some q⟩ := by
  induction s with
  | nil => rfl
  | cons c s ih =>
    obtain ⟨first, others⟩ := List.forall_mem_cons.mp inside
    have quoted : ¬ ((⟨depth, some q⟩ : Nesting) = top ∧ (c = ',' ∨ c = ')')) := by
      rintro ⟨outside, -⟩
      cases outside
    have stays : next ⟨depth, some q⟩ c = ⟨depth, some q⟩ := if_neg first
    rw [after, if_neg quoted, stays, ih others]

/-- A text without quotes, commas and parentheses stays where it is. -/
theorem after_plain (plain : ∀ c ∈ s, isQuote c = false ∧ c ≠ ',' ∧ c ≠ '(' ∧ c ≠ ')')
    (depth : Nat) : after ⟨depth, none⟩ s = some ⟨depth, none⟩ := by
  induction s with
  | nil => rfl
  | cons c s ih =>
    obtain ⟨⟨unquoted, comma, opening, closing⟩, others⟩ := List.forall_mem_cons.mp plain
    have inner : ¬ ((⟨depth, none⟩ : Nesting) = top ∧ (c = ',' ∨ c = ')')) :=
      fun h => h.2.elim comma closing
    have stays : next ⟨depth, none⟩ c = ⟨depth, none⟩ := by
      simp only [next, unquoted, Bool.false_eq_true, if_false, opening, closing]
    rw [after, if_neg inner, stays, ih others]

end Nesting

/-- A text that is one argument of a call: it has no comma or parenthesis of the call, and no blank
in front. -/
structure IsArgument (s : String) : Prop where
  filled : s ≠ ""
  start : s.toList.head?.any Text.isBlank = false
  inner : Nesting.top.after s.toList = some Nesting.top

section Split

variable {s : String}

theorem IsArgument.argument_eq (h : IsArgument s) {blanks : List Char}
    (blank : ∀ c ∈ blanks, Text.isBlank c = true) : Call.argument (blanks ++ s.toList) = s := by
  have first : s.toList.dropWhile Text.isBlank = s.toList := by
    cases text : s.toList with
    | nil => rfl
    | cons c cs =>
      have solid := h.start
      rw [text] at solid
      exact List.dropWhile_cons_of_neg (Bool.eq_false_iff.mp solid)
  rw [Call.argument, List.dropWhile_append_of_pos blank, first, String.ofList_toList]

/-- Arguments with a comma and a blank behind each but the last are read one by one. -/
theorem split_arguments {ss : List String} (all : ∀ s ∈ ss, IsArgument s) {last : String}
    (h : IsArgument last) (rest blanks : List Char) (blank : ∀ c ∈ blanks, Text.isBlank c = true) :
    ∃ as, Nesting.top.split blanks ((String.join (ss.map (· ++ ", "))).toList ++
        (last.toList ++ ')' :: rest)) = some (as, rest) ∧
      as.map Call.argument = ss ++ [last] := by
  induction ss generalizing blanks with
  | nil =>
    refine ⟨[blanks ++ last.toList], ?_, congrArg (· :: []) (h.argument_eq blank)⟩
    have close : Nesting.top.split (blanks ++ last.toList) (')' :: rest) =
        some ([blanks ++ last.toList], rest) := rfl
    rw [← close, ← Nesting.split_append h.inner]
    rfl
  | cons s ss ih =>
    obtain ⟨first, others⟩ := List.forall_mem_cons.mp all
    -- Behind its comma, the next argument has been read up to the blank in front of it.
    obtain ⟨as, read, arguments⟩ := ih others [' '] (List.forall_mem_singleton.mpr rfl)
    refine ⟨(blanks ++ s.toList) :: as, ?_, ?_⟩
    · have text : (String.join ((s :: ss).map (· ++ ", "))).toList =
          s.toList ++ (',' :: ' ' :: (String.join (ss.map (· ++ ", "))).toList) := by
        rw [List.map_cons, String.join_cons, String.toList_append, String.toList_append,
          List.append_assoc]
        rfl
      have comma (inner : List Char) :
          Nesting.top.split (blanks ++ s.toList) (',' :: ' ' :: inner) =
            (Nesting.top.split [' '] inner).map fun p => ((blanks ++ s.toList) :: p.1, p.2) := rfl
      rw [text, List.append_assoc, Nesting.split_append first.inner, List.cons_append,
        List.cons_append, comma, read]
      rfl
    · rw [List.map_cons, first.argument_eq blank, arguments, List.cons_append]

end Split

/-! ### Literals -/

/-- The value has a literal where `bytes` says whether bytes have one. Lists have none. -/
def Value.hasLiteral (bytes : Bool) : Value → Bool
  | .list (some _) _ => false
  | .scalar .blob (some _) => bytes
  | _ => true

private theorem isArgument_of_chars {s : String} (filled : s ≠ "")
    (chars : ∀ c ∈ s.toList, c ∈ Reading.numberChars) : IsArgument s := by
  have table : ∀ c ∈ Reading.numberChars, Text.isBlank c = false ∧
      (isQuote c = false ∧ c ≠ ',' ∧ c ≠ '(' ∧ c ≠ ')') := Reading.forall_mem_of_all (by decide)
  refine ⟨filled, ?_, Nesting.after_plain (fun c member => (table c (chars c member)).2) 0⟩
  cases text : s.toList with
  | nil => rfl
  | cons c cs => exact (table c (chars c (by rw [text]; exact List.mem_cons_self))).1

private theorem Reading.Numeric.isArgument {s : String} (h : Reading.Numeric s.toList) :
    IsArgument s :=
  isArgument_of_chars (fun none => h.nonempty (congrArg String.toList none)) h.chars

private theorem isArgument_string (s : String) : IsArgument (Literal.string s) := by
  have text := Reading.toList_string s
  refine ⟨fun none => ?_, ?_, ?_⟩
  · rw [none] at text
    cases text
  · rw [text]
    rfl
  · have body : Nesting.after ⟨0, some '\''⟩ (Literal.body s.toList) = some ⟨0, some '\''⟩ :=
      Nesting.after_quoted fun _ => Reading.ne_quote_of_mem_body
    rw [text]
    exact Nesting.after_trans (s := ['\'']) rfl (Nesting.after_trans body rfl)

/-- Bytes stand between quotes in inner parentheses, in front of a comma and another text. -/
private theorem isArgument_blob (bytes : List UInt8) :
    IsArgument (Dialect.postgres.blob bytes) := by
  have text : (Dialect.postgres.blob bytes).toList =
      "decode('".toList ++ ((Text.hexText bytes).toList ++ "', 'hex')".toList) := by
    simp only [Dialect.postgres, String.toList_append, List.append_assoc]
  have digits : Nesting.after ⟨1, some '\''⟩ (Text.hexText bytes).toList = some ⟨1, some '\''⟩ :=
    Nesting.after_quoted (Dialect.quoteless_hexText bytes)
  refine ⟨fun none => ?_, ?_, ?_⟩
  · rw [none] at text
    cases text
  · rw [text]
    rfl
  · have start : Nesting.top.after "decode('".toList = some ⟨1, some '\''⟩ := by decide
    have finish : Nesting.after ⟨1, some '\''⟩ "', 'hex')".toList = some Nesting.top := by decide
    rw [text]
    exact Nesting.after_trans start (Nesting.after_trans digits finish)

/-- The literals of a dialect of its own are arguments, those of bytes if there are any. -/
structure Dialect.Arguments (d : Dialect) (bytes : Bool) : Prop where
  infinity : ∀ negative, IsArgument (d.infinity negative)
  notNumber : IsArgument d.notNumber
  blob : ∀ b, if bytes then IsArgument (d.blob b) else d.blob b = ""

theorem arguments_generic : Dialect.generic.Arguments false where
  infinity negative := by cases negative <;> exact ⟨by decide, by decide, by decide⟩
  notNumber := ⟨by decide, by decide, by decide⟩
  blob _ := rfl

theorem arguments_postgres : Dialect.postgres.Arguments true where
  infinity negative := by cases negative <;> exact ⟨by decide, by decide, by decide⟩
  notNumber := ⟨by decide, by decide, by decide⟩
  blob := isArgument_blob

private theorem isArgument_null : IsArgument "null" := ⟨by decide, by decide, by decide⟩

private theorem isArgument_boolean (b : Bool) : IsArgument (if b then "true" else "false") := by
  cases b <;> exact ⟨by decide, by decide, by decide⟩

section Literals

variable {d : Dialect} {bytes : Bool}

private theorem Dialect.Arguments.float (h : d.Arguments bytes) {p : Precision} (x : Binary p) :
    IsArgument (Literal.float d x) := by
  rw [Literal.float]
  split
  · exact (Reading.numeric_finite _ _ _ _ _).isArgument
  · exact h.infinity _
  · exact h.notNumber

/-- A literal is an argument, or there is none. -/
theorem Dialect.Arguments.literal_cases (h : d.Arguments bytes) (v : Value) :
    (v.hasLiteral bytes = true ∧ IsArgument (d.literal v)) ∨
      (v.hasLiteral bytes = false ∧ d.literal v = "") := by
  cases v with
  | null => exact .inl ⟨rfl, isArgument_null⟩
  | list items element =>
    cases items with
    | none => exact .inl ⟨rfl, isArgument_null⟩
    | some vs => exact .inr ⟨rfl, rfl⟩
  | scalar kind payload =>
    cases payload with
    | none => exact .inl ⟨by cases kind <;> rfl, isArgument_null⟩
    | some x =>
      cases kind with
      | blob =>
        have blob := h.blob x
        cases bytes with
        | true => exact .inl ⟨rfl, blob⟩
        | false => exact .inr ⟨rfl, blob⟩
      | boolean => exact .inl ⟨rfl, isArgument_boolean x⟩
      | int16 | int32 | int64 => exact .inl ⟨rfl, (Reading.numeric_intText _).isArgument⟩
      | float32 | float64 => exact .inl ⟨rfl, h.float x⟩
      | decimal => exact .inl ⟨rfl, (Reading.numeric_decimal x).isArgument⟩
      | varchar | date | time | timestamp | zonedTimestamp | interval | zonedClock | uuid =>
        exact .inl ⟨rfl, isArgument_string _⟩

namespace Statement

/-- What is written for a value in a call: a null in place of what has no literal. -/
theorem argument_eq (h : d.Arguments bytes) (v : Value) :
    argument d v = if v.hasLiteral bytes then d.literal v else "null" := by
  rcases h.literal_cases v with ⟨some_literal, literal⟩ | ⟨none_literal, empty⟩
  · simp only [argument, if_neg literal.filled, some_literal, if_true]
  · simp only [argument, empty, none_literal, if_true, Bool.false_eq_true, if_false]

theorem isArgument_argument (h : d.Arguments bytes) (v : Value) : IsArgument (argument d v) := by
  rw [argument_eq h]
  rcases h.literal_cases v with ⟨some_literal, literal⟩ | ⟨none_literal, -⟩
  · rwa [if_pos some_literal]
  · rw [none_literal]
    exact isArgument_null

end Statement

end Literals

/-! ### Calls -/

namespace Statement

open Clause (columnsText write_columnList within)
open Lexeme (PlainName)

private theorem isArgument_natText (n : Nat) : IsArgument (Text.natText n) := by
  have same : Text.natText n = Text.intText n := by
    have positive : ¬ (n : Int) < 0 := Int.not_lt.mpr (Int.natCast_nonneg n)
    rw [Text.intText, Text.signedNumeral, if_neg positive, Int.natAbs_natCast, Text.natText]
  rw [same]
  exact (Reading.numeric_intText n).isArgument

/-- What stands in front of the arguments of a call. -/
def callText (t : Table) (columns : Option (List String)) : String :=
  "SELECT " ++ columnsText columns ++ " FROM " ++ t.schema ++ "." ++ insertMultipleFunction t

private theorem write_insertMultiple (d : Dialect) (t : Table) (vs : List Value) (count : UInt64)
    (columns : Option (List String)) (c : WriteContext) :
    (insertMultiple d t vs count columns).write c =
      (callText t columns ++ "(" ++ String.join ((vs.map (argument d)).map (· ++ ", ")) ++
        Text.natText count.toNat ++ ")", c) := by
  simp only [insertMultiple, Clause.write_append, Clause.write_text, within,
    write_columnList (c := { c with region := .select }) rfl, callText, String.append_assoc,
    List.map_map]
  rfl

/-- A text in front of the parenthesis of a call. -/
private def Parenless (s : String) : Prop := ∀ c ∈ s.toList, (c == '(') = false

private instance (s : String) : Decidable (Parenless s) := List.decidableBAll _ _

private theorem Parenless.append {s t : String} (first : Parenless s) (last : Parenless t) :
    Parenless (s ++ t) := by
  rw [Parenless, String.toList_append]
  exact List.forall_mem_append.mpr ⟨first, last⟩

private theorem parenless_plain {s : String} (plain : PlainName s) : Parenless s := by
  intro c member
  refine beq_false_of_ne ?_
  rintro rfl
  exact absurd (plain.chars '(' member) (by decide)

private theorem parenless_joined {names : List String} (plain : ∀ s ∈ names, Parenless s) :
    Parenless (Text.joined ", " names) := by
  induction names with
  | nil => exact fun c member => nomatch member
  | cons s names ih =>
    obtain ⟨first, others⟩ := List.forall_mem_cons.mp plain
    cases names with
    | nil => exact first
    | cons t names =>
      have comma : Parenless (if s = "" then "" else ", ") := by
        split <;> decide
      rw [Text.joined_cons_cons]
      exact (first.append comma).append (ih others)

private theorem parenless_callText {t : Table} (schema : PlainName t.schema)
    (name : PlainName t.name) {columns : Option (List String)}
    (plain : ∀ s ∈ columns.getD [], PlainName s) : Parenless (callText t columns) := by
  have selected : Parenless (columnsText columns) := by
    match columns with
    | none | some [] => decide
    | some (s :: names) => exact parenless_joined fun s member => parenless_plain (plain s member)
  have select : Parenless "SELECT " := by decide
  have source : Parenless " FROM " := by decide
  have dot : Parenless "." := by decide
  have function : Parenless "insert_multiple_" := by decide
  exact ((((select.append selected).append source).append (parenless_plain schema)).append
    dot).append (function.append (parenless_plain name))

/-- A call is read as its arguments and the number of rows, and binds nothing. -/
theorem read?_insertMultiple {d : Dialect} {bytes : Bool} (h : d.Arguments bytes) {t : Table}
    (schema : PlainName t.schema) (name : PlainName t.name) (vs : List Value) (count : UInt64)
    {columns : Option (List String)} (plain : ∀ s ∈ columns.getD [], PlainName s)
    (c : WriteContext) :
    ∃ sql, (insertMultiple d t vs count columns).write c = (sql, c) ∧
      Call.read? sql =
        some ⟨callText t columns, vs.map (argument d) ++ [Text.natText count.toNat], ""⟩ := by
  refine ⟨_, write_insertMultiple d t vs count columns c, ?_⟩
  have all : ∀ s ∈ vs.map (argument d), IsArgument s := by
    intro s member
    obtain ⟨v, -, rfl⟩ := List.mem_map.mp member
    exact isArgument_argument h v
  obtain ⟨as, split, arguments⟩ := split_arguments all (isArgument_natText count.toNat) [] []
    fun c member => nomatch member
  have opening := Text.cutFirst_append (parenless_callText schema name plain) (beq_self_eq_true '(')
    ((String.join ((vs.map (argument d)).map (· ++ ", "))).toList ++
      ((Text.natText count.toNat).toList ++ [')']))
  have text : (callText t columns ++ "(" ++ String.join ((vs.map (argument d)).map (· ++ ", ")) ++
      Text.natText count.toNat ++ ")").toList =
        (callText t columns).toList ++ '(' ::
          ((String.join ((vs.map (argument d)).map (· ++ ", "))).toList ++
            ((Text.natText count.toNat).toList ++ [')'])) := by
    simp only [String.toList_append, List.append_assoc]
    rfl
  rw [Call.read?, text, opening]
  simp only [Option.bind_eq_bind, Option.bind_some, split, arguments, String.ofList_toList]
  rfl

end Statement

end TableAccess
