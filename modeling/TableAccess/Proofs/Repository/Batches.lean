import TableAccess.Proofs.Predicate.Bound
import TableAccess.Proofs.Repository.Asking
import TableAccess.Proofs.Statement.Arguments

/-!
Insertions of many rows.

The values of a row go in the sequence of the function, each in the position of its column, and the
number of rows behind them. The identifiers are what the first row of the answer has in the column
that is named after the function, or else in its first one.
-/

set_option autoImplicit false
set_option relaxedAutoImplicit false

namespace TableAccess

open Lexeme (PlainName)

/-! ### Identifiers -/

/-- The values that are read as the identifiers of a row: the elements of a list, or one value. -/
def Row.identifiers (function : String) (r : Row) : List Value :=
  match (r.get? function).or (r.cells.head?.map Prod.snd) with
  | some (.list (some vs) _) => vs
  | some v => [v]
  | none => []

/-- A value that can not be passed over or read as an identifier. -/
def Value.Unidentified (v : Value) : Prop := v.isNull = false ∧ v.integer? = none

/-- What comes of reading values as identifiers: the integers among them, or a failure for one that
is none. -/
inductive Identifies (vs : List Value) : Except Failure (List Int64) → Prop
  | read : (∀ v ∈ vs, ¬ v.Unidentified) → Identifies vs (.ok (vs.filterMap Value.integer?))
  | failed {v : Value} (f : Failure) : v ∈ vs → v.Unidentified → Identifies vs (.error f)

namespace Identifies

variable {vs : List Value} {v : Value} {n : Int64} {result : Except Failure (List Int64)}

theorem failed_iff (h : Identifies vs result) :
    (∃ f, result = .error f) ↔ ∃ v ∈ vs, v.Unidentified := by
  cases h with
  | read all =>
    constructor
    · rintro ⟨f, impossible⟩
      cases impossible
    · rintro ⟨v, member, other⟩
      exact absurd other (all v member)
  | failed f member other => exact ⟨fun _ => ⟨_, member, other⟩, fun _ => ⟨f, rfl⟩⟩

theorem eq_of_ok (h : Identifies vs result) {ids : List Int64} (read : result = .ok ids) :
    ids = vs.filterMap Value.integer? := by
  cases h with
  | read all =>
    cases read
    rfl
  | failed f member other => cases read

private theorem nothing : Identifies [] (.ok []) := .read fun _ member => nomatch member

private theorem integer?_null (null : v.isNull = true) : v.integer? = none := by
  unfold Value.integer?
  split
  · cases null
  · cases null
  · cases null
  · rfl

/-- A null is passed over. -/
private theorem cons_null (h : Identifies vs result) (null : v.isNull = true) :
    Identifies (v :: vs) result := by
  have identified : ¬ v.Unidentified := fun h => Bool.false_ne_true (h.1.symm.trans null)
  cases h with
  | read all =>
    rw [← List.filterMap_cons_none (integer?_null null)]
    exact .read (List.forall_mem_cons.mpr ⟨identified, all⟩)
  | failed f member other => exact .failed f (List.mem_cons_of_mem v member) other

/-- An integer goes in front of the others. -/
private theorem cons_integer (h : Identifies vs result) (integer : v.integer? = some n) :
    Identifies (v :: vs) (result.map (n :: ·)) := by
  have identified : ¬ v.Unidentified := by
    rintro ⟨-, none⟩
    rw [integer] at none
    cases none
  cases h with
  | read all =>
    have front : (Except.ok (vs.filterMap Value.integer?) : Except Failure _).map (n :: ·) =
        .ok ((v :: vs).filterMap Value.integer?) := by
      rw [List.filterMap_cons_some integer]
      rfl
    rw [front]
    exact .read (List.forall_mem_cons.mpr ⟨identified, all⟩)
  | failed f member other => exact .failed f (List.mem_cons_of_mem v member) other

/-- A failure may be put in another form. -/
theorem mapError (h : Identifies vs result) (g : Failure → Failure) :
    Identifies vs (result.mapError g) := by
  cases h with
  | read all => exact .read all
  | failed f member other => exact .failed (g f) member other

end Identifies

theorem identifies_idsOfList (vs : List Value) : Identifies vs (idsOfList vs) := by
  induction vs with
  | nil => exact .nothing
  | cons v vs ih =>
    rw [idsOfList]
    cases null : v.isNull with
    | true => exact ih.cons_null null
    | false =>
      rw [if_neg Bool.false_ne_true]
      cases integer : v.integer? with
      | none => exact .failed _ List.mem_cons_self ⟨null, integer⟩
      | some n =>
        have front := ih.cons_integer integer
        cases others : idsOfList vs with
        | error f => rwa [others] at front
        | ok ns => rwa [others] at front

/-- One value is read like a list of it. -/
private theorem identifies_single {v : Value} (single : ∀ vs e, v ≠ .list (some vs) e) :
    Identifies [v] (idsOfValue v) := by
  unfold idsOfValue
  split
  · next vs e => exact absurd rfl (single vs e)
  · cases null : v.isNull with
    | true => exact Identifies.nothing.cons_null null
    | false =>
      rw [if_neg Bool.false_ne_true]
      cases integer : v.integer? with
      | none => exact .failed _ List.mem_cons_self ⟨null, integer⟩
      | some n => exact Identifies.nothing.cons_integer integer

/-- The identifiers of a row are read from the values that they are among. -/
theorem identifies_idsOfRow (function : String) (r : Row) :
    Identifies (r.identifiers function) (idsOfRow function r) := by
  rw [Row.identifiers, idsOfRow]
  cases (r.get? function).or (r.cells.head?.map Prod.snd) with
  | none => exact .nothing
  | some v =>
    cases v with
    | null => exact identifies_single fun _ _ => nofun
    | scalar kind payload => exact identifies_single fun _ _ => nofun
    | list items element =>
      cases items with
      | none => exact identifies_single fun _ _ => nofun
      | some vs => exact identifies_idsOfList vs

/-! ### Arguments -/

/-- What a call has in the place of a column: the literal of the first field of that name, and a
null where there is no such field, or its value is null or has no literal. -/
def Fields.argument (d : Dialect) (bytes : Bool) (fields : Fields) (column : String) : String :=
  match fields.entries.find? fun e => e.1 == column with
  | some (_, v) => if !v.isNull && v.hasLiteral bytes then d.literal v else "null"
  | none => "null"

private theorem argument_getD {d : Dialect} {bytes : Bool} (h : d.Arguments bytes)
    (fields : Fields) (column : String) :
    Statement.argument d ((fields.get? column).getD .null) =
      fields.argument d bytes column := by
  rw [Statement.argument_eq h, Fields.get?, Fields.argument]
  cases fields.entries.find? fun e => e.1 == column with
  | none => rfl
  | some e =>
    obtain ⟨name, v⟩ := e
    simp only [Option.map_some, Option.getD_some]
    cases null : v.isNull with
    | true => simp [literal_null null]
    | false => rfl

private theorem arguments_writer {d : Dialect} {bytes : Bool}
    (writer : d = if bytes then .postgres else .generic) : d.Arguments bytes := by
  subst writer
  cases bytes with
  | true => exact arguments_postgres
  | false => exact arguments_generic

/-- An insertion of many rows of a table whose schema and name need no quotes, for a server that has
literals for bytes or for one that has none. It asks for one call, which binds nothing. Split at its
own commas, outside of quotes and inner parentheses, the call has one argument for each column of
the sequence, in its position, and the number of rows. Without a row there are no identifiers, and a
failure in front of the first row is that of the insertion. The identifiers in the first row are all
the integers among the values of its column, in order, unless one of them is neither an integer nor
null, which is a failure. -/
theorem batch_arguments_stay_in_place {S α : Type} (bytes : Bool) (x : Executor S)
    (writer : x.dialect = if bytes then .postgres else .generic) (r : BatchRepository α)
    (schema : PlainName r.table.schema) (name : PlainName r.table.name) (fields : Fields)
    (count : UInt64) (columns : Option (List String))
    (plain : ∀ s ∈ columns.getD [], PlainName s) :
    let function := Statement.insertMultipleFunction r.table
    ∃ sql,
      Call.read? sql = some
        { function := Statement.callText r.table columns
          arguments := r.sequence.map (fields.argument x.dialect bytes) ++
            [Text.natText count.toNat]
          rest := "" } ∧
      ∀ s, let answer := (x.run ⟨sql, []⟩ s.1).1
        let ended := r.createMany x.answered (some fields) count columns s
        ended.2.2 = s.2 ++ [⟨⟨sql, []⟩, answer⟩] ∧
        match answer.rows with
        | [] => ended.1 = .ok []
        | .error f :: _ => ended.1 = .error (f.within (.query sql))
        | .ok row :: _ =>
          ((∃ f, ended.1 = .error f) ↔ ∃ v ∈ row.identifiers function, v.Unidentified) ∧
          ∀ ids, ended.1 = .ok ids → ids = (row.identifiers function).filterMap Value.integer? := by
  intro function
  have h := arguments_writer writer
  obtain ⟨sql, written, call⟩ := Statement.read?_insertMultiple h schema name
    (r.arguments fields) count plain .inline
  have query : (Statement.insertMultiple x.dialect r.table (r.arguments fields) count
      columns).query = ⟨sql, []⟩ := by
    rw [Clause.query, written]
    rfl
  refine ⟨sql, ?_, fun s => ?_⟩
  · have arguments : (r.arguments fields).map (Statement.argument x.dialect) =
        r.sequence.map (fields.argument x.dialect bytes) := by
      rw [BatchRepository.arguments, List.map_map]
      exact List.map_congr_left fun column _ => argument_getD h fields column
    rw [call, arguments]
  · intro answer ended
    obtain ⟨result, asked⟩ := asks_createMany (x := x) r fields count columns s
    rw [query] at result asked
    refine ⟨asked, ?_⟩
    have result : ended.1 =
        (Answer.ids function answer).mapError (Failure.within (.query sql)) := result
    rw [result, Answer.ids]
    cases answer.rows with
    | nil => rfl
    | cons item items =>
      cases item with
      | error f => rfl
      | ok row =>
        have identifies := (identifies_idsOfRow function row).mapError
          (Failure.within (.query sql))
        exact ⟨identifies.failed_iff, fun ids => identifies.eq_of_ok⟩

/-- A server that answers every statement with one row. -/
def answering (d : Dialect) (row : Row) : Executor Unit where
  dialect := d
  run _ s := ([.ok (.row row)], s)
  report _ _ s := s

/-- A sequence that takes one column twice and one that no row has. -/
def cityBatch : BatchRepository Row :=
  ⟨⟨⟨"public", "city"⟩⟩, ["name", "tag", "none", "list", "tag"]⟩

/-- A row with commas and parentheses in its literals, and two fields of one name. -/
def cityFields : Fields :=
  ⟨[("tag", .scalar .blob (some [0xff, 0x2c])), ("name", .text "x, (y'"), ("tag", .integer 1),
    ("list", .list (some [.integer 1]) .null)]⟩

/-- The identifiers of new rows, a null among them. -/
def cityIdentifiers : Row :=
  ⟨[("n", .null), ("insert_multiple_city", .list (some [.integer 3, .null, .integer 4]) .null)]⟩

theorem arguments_with_commas_stay_in_place :
    PlainName "public" ∧ PlainName "city" ∧
    ∃ sql,
      Call.read? sql = some ⟨"SELECT * FROM public.insert_multiple_city",
        ["'x,%20(y%27'", "decode('ff2c', 'hex')", "null", "null", "decode('ff2c', 'hex')", "2"],
        ""⟩ ∧
      (cityBatch.createMany (answering .postgres cityIdentifiers).answered (some cityFields) 2 none
        ((), [])).1 = .ok [3, 4] := by
  have schema : PlainName "public" := by decide
  have name : PlainName "city" := by decide
  obtain ⟨sql, call, asked⟩ := batch_arguments_stay_in_place true
    (answering .postgres cityIdentifiers) rfl cityBatch schema name cityFields 2 none
    (fun _ member => nomatch member)
  refine ⟨schema, name, sql, call.trans (by decide +kernel), ?_⟩
  have identified : ∀ v ∈ [Value.integer 3, .null, .integer 4], ¬ v.Unidentified := by
    rintro v member ⟨some_value, no_integer⟩
    simp only [List.mem_cons, List.not_mem_nil, or_false] at member
    rcases member with rfl | rfl | rfl
    · cases no_integer
    · cases some_value
    · cases no_integer
  obtain ⟨-, failed_iff, read⟩ := asked ((), [])
  cases ended : (cityBatch.createMany (answering .postgres cityIdentifiers).answered
      (some cityFields) 2 none ((), [])).1 with
  | error f =>
    obtain ⟨v, member, other⟩ := failed_iff.mp ⟨f, ended⟩
    exact absurd other (identified v member)
  | ok ids =>
    rw [read ids ended]
    rfl

end TableAccess
