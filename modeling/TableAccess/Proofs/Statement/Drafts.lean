import TableAccess.Statement.Draft

/-!
What is written into a draft.

Every writer of drafts appends what its part writes by itself, in the context of the draft. What is
taken back is what has been written since the mark, and a draft has grown since a mark exactly if
something has been written.
-/

set_option autoImplicit false
set_option relaxedAutoImplicit false

namespace TableAccess

namespace Draft

/-- A draft after a part. -/
def after (x : Draft) (a : Clause) : Draft :=
  let (s, c) := a.writeAfter x.text x.context
  ⟨s, c⟩

/-- A draft after a predicate, and whether that is not left out. -/
def afterTest (x : Draft) (p : Predicate) : Bool × Draft :=
  let (s, live, c) := p.writeAfter x.text x.context
  (live, ⟨s, c⟩)

/-! ### Marks -/

/-- A draft has grown exactly if something has been written. -/
theorem mark_lt_iff (out s : String) (c c' : WriteContext) :
    mark ⟨out, c⟩ < mark ⟨out ++ s, c'⟩ ↔ s ≠ "" := by
  rw [ne_eq, ← String.length_eq_zero_iff]
  show out.length < (out ++ s).length ↔ _
  rw [String.length_append]
  omega

/-- What is taken back is what has been written since the mark. -/
theorem cutTo_mark (out s : String) (c c' : WriteContext) :
    cutTo ⟨out ++ s, c⟩ (mark ⟨out, c'⟩) = ⟨out, c⟩ := by
  have start : (out ++ s).toList.take out.length = out.toList := by
    rw [← String.length_toList, String.toList_append, List.take_left]
  show Draft.mk (String.ofList ((out ++ s).toList.take out.length)) c = ⟨out, c⟩
  rw [start, String.ofList_toList]

/-! ### Parts one after another -/

theorem push_eq (x : Draft) (s : String) : x.push s = x.after (.text s) := rfl

theorem after_after (x : Draft) (a b : Clause) : (x.after a).after b = x.after (a ++ b) := by
  simp only [after, Clause.writeAfter, Clause.write_append, String.append_assoc]

theorem within_after (x : Draft) (region : Region) (a : Clause) :
    (x.within region fun y => y.after a) = x.after (Clause.within region a) := rfl

theorem tryWithin_afterTest (x : Draft) (region : Region) (p : Predicate) :
    (x.tryWithin region fun y => y.afterTest p) =
      x.afterTest (Statement.withinRegion region p) := rfl

private theorem joined_empty_cons (separator : String) (ss : List String) :
    Text.joined separator ("" :: ss) = Text.joined separator ss := by
  cases ss with
  | nil => rfl
  | cons s ss =>
    rw [Text.joined_cons_cons, if_pos rfl, String.append_empty, String.empty_append]

/-- Behind a mark and one text, the parts are joined to that text. -/
private theorem separatedFrom_after (separator out s : String) (c c' : WriteContext)
    (parts : List Clause) :
    separatedFrom separator (mark ⟨out, c'⟩) (parts.map fun a y => y.after a) ⟨out ++ s, c⟩ =
      ⟨out ++ Text.joined separator (s :: (Clause.writeAll parts c).1),
        (Clause.writeAll parts c).2⟩ := by
  -- The text behind the mark is that of the part before, so it is left open.
  induction parts generalizing out s c c' with
  | nil => rfl
  | cons a parts ih =>
    let between := if s = "" then "" else separator
    have spaced : (if mark ⟨out, c'⟩ < mark ⟨out ++ s, c⟩ then
        push ⟨out ++ s, c⟩ separator else ⟨out ++ s, c⟩) = ⟨out ++ s ++ between, c⟩ := by
      by_cases empty : s = ""
      · rw [if_neg fun grown => (mark_lt_iff out s c' c).mp grown empty]
        simp only [between, if_pos empty, String.append_empty]
      · rw [if_pos ((mark_lt_iff out s c' c).mpr empty)]
        simp only [between, if_neg empty, push]
    rw [List.map_cons, separatedFrom, spaced]
    show separatedFrom separator (mark ⟨out ++ s ++ between, c⟩) (parts.map fun a y => y.after a)
      ⟨out ++ s ++ between ++ (a.write c).1, (a.write c).2⟩ = _
    rw [ih, Clause.writeAll, Text.joined_cons_cons, String.append_assoc, String.append_assoc,
      String.append_assoc]

theorem separated_after (x : Draft) (separator : String) (parts : List Clause) :
    x.separated separator (parts.map fun a y => y.after a) =
      x.after (Clause.joined separator parts) := by
  have whole := separatedFrom_after separator x.text "" x.context x.context parts
  rw [String.append_empty, joined_empty_cons] at whole
  exact whole

/-- Parts that are parts after the draft are separated as these are joined. -/
theorem separated_eq {β : Type} {write : β → Draft → Draft} {part : β → Clause}
    (each : ∀ b y, write b y = y.after (part b)) (x : Draft) (separator : String) (bs : List β) :
    x.separated separator (bs.map write) = x.after (Clause.joined separator (bs.map part)) := by
  have same : write = fun b y => y.after (part b) := by
    funext b y
    exact each b y
  rw [← separated_after, List.map_map, same]
  rfl

theorem pushAll_eq (x : Draft) (separator : String) (texts : List String) :
    x.pushAll separator texts = x.after (.text (Text.joined separator texts)) := by
  have shown (s : String) : (Clause.text s).write x.context = (id s, x.context) := rfl
  rw [pushAll, separated_eq (fun s y => push_eq y s)]
  simp only [after, Clause.writeAfter, Clause.write_joined shown, List.map_id, Clause.write_text]

/-! ### Columns and values -/

variable {d : Dialect}

theorem column_eq (x : Draft) (name : String) : x.column name = x.after (.column name) := by
  have shown : x.after (.column name) =
      x.push (if x.context.region.quotesColumns then Literal.identifier name else name) := rfl
  rw [column, identifier_eq, shown]
  split <;> rfl

theorem columnList_eq (x : Draft) (columns : Option (List String)) :
    x.columnList columns = x.after (.columnList columns) := by
  match columns with
  | none | some [] => rfl
  | some (name :: names) => exact separated_eq (fun name y => column_eq y name) x ", " _

theorem table_eq (x : Draft) (t : Table) : x.table t = x.after (Statement.table t) := by
  simp only [table, identifier_eq, push_eq, after_after]
  rfl

theorem parameter_eq (x : Draft) (v : Value) : x.parameter v = x.after (.parameter v) := rfl

theorem value_eq (x : Draft) (v : Value) : x.value d v = x.after (.value d v) := by
  simp only [value, after, Clause.writeAfter, Clause.value]
  split <;> rfl

/-! ### Conditions -/

theorem isNull_eq (x : Draft) (column : String) :
    x.isNull column = x.afterTest (.isNull column) := by
  have words : " IS " ++ "null" = " IS null" := by decide
  simp only [isNull, column_eq, push, after, Clause.writeAfter, afterTest, Predicate.writeAfter,
    Predicate.isNull, String.append_assoc, words, Option.getD_some, Option.isSome_some]

theorem comparison_eq (x : Draft) (column : String) (op : Operator) (v : Value) :
    x.comparison d column op v = x.afterTest (.comparison d column op v) := by
  have apart : (blank x.context).value d v = ⟨((Clause.value d v).write x.context).1,
      ((Clause.value d v).write x.context).2⟩ := by
    rw [value_eq]
    simp only [after, Clause.writeAfter, blank, String.empty_append]
  simp only [comparison, apart, afterTest, Predicate.writeAfter, Predicate.comparison]
  by_cases silent : ((Clause.value d v).write x.context).1 = ""
  · simp only [if_pos silent, Option.getD_none, String.append_empty, Option.isSome_none]
  · simp only [if_neg silent, column_eq, push_eq, after_after]
    simp only [after, Clause.writeAfter, Clause.write_append, Clause.write_text,
      String.append_assoc, Option.getD_some, Option.isSome_some]

theorem equality_eq (x : Draft) (column : String) (v : Value) :
    x.equality d column v = x.afterTest (.equality d column v) := by
  rw [equality, Predicate.equality]
  split
  · exact isNull_eq x column
  · exact comparison_eq x column .equals v

/-- What is left of a predicate that is written apart. -/
private theorem blank_afterTest (p : Predicate) (c : WriteContext) :
    (blank c).afterTest p = ((p.write c).1.isSome, ⟨(p.write c).1.getD "", (p.write c).2⟩) := by
  simp only [afterTest, Predicate.writeAfter, blank, String.empty_append]

private theorem kept_text (s : Option String) (ss : List String) :
    (if s.isSome then s.getD "" :: ss else ss) = s.toList ++ ss := by
  cases s <;> rfl

theorem gather_eq {β : Type} {write : β → Draft → Bool × Draft} {part : β → Predicate}
    (each : ∀ b y, write b y = y.afterTest (part b)) (bs : List β) (c : WriteContext) :
    gather (bs.map write) c = Predicate.writeAll (bs.map part) c := by
  induction bs generalizing c with
  | nil => rfl
  | cons b bs ih =>
    simp only [List.map_cons, gather, Predicate.writeAll, each, blank_afterTest, ih, kept_text]

theorem enclosed_eq (x : Draft) (separator : String) (texts : List String) :
    x.enclosed separator texts = ((Predicate.enclosedAll separator texts).isSome,
      x.push ((Predicate.enclosedAll separator texts).getD "")) := by
  cases texts with
  | nil =>
    show (false, x) = (false, x.push "")
    rw [push, String.append_empty]
  | cons s texts =>
    simp only [enclosed, List.isEmpty_cons, Bool.false_eq_true, if_false, pushAll_eq, push_eq,
      after_after]
    rfl

theorem anyOf_eq (x : Draft) (column : String) (vs : List Value) :
    x.anyOf d column vs = x.afterTest (.anyOf d column vs) := by
  simp only [anyOf, gather_eq fun v y => equality_eq (d := d) y column v, enclosed_eq, afterTest,
    Predicate.writeAfter, Predicate.anyOf, push]

theorem condition_eq (x : Draft) (column : String) (k : Condition) :
    x.condition d column k = x.afterTest (.condition d column k) := by
  match k with
  | .value (.list (some vs) _) | .anyOf vs => exact anyOf_eq x column vs
  | .value .null | .value (.scalar _ _) | .value (.list none _) => exact equality_eq x column _
  | .compare op v => exact comparison_eq x column op v

theorem conjunction_eq (x : Draft) (texts : List String) :
    x.conjunction texts = ((Predicate.conjunction texts).isSome,
      x.push ((Predicate.conjunction texts).getD "")) := by
  match texts with
  | [] | [s] => exact congrArg _ (pushAll_eq x " AND " _)
  | s :: t :: texts =>
    have several : 1 < (s :: t :: texts).length := Nat.succ_lt_succ (Nat.succ_pos _)
    simp only [conjunction, if_pos several, pushAll_eq, push_eq, after_after]
    rfl

theorem columnTexts_eq (columns : List (String × Option Condition)) (c : WriteContext) :
    columnTexts d columns c = Predicate.writeColumns d columns c := by
  induction columns generalizing c with
  | nil => rfl
  | cons e columns ih =>
    obtain ⟨column, k | k⟩ := e
    · exact ih c
    · show (let written := (blank c).condition d column k
        let others := columnTexts d columns written.2.context
        (if written.1 then written.2.text :: others.1 else others.1, others.2)) = _
      simp only [condition_eq, blank_afterTest, ih, Predicate.writeColumns, kept_text]

/-! The parts of a filter are written apart in the same order, so that each binds its values behind
those of the parts before it. -/

mutual
theorem filter_eq (f : Filter) (x : Draft) : filter d f x = x.afterTest (.filter d f) := by
  match f with
  | .mk columns groups =>
    simp only [filter, columnTexts_eq, groupTexts_eq groups, conjunction_eq, afterTest,
      Predicate.writeAfter, Predicate.filter, Predicate.writeFilter, push]

theorem groupTexts_eq (groups : List (Operator × List Filter)) (c : WriteContext) :
    groupTexts d groups c = Predicate.writeGroups d groups c := by
  match groups with
  | [] => rfl
  | (op, members) :: groups =>
    simp only [groupTexts, memberTexts_eq members, enclosed_eq, groupTexts_eq groups, push, blank,
      String.empty_append, Predicate.writeGroups, kept_text]

theorem memberTexts_eq (members : List Filter) (c : WriteContext) :
    memberTexts d members c = Predicate.writeMembers d members c := by
  match members with
  | [] => rfl
  | f :: fs =>
    simp only [memberTexts, filter_eq f, blank_afterTest, memberTexts_eq fs, Predicate.filter,
      Predicate.writeMembers, kept_text]
end

theorem group_eq (x : Draft) (op : Operator) (members : List Filter) :
    x.group d op members = x.afterTest (.group d op members) := by
  simp only [group, memberTexts_eq, enclosed_eq, afterTest, Predicate.writeAfter,
    Predicate.group, push]

/-! ### Clauses -/

theorem afterTest_snd (x : Draft) (p : Predicate) :
    (x.afterTest p).2 = x.after (Statement.optional p) := rfl

/-- A keyword in front of a predicate is taken back when the predicate is left out. -/
theorem afterTest_keyword (x : Draft) (word : String) (p : Predicate) :
    (match (x.push word).afterTest p with
      | (live, y) => (live, if live then y else y.cutTo x.mark)) =
      x.afterTest (Statement.keyword word p) := by
  obtain ⟨out, c⟩ := x
  have pushed : (push ⟨out, c⟩ word).afterTest p =
      ((p.write c).1.isSome, ⟨out ++ word ++ (p.write c).1.getD "", (p.write c).2⟩) := rfl
  have kept : afterTest ⟨out, c⟩ (Statement.keyword word p) =
      (((p.write c).1.map (word ++ ·)).isSome,
        ⟨out ++ ((p.write c).1.map (word ++ ·)).getD "", (p.write c).2⟩) := rfl
  rw [pushed, kept]
  cases (p.write c).1 with
  | none =>
    have taken := cutTo_mark out word (p.write c).2 c
    simp only [Option.isSome_none, Bool.false_eq_true, if_false, Option.map_none,
      Option.getD_none, String.append_empty, taken]
  | some s =>
    simp only [Option.isSome_some, if_true, Option.map_some, Option.getD_some, String.append_assoc]

theorem whereClause_eq (x : Draft) (f : Option Filter) :
    x.whereClause d f = x.afterTest (Statement.whereClause d f) := by
  cases f with
  | none =>
    show (false, x) = (false, x.push "")
    rw [push, String.append_empty]
  | some f =>
    have written : filter d f = fun y => y.afterTest (.filter d f) := by
      funext y
      exact filter_eq f y
    rw [whereClause, written, tryWithin_afterTest]
    exact afterTest_keyword x " WHERE " (Statement.withinRegion .condition (.filter d f))

private theorem entry_eq (e : String × Direction) (y : Draft) :
    ((y.column e.1).push " ").push e.2.token =
      y.after (.column e.1 ++ .text (" " ++ e.2.token)) := by
  simp only [column_eq, push, after, Clause.writeAfter, Clause.write_append, Clause.write_text,
    String.append_assoc]

private theorem orderEntries_eq (x : Draft) (order : Option Ordering) :
    x.orderEntries order = x.afterTest (Statement.provided
      (!(order.getD [("id", .ascending)]).isEmpty)
      (.joined ", " ((order.getD [("id", .ascending)]).map fun (name, direction) =>
        .column name ++ .text (" " ++ direction.token)))) := by
  cases order with
  | none =>
    have words : " " ++ Direction.ascending.token = " ASC" := by decide
    show (true, (x.column "id").push " ASC") =
      (true, x.after (.column "id" ++ .text (" " ++ Direction.ascending.token)))
    rw [words, column_eq, push_eq, after_after]
  | some order =>
    cases order with
    | nil =>
      show (false, x) = (false, x.push "")
      rw [push, String.append_empty]
    | cons e order => exact congrArg (true, ·) (separated_eq entry_eq x ", " (e :: order))

theorem orderList_eq (x : Draft) (order : Option Ordering) :
    x.orderList order = x.afterTest (Statement.orderList order) := by
  simp only [orderList, orderEntries_eq]
  exact tryWithin_afterTest x .orderBy _

theorem orderBy_eq (x : Draft) (order : Option Ordering) :
    x.orderBy order = x.after (Statement.orderBy order) := by
  rw [orderBy, orderList_eq]
  exact congrArg Prod.snd (afterTest_keyword x " ORDER BY " (Statement.orderList order))

private theorem countAfter_eq (x : Draft) (word : String) (n : Option UInt64) :
    x.countAfter word n = x.push (Statement.countAfter word n) := by
  have nothing : x = x.push "" := by rw [push, String.append_empty]
  cases n with
  | none => exact nothing
  | some n =>
    by_cases zero : n = 0
    · rw [countAfter, Statement.countAfter, if_pos zero, if_pos zero]
      exact nothing
    · simp only [countAfter, Statement.countAfter, if_neg zero, push, String.append_assoc]

theorem paging_eq (x : Draft) (offset limit : Option UInt64) :
    x.paging offset limit = x.after (Statement.paging offset limit) := by
  simp only [paging, countAfter_eq, push, String.append_assoc]
  rfl

theorem returning_eq (x : Draft) (columns : Option (List String)) :
    x.returning columns = x.after (Statement.returning columns) := by
  simp only [returning, columnList_eq, push_eq, within_after, after_after]
  rfl

/-! ### Statements -/

theorem select_eq (x : Draft) (t : Table) (o : Clauses) :
    x.select d t o = x.after (Statement.select d t o) := by
  simp only [select, columnList_eq, push_eq, within_after, table_eq, whereClause_eq, afterTest_snd,
    orderBy_eq, paging_eq, after_after]
  rfl

theorem insert_eq (x : Draft) (t : Table) (fields : Fields) (o : Clauses) :
    x.insert t fields o = x.after (Statement.insert t fields o) := by
  have names (y : Draft) := separated_eq (fun (e : String × Value) z => column_eq z e.1) y ", "
    fields.entries
  have values (y : Draft) := separated_eq (fun (e : String × Value) z => parameter_eq z e.2) y ", "
    fields.entries
  simp only [insert, names, values, push_eq, within_after, table_eq, returning_eq, after_after]
  rfl

theorem assignment_eq (x : Draft) (name : String) (v : Value) :
    x.assignment name v = x.after (Statement.assignment name v) := by
  simp only [assignment, column_eq, push_eq, parameter_eq, after_after]
  rfl

theorem update_eq (x : Draft) (t : Table) (fields : Fields) (o : Clauses) :
    x.update d t fields o = x.after (Statement.update d t fields o) := by
  have assignments (y : Draft) := separated_eq
    (fun (e : String × Value) z => assignment_eq z e.1 e.2) y ", " fields.entries
  simp only [update, assignments, push_eq, within_after, table_eq, whereClause_eq, afterTest_snd,
    returning_eq, after_after]
  rfl

/-! ### Search -/

theorem bindWords_eq (words : List String) (x : Draft) :
    bindWords words x = ((Statement.bindWords words x.context).1,
      { x with context := (Statement.bindWords words x.context).2 }) := by
  induction words generalizing x with
  | nil => simp only [bindWords, Statement.bindWords, List.length_nil, List.range'_zero,
      List.map_nil, List.append_nil]
  | cons word words ih =>
    have count : (x.context.bind (.text word)).count = x.context.count + 1 := by
      simp only [WriteContext.count, WriteContext.bind, List.length_append, List.length_singleton]
    simp only [bindWords, ih, Statement.bindWords, count]
    simp only [WriteContext.bind, List.length_cons, List.range'_succ, List.map_cons,
      List.append_assoc, List.singleton_append]

theorem searchMatch_eq (x : Draft) (columns : List String) (places : List Nat) (atStart : Bool) :
    x.searchMatch columns places atStart =
      x.after (Statement.searchMatch columns places atStart) := by
  have matched (p : String × Nat) (y : Draft) :
      (((y.column p.1).push (if atStart then " ILIKE " else " ILIKE '%' || ")).push
        (Clause.placeholder p.2)).push " || '%'" = y.after (.column p.1 ++
          .text ((if atStart then " ILIKE " else " ILIKE '%' || ") ++
            Clause.placeholder p.2 ++ " || '%'")) := by
    simp only [column_eq, push, after, Clause.writeAfter, Clause.write_append, Clause.write_text,
      String.append_assoc]
  simp only [searchMatch, separated_eq matched]
  simp only [push_eq, after_after]
  rfl

theorem searchRank_eq (x : Draft) (columns : List String) (places : List Nat) :
    x.searchRank columns places = x.after (Statement.searchRank columns places) := by
  refine separated_eq (fun p y => ?_) x ", " _
  simp only [column_eq, push, after, Clause.writeAfter, Clause.write_append, Clause.write_text,
    String.append_assoc]

theorem searchDistance_eq (x : Draft) (columns : List String) (places : List Nat)
    (function : String) : x.searchDistance columns places function =
      x.after (Statement.searchDistance columns places function) := by
  refine separated_eq (fun p y => ?_) x ", " _
  simp only [column_eq, push, after, Clause.writeAfter, Clause.write_append, Clause.write_text,
    String.append_assoc]

/-! The keyword of the conditions of a search is followed by the filter, by the matches, or by both
with a conjunction between them, and that of its orders by a ranking and by the order that is asked
for likewise. What the first of the two writes is left open where it is decided on the second. -/

/-- The filter of a search as a predicate, left out when there is none. -/
def keptFilter (d : Dialect) (f : Option Filter) : Predicate :=
  ⟨fun c => match f with
    | some f => (Statement.withinRegion .condition (.filter d f)).write c
    | none => (none, c)⟩

/-- A predicate in front of another one that holds as well, if it is there. -/
def andAfter : Option String → String
  | some s => s ++ " AND "
  | none => ""

private theorem searchFilter_eq (x : Draft) (f : Option Filter) :
    x.searchFilter d f = x.afterTest (keptFilter d f) := by
  cases f with
  | none =>
    show (false, x) = (false, x.push "")
    rw [push, String.append_empty]
  | some f =>
    have written : filter d f = fun y => y.afterTest (.filter d f) := by
      funext y
      exact filter_eq f y
    rw [searchFilter, written, tryWithin_afterTest]
    rfl

theorem searchCondition_eq (x : Draft) (f : Option Filter) (pass : SearchPass)
    (columns : List String) (places : List Nat) :
    x.searchCondition d f pass columns places = x.after (Statement.optional
      (Statement.keyword " WHERE " (Statement.searchCondition d f pass columns places))) := by
  obtain ⟨out, c⟩ := x
  have filtered : (push ⟨out, c⟩ " WHERE ").searchFilter d f =
      (((keptFilter d f).write c).1.isSome, ⟨out ++ " WHERE " ++
        ((keptFilter d f).write c).1.getD "", ((keptFilter d f).write c).2⟩) :=
    searchFilter_eq _ f
  have whole : (Statement.searchCondition d f pass columns places).write c =
      if pass.matches then
        (some (andAfter ((keptFilter d f).write c).1 ++
            ((Clause.within .condition (Statement.searchMatch columns places
              (pass == .leading))).write ((keptFilter d f).write c).2).1),
          ((Clause.within .condition (Statement.searchMatch columns places
            (pass == .leading))).write ((keptFilter d f).write c).2).2)
      else ((keptFilter d f).write c) := rfl
  simp only [searchCondition, filtered, searchMatch_eq, within_after]
  simp only [after, Clause.writeAfter, Statement.optional, Statement.keyword, whole]
  generalize (keptFilter d f).write c = kept
  obtain ⟨kept, c'⟩ := kept
  cases pass.matches with
  | false =>
    cases kept with
    | none =>
      have taken := cutTo_mark out " WHERE " c' c
      simp only [Bool.false_eq_true, if_false, Option.isSome_none, Option.map_none,
        Option.getD_none, String.append_empty, taken]
    | some s =>
      simp only [Bool.false_eq_true, if_false, Option.isSome_some, if_true, Option.map_some,
        Option.getD_some, String.append_assoc]
  | true =>
    cases kept with
    | none =>
      simp only [andAfter, if_true, Option.isSome_none, Bool.false_eq_true, if_false,
        Option.map_some, Option.getD_none, Option.getD_some, String.append_empty,
        String.empty_append, String.append_assoc]
    | some s =>
      simp only [andAfter, if_true, Option.isSome_some, push, Option.map_some, Option.getD_some,
        String.append_assoc]

/-- The ranking of a pass as a predicate, left out when it has none. -/
def keptRanking (columns : List String) (places : List Nat) (pass : SearchPass) :
    Predicate :=
  ⟨fun c => match pass with
    | .ranked =>
      (Statement.provided true
        (.within .searchRank (Statement.searchRank columns places))).write c
    | .fuzzy function =>
      (Statement.provided true
        (.within .searchRank (Statement.searchDistance columns places function))).write c
    | _ => (none, c)⟩

/-- Two orders one after the other, each of which may be left out. -/
def inRow : Option String → Option String → Option String
  | some r, some s => some (r ++ ", " ++ s)
  | some r, none => some r
  | none, s => s

private theorem searchRanking_eq (x : Draft) (columns : List String) (places : List Nat)
    (pass : SearchPass) :
    x.searchRanking columns places pass = x.afterTest (keptRanking columns places pass) := by
  cases pass with
  | listing | leading | containing =>
    show (false, x) = (false, x.push "")
    rw [push, String.append_empty]
  | ranked =>
    simp only [searchRanking, searchRank_eq, within_after]
    rfl
  | fuzzy function =>
    simp only [searchRanking, searchDistance_eq, within_after]
    rfl

theorem searchOrder_eq (x : Draft) (order : Option Ordering) (pass : SearchPass)
    (columns : List String) (places : List Nat) :
    x.searchOrder order pass columns places = x.after (Statement.optional
      (Statement.keyword " ORDER BY " (Statement.searchOrder order pass columns places))) := by
  obtain ⟨out, c⟩ := x
  have ranked : (push ⟨out, c⟩ " ORDER BY ").searchRanking columns places pass =
      (((keptRanking columns places pass).write c).1.isSome, ⟨out ++ " ORDER BY " ++
        ((keptRanking columns places pass).write c).1.getD "",
        ((keptRanking columns places pass).write c).2⟩) := searchRanking_eq _ columns places pass
  have whole : (Statement.searchOrder order pass columns places).write c =
      (inRow ((keptRanking columns places pass).write c).1
          ((Statement.orderList order).write ((keptRanking columns places pass).write c).2).1,
        ((Statement.orderList order).write ((keptRanking columns places pass).write c).2).2) := rfl
  simp only [searchOrder, ranked, orderList_eq, afterTest, Predicate.writeAfter]
  simp only [after, Clause.writeAfter, Statement.optional, Statement.keyword, whole]
  generalize (keptRanking columns places pass).write c = ranking
  obtain ⟨ranking, c'⟩ := ranking
  cases ranking with
  | none =>
    simp only [Option.isSome_none, Bool.false_eq_true, if_false, Option.getD_none,
      String.append_empty, Bool.false_or]
    cases ((Statement.orderList order).write c').1 with
    | none =>
      have unmoved := cutTo_mark (out ++ " ORDER BY ") ""
        ((Statement.orderList order).write c').2 c'
      rw [String.append_empty] at unmoved
      simp only [inRow, Option.isSome_none, Bool.false_eq_true, if_false, Option.getD_none,
        Option.map_none, String.append_empty, unmoved, cutTo_mark]
    | some s =>
      simp only [inRow, Option.isSome_some, if_true, Option.map_some, Option.getD_some,
        String.append_assoc]
  | some r =>
    simp only [Option.isSome_some, if_true, Option.getD_some, push, Bool.true_or]
    cases ((Statement.orderList order).write c').1 with
    | none =>
      simp only [inRow, Option.isSome_none, Bool.false_eq_true, if_false, Option.getD_none,
        String.append_empty, cutTo_mark, Option.map_some, Option.getD_some]
      rw [String.append_assoc]
    | some s =>
      simp only [inRow, Option.isSome_some, if_true, Option.map_some, Option.getD_some,
        String.append_assoc]

theorem search_eq (x : Draft) (t : Table) (words columns : List String) (o : Clauses)
    (pass : SearchPass) : x.search d t words columns o pass =
      x.after (Statement.search d t words columns o pass) := by
  have start : (((x.push "SELECT * FROM ").push t.schema).push ".").push t.name =
      x.push ("SELECT * FROM " ++ t.fullName) := by
    simp only [push, Table.fullName, String.append_assoc]
  rw [search, start]
  by_cases listing : (pass == .listing) = true
  · simp only [listing, if_true, searchCondition_eq, searchOrder_eq, paging_eq, push_eq,
      after_after]
    simp only [after, Clause.writeAfter, Statement.search, listing, if_true]
  · simp only [listing, Bool.false_eq_true, if_false, bindWords_eq, searchCondition_eq,
      searchOrder_eq, paging_eq]
    simp only [after, Clause.writeAfter, Statement.search, listing, Bool.false_eq_true, if_false,
      push, Clause.write_append, Clause.write_text, String.append_assoc]

/-! ### Insertion of many rows -/

private theorem argument_eq (x : Draft) (v : Value) :
    x.argument d v = x.push (Statement.argument d v ++ ", ") := by
  obtain ⟨out, c⟩ := x
  have grown := mark_lt_iff out (d.literal v) c c
  show (if mark ⟨out ++ d.literal v, c⟩ = mark ⟨out, c⟩ then
    push ⟨out ++ d.literal v, c⟩ "null" else ⟨out ++ d.literal v, c⟩).push ", " = _
  by_cases silent : d.literal v = ""
  · rw [Statement.argument, if_pos silent, silent, String.append_empty, if_pos rfl]
    simp only [push, String.append_assoc]
  · have longer : mark ⟨out ++ d.literal v, c⟩ ≠ mark ⟨out, c⟩ := by
      have further := grown.mpr silent
      omega
    rw [Statement.argument, if_neg silent, if_neg longer]
    simp only [push, String.append_assoc]

private theorem arguments_eq (vs : List Value) (x : Draft) :
    vs.foldl (fun x v => x.argument d v) x =
      x.push (String.join (vs.map fun v => Statement.argument d v ++ ", ")) := by
  induction vs generalizing x with
  | nil =>
    show x = x.push ""
    rw [push, String.append_empty]
  | cons v vs ih =>
    rw [List.foldl_cons, ih, argument_eq, List.map_cons, String.join_cons]
    simp only [push, String.append_assoc]

theorem insertMultiple_eq (x : Draft) (t : Table) (arguments : List Value) (count : UInt64)
    (select : Option (List String)) : x.insertMultiple d t arguments count select =
      x.after (Statement.insertMultiple d t arguments count select) := by
  simp only [insertMultiple, columnList_eq, push_eq, within_after, arguments_eq]
  simp only [after, Clause.writeAfter, Statement.insertMultiple, Clause.write_append,
    Clause.write_text, within, enter, String.append_assoc]

end Draft

end TableAccess
