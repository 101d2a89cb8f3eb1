import Mathlib.Tactic.Choose
import TableAccess.Proofs.Statement.Drafts

/-!
What a statement writer touches.

A writer appends a text to a draft and parameters to its context, and leaves the rest of both as it
was. What it appends depends on the region, on whether values are bound, and on the number of the
parameters before. It does not depend on the text in front of it, nor on the parameters themselves.
So parts can be put together without looking at what stands before them.
-/

set_option autoImplicit false
set_option relaxedAutoImplicit false

namespace TableAccess

/-! ### Parts that only add -/

/-- The context with parameters behind those that it has. -/
def WriteContext.extended (c : WriteContext) (vs : List Value) : WriteContext :=
  { c with parameters := c.parameters ++ vs }

/-- What is written binds parameters behind those before it and keeps the rest of the context. The
region, the mode and the number of the parameters before it decide what it is. -/
def Adds {α : Type} (write : WriteContext → α × WriteContext) : Prop :=
  ∃ appended : Region → Bool → Nat → α × List Value, ∀ c,
    write c = ((appended c.region c.parameterized c.count).1,
      c.extended (appended c.region c.parameterized c.count).2)

namespace Adds

variable {α β γ : Type} {a : WriteContext → α × WriteContext} {b : WriteContext → β × WriteContext}

/-- What binds nothing and looks at the region only. -/
theorem regional (shown : Region → α) : Adds fun c => (shown c.region, c) := by
  refine ⟨fun region _ _ => (shown region, []), fun c => ?_⟩
  rw [WriteContext.extended, List.append_nil]

theorem const (s : α) : Adds fun c => (s, c) := regional fun _ => s

/-- A part that another part goes on from. Its parameters count for that part as well. -/
theorem bind {b : α → WriteContext → β × WriteContext} (h : Adds a) (k : ∀ s, Adds (b s)) :
    Adds fun c => b (a c).1 (a c).2 := by
  obtain ⟨first, h⟩ := h
  choose next k using k
  refine ⟨fun region mode n =>
    let (s, vs) := first region mode n
    let (t, ws) := next s region mode (n + vs.length)
    (t, vs ++ ws), fun c => ?_⟩
  have count (vs : List Value) : (c.extended vs).count = c.count + vs.length :=
    List.length_append
  simp only [h c, k, count]
  simp only [WriteContext.extended, List.append_assoc]

theorem map (h : Adds a) (f : α → β) : Adds fun c => (f (a c).1, (a c).2) :=
  h.bind fun s => .const (f s)

theorem both (h : Adds a) (k : Adds b) (f : α → β → γ) :
    Adds fun c => (f (a c).1 (b (a c).2).1, (b (a c).2).2) :=
  h.bind fun s => k.map (f s)

/-- A region that is left again does not show behind the part. -/
theorem within (h : Adds a) (region : Region) :
    Adds fun c => ((a { c with region := region }).1,
      { (a { c with region := region }).2 with region := c.region }) := by
  obtain ⟨appended, h⟩ := h
  refine ⟨fun _ mode n => appended region mode n, fun c => ?_⟩
  have inside := h { c with region := region }
  simp only [inside]
  rfl

end Adds

/-! ### Parts -/

namespace Clause

variable {a b : Clause}

theorem adds_text (s : String) : Adds (text s).write := .const s

theorem adds_append (first : Adds a.write) (last : Adds b.write) :
    Adds (a ++ b).write :=
  first.both last (· ++ ·)

theorem adds_within (region : Region) (h : Adds a.write) :
    Adds (Clause.within region a).write :=
  h.within region

private theorem adds_writeAll {parts : List Clause} (h : ∀ a ∈ parts, Adds a.write) :
    Adds (writeAll parts) := by
  induction parts with
  | nil => exact .const []
  | cons a parts ih =>
    obtain ⟨first, others⟩ := List.forall_mem_cons.mp h
    exact first.both (ih others) List.cons

theorem adds_joined {β : Type} (separator : String) {part : β → Clause}
    (each : ∀ s, Adds (part s).write) (ss : List β) :
    Adds (joined separator (ss.map part)).write := by
  refine (adds_writeAll ?_).map (Text.joined separator)
  intro a member
  obtain ⟨s, -, rfl⟩ := List.mem_map.mp member
  exact each s

theorem adds_column (name : String) : Adds (column name).write :=
  .regional fun region => if region.quotesColumns then Literal.identifier name else name

theorem adds_columnList (columns : Option (List String)) :
    Adds (columnList columns).write := by
  match columns with
  | none | some [] => exact adds_text "*"
  | some (name :: names) => exact adds_joined ", " adds_column _

/-- The place of a parameter is the number of the parameters with it. -/
theorem adds_parameter (v : Value) : Adds (parameter v).write := by
  refine ⟨fun _ _ n => (placeholder (n + 1), [parameterOf v]), fun c => ?_⟩
  have count : (c.bind (parameterOf v)).count = c.count + 1 := List.length_append
  simp only [parameter, count]
  rfl

theorem adds_value (d : Dialect) (v : Value) : Adds (value d v).write := by
  obtain ⟨place, bound⟩ := adds_parameter v
  refine ⟨fun region mode n =>
    if mode && !v.isNull then place region mode n else (d.literal v, []), fun c => ?_⟩
  simp only [value, bound]
  split
  · rfl
  · rw [WriteContext.extended, List.append_nil]

end Clause

/-! ### Predicates -/

namespace Predicate

variable (d : Dialect)

private theorem adds_isNull (column : String) : Adds (isNull column).write :=
  (Clause.adds_column column).map fun name => some (name ++ " IS null")

private theorem adds_comparison (column : String) (op : Operator) (v : Value) :
    Adds (comparison d column op v).write := by
  have compared (literal : String) : Adds fun c =>
      if literal = "" then (none, c)
      else (some (((Clause.column column).write c).1 ++ " " ++ op.token ++ " " ++ literal), c) := by
    by_cases silent : literal = ""
    · simp only [if_pos silent]
      exact .const none
    · simp only [if_neg silent]
      exact (Clause.adds_column column).map fun name =>
        some (name ++ " " ++ op.token ++ " " ++ literal)
  exact (Clause.adds_value d v).bind compared

private theorem adds_equality (column : String) (v : Value) :
    Adds (equality d column v).write := by
  unfold equality
  split
  · exact adds_isNull column
  · exact adds_comparison d column .equals v

private theorem adds_anyOf (column : String) (vs : List Value) :
    Adds (anyOf d column vs).write := by
  have all : Adds (writeAll (vs.map (equality d column))) := by
    induction vs with
    | nil => exact .const []
    | cons v vs ih => exact (adds_equality d column v).both ih fun s ss => s.toList ++ ss
  exact all.map (enclosedAll " OR ")

private theorem adds_condition (column : String) (k : Condition) :
    Adds (condition d column k).write := by
  unfold condition
  split
  · exact adds_anyOf d column _
  · exact adds_anyOf d column _
  · exact adds_equality d column _
  · exact adds_comparison d column _ _

private theorem adds_columns (columns : List (String × Option Condition)) :
    Adds (writeColumns d columns) := by
  induction columns with
  | nil => exact .const []
  | cons p columns ih =>
    obtain ⟨column, k | k⟩ := p
    · exact ih
    · exact (adds_condition d column k).both ih fun s ss => s.toList ++ ss

mutual
theorem adds_filter (f : Filter) : Adds (writeFilter d f) := by
  match f with
  | .mk columns groups =>
    exact (adds_columns d columns).both (adds_groups groups) fun ss ts => conjunction (ss ++ ts)

theorem adds_groups (groups : List (Operator × List Filter)) :
    Adds (writeGroups d groups) := by
  match groups with
  | [] => exact .const []
  | (op, members) :: groups =>
    exact (adds_members members).both (adds_groups groups) fun ms ss =>
      (enclosedAll (" " ++ op.token ++ " ") ms).toList ++ ss

theorem adds_members (members : List Filter) : Adds (writeMembers d members) := by
  match members with
  | [] => exact .const []
  | f :: fs => exact (adds_filter f).both (adds_members fs) fun s ss => s.toList ++ ss
end

end Predicate

/-! ### Clauses and statements -/

namespace Statement

open Clause (adds_text adds_append adds_within adds_joined adds_column adds_columnList
  adds_parameter)

variable {p : Predicate}

theorem adds_keyword (word : String) (h : Adds p.write) : Adds (keyword word p).write :=
  h.map (Option.map (word ++ ·))

theorem adds_optional (h : Adds p.write) : Adds (optional p).write := h.map (·.getD "")

theorem adds_withinRegion (region : Region) (h : Adds p.write) :
    Adds (withinRegion region p).write :=
  h.within region

theorem adds_provided (wanted : Bool) {a : Clause} (h : Adds a.write) :
    Adds (provided wanted a).write :=
  h.map fun s => if wanted then some s else none

variable (d : Dialect) (t : Table) (fields : Fields) (o : Clauses)

private theorem adds_table : Adds (table t).write := adds_text _

theorem adds_whereClause (filter : Option Filter) : Adds (whereClause d filter).write := by
  cases filter with
  | none => exact .const none
  | some f =>
    exact adds_keyword " WHERE " (adds_withinRegion .condition (Predicate.adds_filter d f))

theorem adds_orderList (order : Option Ordering) : Adds (orderList order).write :=
  adds_withinRegion .orderBy (adds_provided _ (adds_joined ", " (fun _ =>
    adds_append (adds_column _) (adds_text _)) _))

theorem adds_orderBy (order : Option Ordering) : Adds (orderBy order).write :=
  adds_optional (adds_keyword " ORDER BY " (adds_orderList order))

private theorem adds_returning (columns : Option (List String)) :
    Adds (returning columns).write :=
  adds_append (adds_text _) (adds_within .returning (adds_columnList columns))

theorem adds_select : Adds (select d t o).write := by
  have columns := adds_within .select (adds_columnList o.select)
  have start := adds_append (adds_append (adds_text "SELECT ") columns) (adds_text " FROM ")
  have conditions := adds_optional (adds_whereClause d o.filter)
  exact adds_append (adds_append (adds_append (adds_append start (adds_table t))
    conditions) (adds_orderBy o.order)) (adds_text _)

theorem adds_insert : Adds (insert t fields o).write := by
  have columns := adds_within .insertColumns
    (adds_joined ", " (fun e : String × Value => adds_column e.1) fields.entries)
  have values := adds_within .insertValues
    (adds_joined ", " (fun e : String × Value => adds_parameter e.2) fields.entries)
  have start := adds_append (adds_append (adds_text "INSERT INTO ") (adds_table t))
    (adds_text " (")
  exact adds_append (adds_append (adds_append (adds_append (adds_append start columns)
    (adds_text ") VALUES (")) values) (adds_text ")")) (adds_returning o.returning)

theorem adds_update : Adds (update d t fields o).write := by
  have assignments := adds_within .updateSet (adds_joined ", " (fun e : String × Value =>
    adds_append (adds_append (adds_column e.1) (adds_text "=")) (adds_parameter e.2))
    fields.entries)
  have start := adds_append (adds_append (adds_text "UPDATE ") (adds_table t))
    (adds_text " SET ")
  have conditions := adds_optional (adds_whereClause d o.filter)
  exact adds_append (adds_append (adds_append start assignments) conditions)
    (adds_returning o.returning)

/-! ### Search -/

variable (words columns : List String) (places : List Nat) (pass : SearchPass)

private theorem adds_places :
    Adds fun c => if pass == .listing then ([], c) else bindWords words c := by
  by_cases listing : (pass == .listing) = true
  · simp only [if_pos listing]
    exact .const []
  · simp only [if_neg listing]
    exact ⟨fun _ _ n => (List.range' (n + 1) words.length, words.map .text), fun _ => rfl⟩

private theorem adds_searchMatch (atStart : Bool) :
    Adds (searchMatch columns places atStart).write :=
  adds_append (adds_append (adds_text "(") (adds_joined " OR " (fun _ =>
    adds_append (adds_column _) (adds_text _)) _)) (adds_text ")")

private theorem adds_searchRank : Adds (searchRank columns places).write :=
  adds_joined ", " (fun _ => adds_append (adds_column _) (adds_text _)) _

private theorem adds_searchDistance (function : String) :
    Adds (searchDistance columns places function).write :=
  adds_joined ", " (fun _ => adds_append (adds_append (adds_text _) (adds_column _))
    (adds_text _)) _

private theorem adds_searchCondition (filter : Option Filter) :
    Adds (searchCondition d filter pass columns places).write := by
  have kept : Adds (Draft.keptFilter d filter).write := by
    cases filter with
    | none => exact .const none
    | some f => exact adds_withinRegion .condition (Predicate.adds_filter d f)
  have found := adds_within .condition (adds_searchMatch columns places (pass == .leading))
  cases matched : pass.matches with
  | false =>
    simp only [searchCondition, matched, Bool.false_eq_true, if_false]
    exact kept
  | true =>
    simp only [searchCondition, matched, if_true]
    exact kept.both found fun s t => some (Draft.andAfter s ++ t)

private theorem adds_searchOrder (order : Option Ordering) :
    Adds (searchOrder order pass columns places).write := by
  have ranking : Adds (Draft.keptRanking columns places pass).write := by
    cases pass with
    | listing | leading | containing => exact .const none
    | ranked =>
      exact adds_provided true (adds_within .searchRank (adds_searchRank columns places))
    | fuzzy function =>
      exact adds_provided true
        (adds_within .searchRank (adds_searchDistance columns places function))
  exact ranking.both (adds_orderList order) Draft.inRow

theorem adds_search : Adds (search d t words columns o pass).write := by
  have parts (places : List Nat) := adds_append (adds_append (adds_append
    (adds_text ("SELECT * FROM " ++ t.fullName))
    (adds_optional (adds_keyword " WHERE "
      (adds_searchCondition d columns places pass o.filter))))
    (adds_optional (adds_keyword " ORDER BY "
      (adds_searchOrder columns places pass o.order))))
    (adds_text (countAfter " OFFSET " o.offset ++ countAfter " LIMIT " o.limit))
  exact (adds_places words pass).bind parts

theorem adds_insertMultiple (arguments : List Value) (count : UInt64)
    (columns : Option (List String)) :
    Adds (insertMultiple d t arguments count columns).write := by
  have columns := adds_within .select (adds_columnList columns)
  exact adds_append (adds_append (adds_text "SELECT ") columns) (adds_text _)

end Statement

/-! ### Writers -/

/-- What writes a statement or a clause of it, with its arguments. -/
inductive Writer
  | filter (f : Filter)
  | whereClause (filter : Option Filter)
  | orderBy (order : Option Ordering)
  | select (t : Table) (o : Clauses)
  | insert (t : Table) (fields : Fields) (o : Clauses)
  | update (t : Table) (fields : Fields) (o : Clauses)
  | search (t : Table) (words columns : List String) (o : Clauses) (pass : SearchPass)
  | insertMultiple (t : Table) (arguments : List Value) (count : UInt64)
    (columns : Option (List String))

namespace Writer

variable (d : Dialect)

/-- A draft after a writer, and whether something has been written where the writer tells. -/
def write : Writer → Draft → Option Bool × Draft
  | .filter f, x => (Draft.filter d f x).map some id
  | .whereClause f, x => (x.whereClause d f).map some id
  | .orderBy order, x => (none, x.orderBy order)
  | .select t o, x => (none, x.select d t o)
  | .insert t fields o, x => (none, x.insert t fields o)
  | .update t fields o, x => (none, x.update d t fields o)
  | .search t words columns o pass, x => (none, x.search d t words columns o pass)
  | .insertMultiple t arguments count columns, x =>
    (none, x.insertMultiple d t arguments count columns)

/-- What stands in a draft is kept, a text is appended to it and parameters to its context, and the
region and the mode stay as they are. The text, the parameters and what is told depend on nothing of
the draft but the region, the mode and the number of the parameters before. -/
def Appends (write : Draft → Option Bool × Draft) : Prop :=
  ∃ appended : Region → Bool → Nat → Option Bool × String × List Value, ∀ x,
    let (told, text, parameters) :=
      appended x.context.region x.context.parameterized x.context.parameters.length
    write x = (told, ⟨x.text ++ text,
      { x.context with parameters := x.context.parameters ++ parameters }⟩)

private theorem appends_of_adds {part : WriteContext → (Option Bool × String) × WriteContext}
    (h : Adds part) {write : Draft → Option Bool × Draft}
    (same : ∀ x, write x =
      ((part x.context).1.1, ⟨x.text ++ (part x.context).1.2, (part x.context).2⟩)) :
    Appends write := by
  obtain ⟨appended, h⟩ := h
  refine ⟨fun region mode n =>
    let (written, parameters) := appended region mode n
    (written.1, written.2, parameters), fun x => ?_⟩
  rw [same, h]
  rfl

private theorem appends_of_clause {a : Clause} (h : Adds a.write) {write : Draft → Draft}
    (same : ∀ x, write x = x.after a) : Appends fun x => (none, write x) :=
  appends_of_adds (h.map fun s => (none, s)) fun x => congrArg (none, ·) (same x)

private theorem appends_of_predicate {p : Predicate} (h : Adds p.write)
    {write : Draft → Bool × Draft} (same : ∀ x, write x = x.afterTest p) :
    Appends fun x => (write x).map some id := by
  refine appends_of_adds (h.map fun s => (some s.isSome, s.getD "")) fun x => ?_
  rw [same]
  rfl

/-- Every writer of statements and of their clauses appends to any draft. -/
theorem write_appends (w : Writer) : Appends (w.write d) := by
  cases w with
  | filter f =>
    exact appends_of_predicate (Predicate.adds_filter d f) (Draft.filter_eq f)
  | whereClause f =>
    exact appends_of_predicate (Statement.adds_whereClause d f) fun x => x.whereClause_eq f
  | orderBy order =>
    exact appends_of_clause (Statement.adds_orderBy order) fun x => x.orderBy_eq order
  | select t o => exact appends_of_clause (Statement.adds_select d t o) fun x => x.select_eq t o
  | insert t fields o =>
    exact appends_of_clause (Statement.adds_insert t fields o) fun x => x.insert_eq t fields o
  | update t fields o =>
    exact appends_of_clause (Statement.adds_update d t fields o) fun x => x.update_eq t fields o
  | search t words columns o pass =>
    exact appends_of_clause (Statement.adds_search d t o words columns pass) fun x =>
      x.search_eq t words columns o pass
  | insertMultiple t arguments count columns =>
    exact appends_of_clause (Statement.adds_insertMultiple d t arguments count columns) fun x =>
      x.insertMultiple_eq t arguments count columns

end Writer

end TableAccess
