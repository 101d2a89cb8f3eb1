import TableAccess.Proofs.Statement.Parallel
import TableAccess.Statement.Write

/-!
The statements on one table side by side.

Two statements of one kind are parallel when they have the same columns, order and paging,
parallel filters, and as many words or arguments. The values that an insertion or an update
writes do not matter at all, and neither do the words of a search.
-/

set_option autoImplicit false
set_option relaxedAutoImplicit false

namespace TableAccess.Statement

open Clause (text column columnList joined parameter within placeholder parallel_text
  parallel_fixed parallel_joined parallel_column parallel_columnList parallel_parameter forall₂_map)
open Predicate (FiltersParallel)
open Text (Closed)

variable {R : String → String → Prop} {d : Dialect} {t : Table} {o : Clauses}
  {f g : Option Filter}

/-! ### Clauses -/

/-- The relation holds of the names of a table and themselves. -/
def TableWritable (R : String → String → Prop) (t : Table) : Prop :=
  Writable R t.schema ∧ Writable R t.name

theorem parallel_table (hR : Congruence R) (names : TableWritable R t) :
    (table t).Parallel R (table t) :=
  parallel_text (hR.append (hR.append names.1.1 (hR.closed (by decide))) names.2.2)

theorem parallel_whereClause (hR : Congruence R) (filters : FiltersParallel R d f g) :
    (whereClause d f).Parallel R (whereClause d g) := by
  cases filters with
  | none => exact fun _ _ level => ⟨.none, level⟩
  | some h => exact (h.withinRegion .condition).keyword hR (by decide)

theorem parallel_orderList (hR : Congruence R) {order : Option Ordering}
    (names : ∀ e ∈ order.getD [], Writable R e.1) :
    (orderList order).Parallel R (orderList order) := by
  have columns : ∀ e ∈ order.getD [("id", .ascending)], Writable R e.1 := by
    cases order with
    | some order => exact names
    | none =>
      refine List.forall_mem_singleton.mpr ⟨hR.closed ?_, hR.closed ?_⟩
      · decide
      · decide
  have direction (e : Direction) : Closed (" " ++ e.token) := by cases e <;> decide
  let entry (e : String × Direction) : Clause := column e.1 ++ text (" " ++ e.2.token)
  have entries : (joined ", " ((order.getD [("id", .ascending)]).map entry)).Parallel R
      (joined ", " ((order.getD [("id", .ascending)]).map entry)) := by
    refine parallel_joined hR (by decide) (forall₂_map fun e mem => ?_)
    exact (parallel_column (columns e mem)).append hR (parallel_fixed hR (direction e.2))
  exact (Predicate.parallel_provided _ entries).withinRegion .orderBy

theorem parallel_orderBy (hR : Congruence R) {order : Option Ordering}
    (names : ∀ e ∈ order.getD [], Writable R e.1) :
    (orderBy order).Parallel R (orderBy order) :=
  ((parallel_orderList hR names).keyword hR (by decide)).optional hR

private theorem closed_countAfter {word : String} (closed : Closed word) (n : Option UInt64) :
    Closed (countAfter word n) := by
  unfold countAfter
  split
  · split
    · rfl
    · exact closed.append (Clause.closed_natText _)
  · rfl

theorem parallel_paging (hR : Congruence R) (offset limit : Option UInt64) :
    (paging offset limit).Parallel R (paging offset limit) :=
  parallel_fixed hR ((closed_countAfter (by decide) offset).append
    (closed_countAfter (by decide) limit))

theorem parallel_returning (hR : Congruence R) {columns : Option (List String)}
    (names : ∀ name ∈ columns.getD [], Writable R name) :
    (returning columns).Parallel R (returning columns) :=
  (parallel_fixed hR (by decide)).append hR
    ((parallel_columnList hR names).within .returning)

/-! ### Selection, insertion and update -/

theorem parallel_select (hR : Congruence R) (names : TableWritable R t)
    (columns : ∀ name ∈ o.select.getD [], Writable R name)
    (order : ∀ e ∈ o.order.getD [], Writable R e.1)
    (filters : FiltersParallel R d o.filter g) :
    (select d t o).Parallel R (select d t { o with filter := g }) :=
  (((((parallel_fixed hR (by decide)).append hR
    ((parallel_columnList hR columns).within .select)).append hR
    (parallel_fixed hR (by decide))).append hR (parallel_table hR names)).append hR
    ((parallel_whereClause hR filters).optional hR)).append hR (parallel_orderBy hR order)
    |>.append hR (parallel_paging hR o.offset o.limit)

/-- One part for each entry, when the entries have the same columns and values do not matter. -/
private theorem forall₂_entries {part : String × Value → Clause} {es es' : List (String × Value)}
    (same : es.map Prod.fst = es'.map Prod.fst)
    (h : ∀ e ∈ es, ∀ v, (part e).Parallel R (part (e.1, v))) :
    List.Forall₂ (Clause.Parallel R) (es.map part) (es'.map part) := by
  induction es generalizing es' with
  | nil =>
    obtain rfl := List.map_eq_nil_iff.mp same.symm
    exact .nil
  | cons e es ih =>
    cases es' with
    | nil => cases same
    | cons e' es' =>
      obtain ⟨name, others⟩ := List.cons.inj same
      obtain ⟨first, rest⟩ := List.forall_mem_cons.mp h
      have there : e' = (e.1, e'.2) := by rw [name]
      rw [List.map_cons, List.map_cons, there]
      exact .cons (first e'.2) (ih others rest)

theorem parallel_insert (hR : Congruence R) (names : TableWritable R t) {fields fields' : Fields}
    (same : fields.entries.map Prod.fst = fields'.entries.map Prod.fst)
    (columns : ∀ name ∈ fields.entries.map Prod.fst, Writable R name)
    (given : ∀ name ∈ o.returning.getD [], Writable R name) :
    (insert t fields o).Parallel R (insert t fields' o) := by
  have entry {e : String × Value} (mem : e ∈ fields.entries) : Writable R e.1 :=
    columns e.1 (List.mem_map_of_mem mem)
  have places : (joined ", " (fields.entries.map fun e => column e.1)).Parallel R
      (joined ", " (fields'.entries.map fun e => column e.1)) :=
    parallel_joined hR (by decide)
      (forall₂_entries same fun e mem _ => parallel_column (entry mem))
  have values : (joined ", " (fields.entries.map fun e => parameter e.2)).Parallel R
      (joined ", " (fields'.entries.map fun e => parameter e.2)) :=
    parallel_joined hR (by decide)
      (forall₂_entries same fun e _ v => parallel_parameter hR e.2 v)
  exact (((((((parallel_fixed hR (by decide)).append hR (parallel_table hR names)).append hR
    (parallel_fixed hR (by decide))).append hR (places.within .insertColumns)).append hR
    (parallel_fixed hR (by decide))).append hR (values.within .insertValues)).append hR
    (parallel_fixed hR (by decide))).append hR (parallel_returning hR given)

theorem parallel_update (hR : Congruence R) (names : TableWritable R t) {fields fields' : Fields}
    (same : fields.entries.map Prod.fst = fields'.entries.map Prod.fst)
    (columns : ∀ name ∈ fields.entries.map Prod.fst, Writable R name)
    (given : ∀ name ∈ o.returning.getD [], Writable R name)
    (filters : FiltersParallel R d o.filter g) :
    (update d t fields o).Parallel R (update d t fields' { o with filter := g }) := by
  have assignments : (joined ", " (fields.entries.map fun e => assignment e.1 e.2)).Parallel R
      (joined ", " (fields'.entries.map fun e => assignment e.1 e.2)) := by
    refine parallel_joined hR (by decide) (forall₂_entries same fun e mem v => ?_)
    exact ((parallel_column (columns e.1 (List.mem_map_of_mem mem))).append hR
      (parallel_fixed hR (by decide))).append hR (parallel_parameter hR e.2 v)
  exact (((((parallel_fixed hR (by decide)).append hR (parallel_table hR names)).append hR
    (parallel_fixed hR (by decide))).append hR (assignments.within .updateSet)).append hR
    ((parallel_whereClause hR filters).optional hR)).append hR (parallel_returning hR given)

/-! ### Search -/

private theorem mem_pairs {columns : List String} {places : List Nat} {p : String × Nat}
    (mem : p ∈ pairs columns places) : p.1 ∈ columns := by
  obtain ⟨name, within, paired⟩ := List.mem_flatMap.mp mem
  obtain ⟨n, -, rfl⟩ := List.mem_map.mp paired
  exact within

variable {columns : List String} {places : List Nat}

/-- One part for each column with each of the places. -/
private theorem parallel_pairs (hR : Congruence R) {separator : String}
    (closed : Closed separator) {part : String × Nat → Clause}
    (h : ∀ name ∈ columns, ∀ n, (part (name, n)).Parallel R (part (name, n))) :
    (joined separator ((pairs columns places).map part)).Parallel R
      (joined separator ((pairs columns places).map part)) :=
  parallel_joined hR closed (forall₂_map fun p mem => h p.1 (mem_pairs mem) p.2)

/-- The place of a parameter between two texts. -/
private theorem parallel_place (hR : Congruence R) {before after : String}
    (front : Closed before) (back : Closed after) (n : Nat) :
    (text (before ++ placeholder n ++ after)).Parallel R
      (text (before ++ placeholder n ++ after)) :=
  parallel_fixed hR ((front.append (Clause.closed_placeholder n)).append back)

private theorem parallel_searchMatch (places : List Nat) (hR : Congruence R)
    (names : ∀ name ∈ columns, Writable R name) (atStart : Bool) :
    (searchMatch columns places atStart).Parallel R (searchMatch columns places atStart) := by
  have like : Closed (if atStart then " ILIKE " else " ILIKE '%' || ") := by
    cases atStart <;> decide
  refine ((parallel_fixed hR (by decide)).append hR (parallel_pairs hR (by decide) ?_)).append hR
    (parallel_fixed hR (by decide))
  intro name mem n
  exact (parallel_column (names name mem)).append hR (parallel_place hR like (by decide) n)

private theorem parallel_searchRank (hR : Congruence R)
    (names : ∀ name ∈ columns, Writable R name) :
    (searchRank columns places).Parallel R (searchRank columns places) :=
  parallel_pairs hR (by decide) fun name mem n =>
    (parallel_column (names name mem)).append hR
      (parallel_place hR (by decide) (by decide) n)

private theorem parallel_searchDistance (hR : Congruence R)
    (names : ∀ name ∈ columns, Writable R name) {function : String}
    (name : Writable R function) :
    (searchDistance columns places function).Parallel R
      (searchDistance columns places function) :=
  parallel_pairs hR (by decide) fun column mem n =>
    ((parallel_text (hR.append name.1 (hR.closed (by decide)))).append hR
      (parallel_column (names column mem))).append hR
        (parallel_place hR (by decide) (by decide) n)

/-- As many words are bound in the same places. -/
private theorem level_bindWords {words words' : List String} {c c' : WriteContext}
    (level : c.Level c') (same : words.length = words'.length) :
    (bindWords words c).1 = (bindWords words' c').1 ∧
      (bindWords words c).2.Level (bindWords words' c').2 := by
  have count := level.count
  refine ⟨by simp only [bindWords, count, same], level.inline, level.inline', level.region, ?_⟩
  simp only [bindWords, WriteContext.count, List.length_append, List.length_map, same] at count ⊢
  rw [count]

private theorem parallel_searchCondition (places : List Nat) (hR : Congruence R)
    (names : ∀ name ∈ columns, Writable R name) (filters : FiltersParallel R d f g)
    (pass : SearchPass) :
    (searchCondition d f pass columns places).Parallel R
      (searchCondition d g pass columns places) := by
  have found := (parallel_searchMatch places hR names (pass == .leading)).within .condition
  intro c c' level
  cases wanted : pass.matches with
  | false =>
    simp only [searchCondition, wanted, Bool.false_eq_true, if_false]
    cases filters with
    | none => exact ⟨.none, level⟩
    | some h => exact h.withinRegion .condition c c' level
  | true =>
    simp only [searchCondition, wanted, if_true]
    cases filters with
    | none =>
      obtain ⟨same, after⟩ := found c c' level
      exact ⟨.some (hR.append (hR.closed rfl) same), after⟩
    | @some f g h =>
      obtain ⟨kept, between⟩ := h.withinRegion .condition c c' level
      obtain ⟨same, after⟩ := found _ _ between
      refine ⟨.some (hR.append ?_ same), after⟩
      generalize ((withinRegion .condition (Predicate.filter d f)).write c).1 = s at kept ⊢
      generalize ((withinRegion .condition (Predicate.filter d g)).write c').1 = s' at kept ⊢
      cases kept with
      | none => exact hR.closed rfl
      | some rows => exact hR.append rows (hR.closed (by decide))

/-- The relation holds of the distance function of a pass and itself, if it has one. -/
def PassWritable (R : String → String → Prop) : SearchPass → Prop
  | .fuzzy function => Writable R function
  | .listing | .ranked | .leading | .containing => True

/-- A ranking before an order, either of which may be left out. -/
private def rankedBy (ranking order : Predicate) : Predicate :=
  ⟨fun c =>
    let (r, c) := ranking.write c
    let (s, c) := order.write c
    (match r, s with
      | some r, some s => some (r ++ ", " ++ s)
      | some r, none => some r
      | none, s => s, c)⟩

private theorem parallel_rankedBy (hR : Congruence R) {ranking order : Predicate}
    (first : ranking.Parallel R ranking) (last : order.Parallel R order) :
    (rankedBy ranking order).Parallel R (rankedBy ranking order) := by
  intro c c' level
  obtain ⟨ranks, between⟩ := first c c' level
  obtain ⟨orders, after⟩ := last _ _ between
  refine ⟨?_, after⟩
  have put : ∀ {r r' s s' : Option String}, Option.Rel R r r' → Option.Rel R s s' →
      Option.Rel R
        (match r, s with
          | some r, some s => some (r ++ ", " ++ s)
          | some r, none => some r
          | none, s => s)
        (match r', s' with
          | some r, some s => some (r ++ ", " ++ s)
          | some r, none => some r
          | none, s => s) := by
    rintro r r' s s' (same | _) (same' | _)
    · exact .some (hR.append (hR.append same (hR.closed (by decide))) same')
    · exact .some same
    · exact .some same'
    · exact .none
  exact put ranks orders

private theorem parallel_searchOrder (places : List Nat) (hR : Congruence R)
    {order : Option Ordering} (asked : ∀ e ∈ order.getD [], Writable R e.1)
    (names : ∀ name ∈ columns, Writable R name) {pass : SearchPass} (writable : PassWritable R pass) :
    (searchOrder order pass columns places).Parallel R
      (searchOrder order pass columns places) := by
  have given := parallel_orderList hR asked
  have ranked {a : Clause} (h : a.Parallel R a) := parallel_rankedBy hR
    (Predicate.parallel_provided true (h.within .searchRank)) given
  cases pass with
  | listing | leading | containing => exact given
  | ranked => exact ranked (parallel_searchRank hR names)
  | fuzzy function => exact ranked (parallel_searchDistance hR names writable)

/-- As many words in the same columns are searched by parallel statements. -/
theorem parallel_search (hR : Congruence R) (table : TableWritable R t) {words words' : List String}
    (same : words.length = words'.length) (names : ∀ name ∈ columns, Writable R name)
    (asked : ∀ e ∈ o.order.getD [], Writable R e.1) (filters : FiltersParallel R d o.filter g)
    {pass : SearchPass} (writable : PassWritable R pass) :
    (search d t words columns o pass).Parallel R
      (search d t words' columns { o with filter := g } pass) := by
  have fullName : R t.fullName t.fullName :=
    hR.append (hR.append table.1.1 (hR.closed (by decide))) table.2.1
  have body (places : List Nat) := (((parallel_text (hR.append (hR.closed
      (by decide : Closed "SELECT * FROM ")) fullName)).append hR
    (((parallel_searchCondition places hR names filters pass).keyword hR
      (by decide : Closed " WHERE ")).optional hR)).append hR
    (((parallel_searchOrder places hR asked names writable).keyword hR
      (by decide : Closed " ORDER BY ")).optional hR)).append hR
    (parallel_paging hR o.offset o.limit)
  intro c c' level
  cases listed : pass == .listing with
  | true =>
    simp only [search, listed, if_true]
    exact body [] c c' level
  | false =>
    obtain ⟨places, bound⟩ := level_bindWords level same
    simp only [search, listed, Bool.false_eq_true, if_false]
    rw [← places]
    exact body _ _ _ bound

/-! ### Insertion of many rows -/

private theorem related_arguments (hR : Congruence R) {vs ws : List Value}
    (h : List.Forall₂ (fun v w => R (argument d v) (argument d w)) vs ws) :
    R (String.join (vs.map fun v => argument d v ++ ", "))
      (String.join (ws.map fun v => argument d v ++ ", ")) := by
  induction h with
  | nil => exact hR.closed rfl
  | cons first others ih =>
    simp only [List.map_cons, String.join_cons]
    exact hR.append (hR.append first (hR.closed (by decide))) ih

theorem parallel_insertMultiple (hR : Congruence R) (names : TableWritable R t)
    {vs ws : List Value}
    (h : List.Forall₂ (fun v w => R (argument d v) (argument d w)) vs ws) (count : UInt64)
    {columns : Option (List String)} (given : ∀ name ∈ columns.getD [], Writable R name) :
    (insertMultiple d t vs count columns).Parallel R (insertMultiple d t ws count columns) := by
  have fixed {s : String} (closed : Closed s) : R s s := hR.closed closed
  have call : R (" FROM " ++ t.schema ++ "." ++ insertMultipleFunction t ++ "(")
      (" FROM " ++ t.schema ++ "." ++ insertMultipleFunction t ++ "(") :=
    hR.append (hR.append (hR.append (hR.append (fixed (by decide)) names.1.1)
      (fixed (by decide))) (hR.append (fixed (by decide)) names.2.1)) (fixed (by decide))
  exact ((parallel_fixed hR (by decide)).append hR
    ((parallel_columnList hR given).within .select)).append hR
    (fun c c' level => ⟨hR.append (hR.append (hR.append call (related_arguments hR h))
      (fixed (Clause.closed_natText _))) (fixed (by decide)), level⟩)

end TableAccess.Statement
