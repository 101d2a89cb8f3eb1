import TableAccess.Proofs.Statement.Builders
import TableAccess.Repository.Batch
import TableAccess.Repository.Search

/-!
The operations on a table and the statements that they send.

An operation has its statements from what it is asked for alone, a search one for each of its
passes. What it sends are the first of them, as many as it takes.
-/

set_option autoImplicit false
set_option relaxedAutoImplicit false

namespace TableAccess

variable {S T α : Type}

/-! ### Operations -/

/-- The entities of a table, with the columns to search and the sequence of columns that the
insertion function of the table takes. -/
structure FullRepository (α : Type) extends SearchRepository α, BatchRepository α

/-- An operation on the entities of a table. -/
inductive Operation
  | find (o : Clauses)
  | findOne (o : Clauses)
  | create (fields : Option Fields) (columns : Option (List String))
  | update (filter : Option Filter) (fields : Option Fields) (columns : Option (List String))
  | updateById (id : Int64) (fields : Option Fields) (columns : Option (List String))
  | search (query : String) (columns : Option (List String)) (o : Clauses)
  | createMany (item : Option Fields) (count : UInt64) (columns : Option (List String))

/-- The executor that also keeps the statements that it is given, the earliest first. -/
def Executor.recorded (x : Executor S) : Executor (S × List Query) where
  dialect := x.dialect
  run q s :=
    let (answer, after) := x.run q s.1
    (answer, (after, s.2 ++ [q]))
  report level text s := (x.report level text s.1, s.2)

namespace Operation

/-- The state after an operation. -/
def perform [Entity α] (r : FullRepository α) (x : Executor S) : Operation → S → S
  | .find o, s => (r.find x o s).2
  | .findOne o, s => (r.findOne x o s).2
  | .create fields columns, s => (r.create x fields columns s).2
  | .update filter fields columns, s => (r.update x filter fields columns s).2
  | .updateById id fields columns, s => (r.updateById x id fields columns s).2
  | .search query columns o, s => (r.search x query columns o s).2
  | .createMany item count columns, s => (r.createMany x item count columns s).2

/-- The statements that an operation sends. -/
def sends [Entity α] (r : FullRepository α) (x : Executor S) (a : Operation) (s : S) :
    List Query :=
  (a.perform r x.recorded (s, [])).2

/-- The passes of a search for some words, and their clauses. -/
def plan (r : SearchRepository α) (words columns : List String) (o : Clauses) :
    List SearchPass × Clauses :=
  let limit := SearchRepository.effectiveLimit o.limit
  let o := { o with limit := some limit }
  if words.isEmpty then (if r.strict then [] else [.listing], o)
  else if columns.isEmpty then ([], o)
  else match r.strategy with
    | .ranked => ([.ranked], o)
    | .passes fuzzy =>
      (SearchStrategy.passList fuzzy,
        { o with offset := none, limit := some (saturatingSum (o.offset.getD 0) limit) })

/-- The statements that an operation may send, in order. -/
def statements (r : FullRepository α) (d : Dialect) : Operation → List Query
  | .find o => [(Statement.select d r.table o).query]
  | .findOne o => [(Statement.select d r.table { o with limit := some 1 }).query]
  | .create fields columns => fields.toList.map fun fields =>
    (Statement.insert r.table fields { returning := columns }).query
  | .update filter fields columns => fields.toList.map fun fields =>
    (Statement.update d r.table fields { filter := filter, returning := columns }).query
  | .updateById id fields columns => fields.toList.map fun fields =>
    (Statement.update d r.table fields
      { filter := some (.withId id), returning := columns }).query
  | .search query columns o =>
    let words := Text.words query
    let columns := columns.getD r.columns
    let (passes, o) := plan r.toSearchRepository words columns o
    passes.map fun pass => (Statement.search d r.table words columns o pass).query
  | .createMany item count columns => item.toList.map fun fields =>
    (Statement.insertMultiple d r.table (r.arguments fields) count columns).query

/-! ### What is sent -/

section Sent

variable [Entity α] {x : Executor S} {r : FullRepository α} {s : S × List Query}

private theorem fetch_recorded (q : Query) :
    ((x.recorded.fetch q : Fallible (S × List Query) (List α)) s).2.2 = s.2 ++ [q] := by
  simp only [Executor.fetch, Executor.recorded]
  split <;> rfl

private theorem fetchFirst_recorded (q : Query) :
    ((x.recorded.fetchFirst q : Fallible (S × List Query) (Option α)) s).2.2 = s.2 ++ [q] := by
  have sent := fetch_recorded (α := α) (x := x) (s := s) q
  rw [Executor.fetchFirst]
  split
  · next ran => rwa [ran] at sent
  · next ran => rwa [ran] at sent

private theorem create_recorded (fields : Fields) (columns : Option (List String)) :
    (r.create x.recorded (some fields) columns s).2.2 =
      s.2 ++ [(Statement.insert r.table fields { returning := columns }).query] := by
  have sent := fetchFirst_recorded (α := α) (x := x) (s := s)
    (Statement.insert r.table fields { returning := columns }).query
  simp only [Repository.create]
  split
  · next ran => rwa [ran] at sent
  · next ran =>
    rw [ran] at sent
    exact sent
  · next ran => rwa [ran] at sent

omit [Entity α] in
private theorem createMany_recorded (fields : Fields) (count : UInt64)
    (columns : Option (List String)) :
    (r.createMany x.recorded (some fields) count columns s).2.2 =
      s.2 ++ [(Statement.insertMultiple x.dialect r.table (r.arguments fields) count
        columns).query] := by
  simp only [BatchRepository.createMany, Executor.recorded]
  split <;> rfl

/-- Passes are run in order, from the first one on, as long as rows are wanted. -/
private theorem runPasses_recorded (words columns : List String) (o : Clauses) (wanted : Nat)
    (found : Found α) (passes : List SearchPass) :
    ∃ sent, (r.runPasses x.recorded words columns o wanted found passes s).2.2 = s.2 ++ sent ∧
      sent <+: passes.map (fun pass =>
        (Statement.search x.dialect r.table words columns o pass).query) ∧
      (found.rows.length < wanted → passes ≠ [] → sent ≠ []) := by
  induction passes generalizing found s with
  | nil => exact ⟨[], (List.append_nil _).symm, List.nil_prefix, fun _ h => absurd rfl h⟩
  | cons pass passes ih =>
    rw [SearchRepository.runPasses]
    split
    · next enough =>
      exact ⟨[], (List.append_nil _).symm, List.nil_prefix,
        fun few => absurd enough (Nat.not_le_of_lt few)⟩
    · let q := (Statement.search x.dialect r.table words columns o pass).query
      have sent : (r.runPass x.recorded words columns o pass s).2.2 = s.2 ++ [q] :=
        fetch_recorded q
      split
      · next ran =>
        rw [ran] at sent
        refine ⟨[q], sent, ?_, fun _ _ => List.cons_ne_nil _ _⟩
        exact List.cons_prefix_cons.mpr ⟨rfl, List.nil_prefix⟩
      · next rows after ran =>
        rw [ran] at sent
        obtain ⟨rest, log, initial, -⟩ := ih (found.addAll wanted rows) (s := after)
        refine ⟨q :: rest, ?_, ?_, fun _ _ => List.cons_ne_nil _ _⟩
        · rw [log, sent, List.append_assoc]
          rfl
        · exact List.cons_prefix_cons.mpr ⟨rfl, initial⟩

theorem effectiveLimit_ne_zero (limit : Option UInt64) :
    SearchRepository.effectiveLimit limit ≠ 0 := by
  unfold SearchRepository.effectiveLimit
  split
  · split
    · decide
    · assumption
  · decide

theorem saturatingSum_pos (a : UInt64) {b : UInt64} (positive : b ≠ 0) :
    0 < (saturatingSum a b).toNat := by
  have some_rows : 0 < b.toNat := by
    refine Nat.pos_of_ne_zero fun zero => positive ?_
    rw [← UInt64.toNat_inj, zero]
    rfl
  rw [toNat_saturatingSum]
  exact Nat.lt_min.mpr ⟨by omega, by decide⟩

/-- What has been sent is the start of what is planned, and something if anything is planned. -/
def Starts (sent planned : List Query) : Prop :=
  sent <+: planned ∧ (planned ≠ [] → sent ≠ [])

private theorem starts_single (q : Query) : Starts [q] [q] :=
  ⟨List.prefix_rfl, fun _ => List.cons_ne_nil _ _⟩

private theorem starts_nil : Starts [] [] := ⟨List.prefix_rfl, fun h => absurd rfl h⟩

private theorem searchPasses_recorded (words columns : List String) (o : Clauses)
    (offset : UInt64) {limit : UInt64} (positive : limit ≠ 0) (passes : List SearchPass) :
    ∃ sent, (r.searchPasses x.recorded words columns o offset limit passes s).2.2 = s.2 ++ sent ∧
      Starts sent (passes.map fun pass => (Statement.search x.dialect r.table words columns
        { o with offset := none, limit := some (saturatingSum offset limit) } pass).query) := by
  obtain ⟨sent, log, initial, something⟩ := runPasses_recorded (r := r) (x := x) (s := s) words
    columns { o with offset := none, limit := some (saturatingSum offset limit) }
    (saturatingSum offset limit).toNat .nothing passes
  refine ⟨sent, ?_, initial, fun planned => something (saturatingSum_pos offset positive) ?_⟩
  · simp only [SearchRepository.searchPasses]
    split
    · next ran => rwa [ran] at log
    · next ran => rwa [ran] at log
  · rintro rfl
    exact planned rfl

/-- A search that is not refused sends the first of its statements. -/
private theorem search_recorded (query : String) (columns : Option (List String)) (o : Clauses) :
    ∃ sent, (r.search x.recorded query columns o s).2.2 = s.2 ++ sent ∧
      Starts sent (statements r x.dialect (.search query columns o)) := by
  have refused (reason : Refusal) :
      ((x.recorded.refuse reason : Fallible (S × List Query) (List α)) s).2.2 = s.2 ++ [] :=
    (List.append_nil _).symm
  have positive := effectiveLimit_ne_zero o.limit
  simp only [SearchRepository.search, statements, plan]
  split
  · next none_given =>
    have nothing : Text.words query = [] := List.isEmpty_iff.mp none_given
    split
    · exact ⟨[], refused .emptySearch, starts_nil⟩
    · refine ⟨_, fetch_recorded _, ?_⟩
      rw [nothing]
      exact starts_single _
  · split
    · exact ⟨[], refused .noSearchColumns, starts_nil⟩
    · cases r.strategy with
      | ranked => exact ⟨_, fetch_recorded _, starts_single _⟩
      | passes fuzzy => exact searchPasses_recorded _ _ _ _ positive _

/-- An operation sends the first of its statements, unless it has none. -/
theorem starts_sends (r : FullRepository α) (x : Executor S) (a : Operation) (s : S) :
    Starts (a.sends r x s) (a.statements r x.dialect) := by
  cases a with
  | find o =>
    rw [sends, perform, Repository.find, fetch_recorded]
    exact starts_single _
  | findOne o =>
    rw [sends, perform, Repository.findOne, fetchFirst_recorded]
    exact starts_single _
  | create fields columns =>
    cases fields with
    | none => exact starts_nil
    | some fields =>
      rw [sends, perform, create_recorded]
      exact starts_single _
  | update filter fields columns =>
    cases fields with
    | none => exact starts_nil
    | some fields =>
      rw [sends, perform, Repository.update, fetch_recorded]
      exact starts_single _
  | updateById id fields columns =>
    cases fields with
    | none => exact starts_nil
    | some fields =>
      rw [sends, perform, Repository.updateById, fetchFirst_recorded]
      exact starts_single _
  | search query columns o =>
    obtain ⟨sent, log, starts⟩ := search_recorded (r := r) (x := x) (s := (s, [])) query columns o
    rw [sends, perform, log, List.nil_append]
    exact starts
  | createMany item count columns =>
    cases item with
    | none => exact starts_nil
    | some fields =>
      rw [sends, perform, createMany_recorded]
      exact starts_single _

end Sent

end Operation

end TableAccess
