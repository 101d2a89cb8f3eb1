import TableAccess.Proofs.Repository.Asking
import TableAccess.Proofs.Statement.Steady

/-!
What requests to a repository ask of a server, and what comes of its answers.

A request is refused for its arguments alone, and asks nothing then. Any other one asks for one
statement, or for one after another in a search by passes. It fails exactly if an answer can not
be read, and the creation of a row also if none comes back.
-/

set_option autoImplicit false
set_option relaxedAutoImplicit false

namespace TableAccess

variable {S α β γ : Type}

/-! ### Requests -/

/-- What a repository gives: rows, at most one row, a row that has been created, or identifiers. -/
inductive Given (α : Type)
  | rows (es : List α)
  | row (e : Option α)
  | created (e : α)
  | ids (ns : List Int64)

/-- What a repository can be asked for: the row of an identifier, or an operation. -/
inductive Request
  | lookUp (id : Int64) (columns : Option (List String))
  | perform (a : Operation)

namespace Request

section Meaning

variable (r : FullRepository α)

def serve [Entity α] (x : Executor S) : Request → Fallible S (Given α)
  | .lookUp id columns => (r.findById x id columns).map .row
  | .perform a => match a with
    | .find o => (r.find x o).map .rows
    | .findOne o => (r.findOne x o).map .row
    | .create fields columns => (r.create x fields columns).map .created
    | .update filter fields columns => (r.update x filter fields columns).map .rows
    | .updateById id fields columns => (r.updateById x id fields columns).map .row
    | .search query columns o => (r.search x query columns o).map .rows
    | .createMany item count columns => (r.createMany x item count columns).map .ids

/-- Why a request is refused for its arguments, if it is. -/
def refusal : Request → Option Refusal
  | .perform (.create none _) => some .nothingToCreate
  | .perform (.update _ none _) => some .nothingToUpdate
  | .perform (.updateById _ none _) => some .nothingToUpdate
  | .perform (.createMany none _ _) => some .noItemToCreate
  | .perform (.search query columns _) =>
    if Text.words query = [] then (if r.strict then some .emptySearch else none)
    else if columns.getD r.columns = [] then some .noSearchColumns
    else none
  | _ => none

/-- How many statements a request asks for at most: one, or as many as a search for words has
passes. -/
def most : Request → Nat
  | .perform (.search query _ _) =>
    if Text.words query = [] then 1
    else match r.strategy with
      | .ranked => 1
      | .passes fuzzy => (SearchStrategy.passList fuzzy).length
  | _ => 1

/-- A statement of a request fails, or gives a row that does not decode. Of an insertion of many
rows only the first row counts. -/
def Misreads [Entity α] (answer : Answer) : Request → Prop
  | .perform (.createMany ..) =>
    Misread (fun row => ∃ f, idsOfRow (Statement.insertMultipleFunction r.table) row = .error f)
      (answer.rows.take 1)
  | _ => Misread (Row.Undecodable α) answer.rows

/-- What a request gives when no row comes back. Only the creation of a row can not do without. -/
def nothing : Request → Option (Given α)
  | .lookUp .. => some (.row none)
  | .perform a => match a with
    | .find _ | .update .. | .search .. => some (.rows [])
    | .findOne _ | .updateById .. => some (.row none)
    | .create .. => none
    | .createMany .. => some (.ids [])

/-- The statement of a search for no words, which has no parameters and names no columns. -/
def listing (d : Dialect) : Request → Option Query
  | .perform (.search query _ o) =>
    if Text.words query = [] then
      some (Statement.search d r.table [] []
        { o with limit := some (SearchRepository.effectiveLimit o.limit) } .listing).query
    else none
  | _ => none

/-- What a request that is not refused has asked for, and what has come of that. -/
structure Answered [Entity α] (d : Dialect) (a : Request) (result : Except Failure (Given α))
    (asked : List Asked) : Prop where
  some_asked : asked ≠ []
  within_most : asked.length ≤ a.most r
  failed_iff : (∃ f, result = .error f) ↔ (∃ e ∈ asked, a.Misreads r e.answer) ∨
    (a.nothing (α := α) = none ∧ ∀ e ∈ asked, e.answer.rows = [])
  missing : (∀ e ∈ asked, e.answer.rows = []) → ∀ given ∈ a.nothing, result = .ok given
  listing : ∀ q ∈ a.listing r d, asked.map Asked.query = [q] ∧ q.params = []

end Meaning

/-! ### All requests -/

section Requests

variable [Entity α] {x : Executor S} {r : FullRepository α} {a : Request} {q : Query}
  {read : Answer → Except Failure (Given α)}

/-- When an answer is read as a failure, and what no rows are read as. -/
structure Reading (r : FullRepository α) (a : Request)
    (read : Answer → Except Failure (Given α)) : Prop where
  failed_iff : ∀ answer, (∃ f, read answer = .error f) ↔
    a.Misreads r answer ∨ (a.nothing (α := α) = none ∧ answer.rows = [])
  missing : ∀ answer, answer.rows = [] → ∀ given ∈ a.nothing, read answer = .ok given

omit [Entity α] in
private theorem map_failed_iff {result : Except Failure β} {f : β → γ} :
    (∃ g, result.map f = .error g) ↔ ∃ g, result = .error g := by
  cases result <;> simp [Except.map]

omit [Entity α] in
private theorem mapError_failed_iff {result : Except Failure β} {f : Failure → Failure} :
    (∃ g, result.mapError f = .error g) ↔ ∃ g, result = .error g := by
  cases result <;> simp [Except.mapError]

private theorem entities_rowless {answer : Answer} (rowless : answer.rows = []) :
    answer.entities = .ok ([] : List α) := by
  cases read : (answer.entities : Except Failure (List α)) with
  | error f =>
    have misread := (Answer.entities_fails_iff answer).mp ⟨f, read⟩
    rw [rowless] at misread
    exact absurd misread misread_nil
  | ok es =>
    have count := Answer.entities_length read
    rw [rowless] at count
    rw [List.length_eq_zero_iff.mp count]

private theorem reading_entities (f : List α → Given α)
    (misreads : ∀ answer, a.Misreads r answer = Misread (Row.Undecodable α) answer.rows)
    (nothing : a.nothing = some (f [])) : Reading r a fun answer => answer.entities.map f where
  failed_iff answer := by
    rw [map_failed_iff, Answer.entities_fails_iff, misreads, nothing]
    simp
  missing answer rowless given mem := by
    rw [nothing] at mem
    cases mem
    rw [entities_rowless rowless]
    rfl

private theorem reading_create (fields : Option Fields) (columns : Option (List String)) :
    Reading r (.perform (.create fields columns)) fun answer =>
      (((answer.entities (α := α)).map List.head?).bind createdRow).map Given.created where
  failed_iff answer := by
    have failed := Answer.entities_fails_iff (α := α) answer
    have misreads : (perform (.create fields columns)).Misreads r answer =
        Misread (Row.Undecodable α) answer.rows := rfl
    rw [map_failed_iff, misreads, ← failed, nothing]
    cases read : (answer.entities : Except Failure (List α)) with
    | error f => simp [Except.map, Except.bind]
    | ok es =>
      have count := Answer.entities_length read
      cases es with
      | nil => simp [Except.map, Except.bind, createdRow, List.length_eq_zero_iff.mp count.symm]
      | cons e es =>
        have some_row : answer.rows ≠ [] := by
          intro rowless
          rw [rowless] at count
          cases count
        simp [Except.map, Except.bind, createdRow, some_row]
  missing _ _ given mem := by cases mem

private theorem reading_createMany (item : Option Fields) (count : UInt64)
    (columns : Option (List String)) :
    Reading r (.perform (.createMany item count columns)) fun answer =>
      (answer.ids (Statement.insertMultipleFunction r.table)).map Given.ids where
  failed_iff answer := by
    rw [map_failed_iff, Misreads, nothing, Answer.ids]
    cases answer.rows with
    | nil => simp [misread_nil]
    | cons item items => cases item <;> simp [misread_cons, misread_nil]
  missing answer rowless given mem := by
    cases mem
    rw [Answer.ids, rowless]
    rfl

omit [Entity α] in
/-- A search for no words binds nothing. -/
private theorem params_listing (d : Dialect) : ∀ q ∈ a.listing r d, q.params = [] := by
  intro q mem
  unfold listing at mem
  split at mem
  · split at mem
    · cases mem
      exact Clause.params_query (Statement.steady_listing d r.table [] [] _)
    · cases mem
  · cases mem

omit [Entity α] in
private theorem one_le_most : 1 ≤ a.most r := by
  unfold most
  split
  · split
    · exact Nat.le_refl 1
    · split
      · exact Nat.le_refl 1
      · exact Nat.succ_le_succ (Nat.zero_le _)
  · exact Nat.le_refl 1

/-- A request that asks for one statement. -/
private theorem answered_single (reads : AsksOnce x (a.serve r x.answered) q read)
    (reading : Reading r a read) (listed : ∀ listed ∈ a.listing r x.dialect, q = listed) (s : S) :
    a.Answered r x.dialect (a.serve r x.answered (s, [])).1
      (a.serve r x.answered (s, [])).2.2 := by
  obtain ⟨result, asked⟩ := reads (s, [])
  rw [result, asked]
  refine ⟨List.cons_ne_nil _ _, one_le_most, ?_, ?_, ?_⟩
  · rw [mapError_failed_iff, reading.failed_iff]
    simp
  · intro rowless given mem
    rw [reading.missing _ (rowless _ List.mem_cons_self) given mem]
    rfl
  · intro q' mem
    refine ⟨?_, params_listing x.dialect q' mem⟩
    rw [← listed q' mem]
    rfl

/-- A request for all rows of a statement. -/
private theorem answered_fetch (f : List α → Given α)
    (serve : a.serve r x.answered = (x.answered.fetch q).map f)
    (misreads : ∀ answer, a.Misreads r answer = Misread (Row.Undecodable α) answer.rows)
    (nothing : a.nothing = some (f []))
    (listed : ∀ listed ∈ a.listing r x.dialect, q = listed) (s : S) :
    a.Answered r x.dialect (a.serve r x.answered (s, [])).1
      (a.serve r x.answered (s, [])).2.2 := by
  refine answered_single ?_ (reading_entities f misreads nothing) listed s
  rw [serve]
  exact (asks_fetch q).map f

/-- A request for the first row of a statement. -/
private theorem answered_first (serve : a.serve r x.answered = (x.answered.fetchFirst q).map .row)
    (misreads : ∀ answer, a.Misreads r answer = Misread (Row.Undecodable α) answer.rows)
    (nothing : a.nothing = some (.row (none : Option α)))
    (listed : ∀ listed ∈ a.listing r x.dialect, q = listed) (s : S) :
    a.Answered r x.dialect (a.serve r x.answered (s, [])).1
      (a.serve r x.answered (s, [])).2.2 := by
  refine answered_fetch (Given.row ∘ List.head?) ?_ misreads nothing listed s
  rw [serve, fetchFirst_eq_map, Fallible.map_map]

/-- A search by passes for some words. -/
private theorem answered_passes {query : String} {columns : Option (List String)} {o : Clauses}
    {fuzzy : Option String} (worded : Text.words query ≠ [])
    (some_column : columns.getD r.columns ≠ []) (strategy : r.strategy = .passes fuzzy) (s : S) :
    let a : Request := .perform (.search query columns o)
    a.Answered r x.dialect (a.serve r x.answered (s, [])).1
      (a.serve r x.answered (s, [])).2.2 := by
  intro a
  let limit := SearchRepository.effectiveLimit o.limit
  let offset := o.offset.getD 0
  let window := saturatingSum offset limit
  let page (rows : List α) : Given α := .rows ((rows.drop offset.toNat).take limit.toNat)
  let passes := r.runPasses x.answered (Text.words query) (columns.getD r.columns)
    { o with offset := none, limit := some window } window.toNat .nothing
    (SearchStrategy.passList fuzzy)
  have serve : a.serve r x.answered = Fallible.map page passes := by
    rw [Request.serve]
    simp only [SearchRepository.search, List.isEmpty_iff, worded, some_column, if_false, strategy,
      searchPasses_eq_map, Fallible.map_map]
    rfl
  obtain ⟨asked, log, passed⟩ : ∃ asked, (passes (s, [])).2.2 = [] ++ asked ∧
      Passed [] window.toNat (SearchStrategy.passList fuzzy) (passes (s, [])).1 asked :=
    runPasses_answered _ _ _ _
  have positive : 0 < window.toNat :=
    Operation.saturatingSum_pos offset (Operation.effectiveLimit_ne_zero o.limit)
  rw [serve, Fallible.map, log]
  refine ⟨passed.some_asked positive (List.cons_ne_nil _ _), ?_, ?_, ?_, ?_⟩
  · rw [most, if_neg worded, strategy]
    exact passed.within
  · rw [map_failed_iff, passed.failed_iff]
    simp [nothing, a, Misreads]
  · intro rowless given mem
    cases mem
    rw [passed.missing rowless]
    simp only [Except.map, page, List.drop_nil, List.take_nil]
  · intro q mem
    rw [listing, if_neg worded] at mem
    cases mem

/-- A search that is not refused. -/
private theorem answered_search {query : String} {columns : Option (List String)} {o : Clauses}
    (accepted : (perform (.search query columns o)).refusal r = none) (s : S) :
    let a : Request := .perform (.search query columns o)
    a.Answered r x.dialect (a.serve r x.answered (s, [])).1
      (a.serve r x.answered (s, [])).2.2 := by
  intro a
  rw [refusal] at accepted
  by_cases wordless : Text.words query = []
  · rw [if_pos wordless] at accepted
    have lenient : r.strict = false := by
      cases strict : r.strict with
      | false => rfl
      | true => simp [strict] at accepted
    let q := (Statement.search x.dialect r.table [] [] { o with
      limit := some (SearchRepository.effectiveLimit o.limit) } .listing).query
    refine answered_fetch (q := q) .rows ?_ (fun _ => rfl) rfl ?_ s
    · rw [Request.serve]
      simp only [SearchRepository.search, wordless, lenient]
      rfl
    · intro listed mem
      rw [listing, if_pos wordless] at mem
      exact Option.some.inj mem
  · rw [if_neg wordless] at accepted
    have some_column : columns.getD r.columns ≠ [] := by
      intro none_given
      simp [none_given] at accepted
    cases strategy : r.strategy with
    | passes fuzzy => exact answered_passes wordless some_column strategy s
    | ranked =>
      let q := (Statement.search x.dialect r.table (Text.words query) (columns.getD r.columns)
        { o with limit := some (SearchRepository.effectiveLimit o.limit) } .ranked).query
      refine answered_fetch (q := q) .rows ?_ (fun _ => rfl) rfl ?_ s
      · rw [Request.serve]
        simp only [SearchRepository.search, List.isEmpty_iff, wordless, some_column, if_false,
          strategy]
        rfl
      · intro listed mem
        rw [listing, if_neg wordless] at mem
        cases mem

/-- A request that is not refused. -/
private theorem answered_accepted (accepted : a.refusal r = none) (s : S) :
    a.Answered r x.dialect (a.serve r x.answered (s, [])).1
      (a.serve r x.answered (s, [])).2.2 := by
  have unlisted {a : Request} {q : Query} (h : a.listing r x.dialect = none) :
      ∀ listed ∈ a.listing r x.dialect, q = listed := by
    rw [h]
    intro listed mem
    cases mem
  cases a with
  | lookUp id columns => exact answered_first rfl (fun _ => rfl) rfl (unlisted rfl) s
  | perform a =>
    cases a with
    | find o => exact answered_fetch .rows rfl (fun _ => rfl) rfl (unlisted rfl) s
    | findOne o => exact answered_first rfl (fun _ => rfl) rfl (unlisted rfl) s
    | create fields columns =>
      cases fields with
      | none => cases accepted
      | some fields =>
        exact answered_single ((asks_create r.toRepository fields columns).map Given.created)
          (reading_create _ _) (unlisted rfl) s
    | update filter fields columns =>
      cases fields with
      | none => cases accepted
      | some fields => exact answered_fetch .rows rfl (fun _ => rfl) rfl (unlisted rfl) s
    | updateById id fields columns =>
      cases fields with
      | none => cases accepted
      | some fields => exact answered_first rfl (fun _ => rfl) rfl (unlisted rfl) s
    | search query columns o => exact answered_search accepted s
    | createMany item count columns =>
      cases item with
      | none => cases accepted
      | some fields =>
        have asks := asks_createMany (x := x) r.toBatchRepository fields count columns
        exact answered_single (asks.map Given.ids) (reading_createMany _ _ _) (unlisted rfl) s

/-- A request that is refused. -/
private theorem serve_refused {reason : Refusal} (refused : a.refusal r = some reason) (s : S) :
    (a.serve r x.answered (s, [])).1 = .error (.of (.invalidArguments reason)) ∧
      (a.serve r x.answered (s, [])).2.2 = [] := by
  cases a with
  | lookUp id columns => cases refused
  | perform a =>
    cases a with
    | find | findOne => cases refused
    | create fields columns | update filter fields columns | updateById id fields columns
    | createMany fields count columns =>
      cases fields with
      | none =>
        cases refused
        exact ⟨rfl, rfl⟩
      | some fields => cases refused
    | search query columns o =>
      rw [refusal] at refused
      by_cases wordless : Text.words query = []
      · rw [if_pos wordless] at refused
        cases strict : r.strict with
        | false => simp [strict] at refused
        | true =>
          simp only [strict, if_true, Option.some.injEq] at refused
          simp only [serve, SearchRepository.search, wordless, strict, ← refused]
          exact ⟨rfl, rfl⟩
      · rw [if_neg wordless] at refused
        by_cases columnless : columns.getD r.columns = []
        · simp only [columnless, if_true, Option.some.injEq] at refused
          simp only [serve, SearchRepository.search, List.isEmpty_iff, wordless, columnless,
            if_false, if_true, ← refused]
          exact ⟨rfl, rfl⟩
        · simp [columnless] at refused

/-- A request is refused for its arguments, and asks nothing then, exactly as `refusal` says. Any
other request asks for one statement, or for at most as many as a search for words has passes. It
fails exactly if an answer can not be read; that no row comes back is no failure, but for the
creation of a row. -/
theorem asks_one_statement (r : FullRepository α) (x : Executor S) (a : Request) (s : S) :
    let ended := a.serve r x.answered (s, [])
    (∀ reason, a.refusal r = some reason ↔
      ended.1 = .error (.of (.invalidArguments reason)) ∧ ended.2.2 = []) ∧
    (a.refusal r = none → a.Answered r x.dialect ended.1 ended.2.2) := by
  intro ended
  refine ⟨fun reason => ⟨fun refused => serve_refused refused s, ?_⟩,
    fun accepted => answered_accepted accepted s⟩
  rintro ⟨failed, nothing_asked⟩
  cases refused : a.refusal r with
  | none => exact absurd nothing_asked (answered_accepted refused s).some_asked
  | some other =>
    have failed' := (serve_refused (x := x) refused s).1
    have same : Failure.of (.invalidArguments other) = .of (.invalidArguments reason) :=
      Except.error.inj (failed'.symm.trans failed)
    cases same
    rfl

end Requests

end Request

end TableAccess
