import TableAccess.Proofs.Statement.Operations

/-!
What computations ask of a server.

An executor keeps the statements that it is given with their answers. One statement is asked for
its rows, or one after another until rows suffice; the value is read from the answers, and the
first answer that can not be read is the last one that is asked for.
-/

set_option autoImplicit false
set_option relaxedAutoImplicit false

namespace TableAccess

variable {S α β γ : Type}

/-- A statement, and what came of it. -/
structure Asked where
  query : Query
  answer : Answer

/-- The executor that also keeps the statements that it is given with their answers, the earliest
first. -/
def Executor.answered (x : Executor S) : Executor (S × List Asked) where
  dialect := x.dialect
  run q s :=
    let (answer, after) := x.run q s.1
    (answer, (after, s.2 ++ [⟨q, answer⟩]))
  report level text s := (x.report level text s.1, s.2)

/-- A computation whose value is put in another form. -/
def Fallible.map (f : α → β) (work : Fallible S α) : Fallible S β := fun s =>
  ((work s).1.map f, (work s).2)

theorem Fallible.map_map {f : α → β} {g : β → γ} {work : Fallible S α} :
    (work.map f).map g = work.map (g ∘ f) := by
  funext s
  simp only [Fallible.map]
  cases (work s).1 <;> rfl

/-! ### Answers -/

/-- What comes of a statement is a failure, or a row that can not be read. -/
def Misread (unreadable : Row → Prop) (items : List (Except Failure Row)) : Prop :=
  ∃ item ∈ items, match item with
    | .error _ => True
    | .ok row => unreadable row

theorem misread_nil {unreadable : Row → Prop} : ¬ Misread unreadable [] := by
  rintro ⟨item, mem, -⟩
  cases mem

theorem misread_cons {unreadable : Row → Prop} {item : Except Failure Row}
    {items : List (Except Failure Row)} :
    Misread unreadable (item :: items) ↔ (match item with
      | .error _ => True
      | .ok row => unreadable row) ∨ Misread unreadable items :=
  List.exists_mem_cons_iff _ _ _

/-- A row does not decode as an entity. -/
def Row.Undecodable (α : Type) [Entity α] (row : Row) : Prop :=
  ∃ f, (Entity.ofRow row : Except Failure α) = .error f

section Answers

variable [Entity α]

/-- Entities are read unless the statement fails or a row does not decode. -/
theorem Answer.entities_fails_iff (answer : Answer) :
    (∃ f, (answer.entities : Except Failure (List α)) = .error f) ↔
      Misread (Row.Undecodable α) answer.rows := by
  induction answer with
  | nil => simp only [entities, rows, misread_nil, reduceCtorEq, exists_false]
  | cons item answer ih =>
    match item with
    | .error f => simp [entities, rows, misread_cons]
    | .ok (.affected n) => exact ih
    | .ok (.row row) =>
      rw [rows, misread_cons, ← ih, entities]
      unfold Row.Undecodable
      cases decoded : (Entity.ofRow row : Except Failure α) with
      | error f => simp [decoded]
      | ok e =>
        cases (Answer.entities answer : Except Failure (List α)) with
        | error f => simp
        | ok es => simp [decoded]

/-- As many entities are read as there are rows. -/
theorem Answer.entities_length {answer : Answer} {es : List α}
    (read : answer.entities = .ok es) : es.length = answer.rows.length := by
  induction answer generalizing es with
  | nil =>
    cases read
    rfl
  | cons item answer ih =>
    match item with
    | .error f => cases read
    | .ok (.affected n) => exact ih read
    | .ok (.row row) =>
      rw [entities] at read
      cases decoded : (Entity.ofRow row : Except Failure α) with
      | error f =>
        rw [decoded] at read
        cases read
      | ok e =>
        rw [decoded] at read
        cases others : (Answer.entities answer : Except Failure (List α)) with
        | error f =>
          rw [others] at read
          cases read
        | ok es' =>
          rw [others] at read
          cases read
          exact congrArg (· + 1) (ih others)

end Answers

/-! ### One statement -/

/-- The work asks for one statement, and ends as the answer is read. -/
def AsksOnce (x : Executor S) (work : Fallible (S × List Asked) β) (q : Query)
    (read : Answer → Except Failure β) : Prop :=
  ∀ s, (work s).1 = (read (x.run q s.1).1).mapError (Failure.within q.activity) ∧
    (work s).2.2 = s.2 ++ [⟨q, (x.run q s.1).1⟩]

section Once

variable {x : Executor S} {q : Query} {work : Fallible (S × List Asked) β}
  {read : Answer → Except Failure β}

theorem AsksOnce.map (h : AsksOnce x work q read) (f : β → γ) :
    AsksOnce x (work.map f) q fun answer => (read answer).map f := by
  intro s
  obtain ⟨result, asked⟩ := h s
  refine ⟨?_, asked⟩
  simp only [Fallible.map, result]
  cases read (x.run q s.1).1 <;> rfl

variable [Entity α]

theorem asks_fetch (q : Query) :
    AsksOnce x (x.answered.fetch q) q (Answer.entities (α := α)) := by
  intro s
  simp only [Executor.fetch, Executor.answered]
  cases (Answer.entities (x.run q s.1).1 : Except Failure (List α)) <;> exact ⟨rfl, rfl⟩

theorem fetchFirst_eq_map (x : Executor S) (q : Query) :
    x.fetchFirst (α := α) q = (x.fetch q).map List.head? := by
  funext s
  simp only [Executor.fetchFirst, Fallible.map]
  cases x.fetch (α := α) q s with
  | mk result after => cases result <;> rfl

theorem asks_fetchFirst (q : Query) :
    AsksOnce x (x.answered.fetchFirst q) q fun answer =>
      (Answer.entities (α := α) answer).map List.head? := by
  rw [fetchFirst_eq_map]
  exact (asks_fetch q).map List.head?

/-- The row that has been created, which is the first one. -/
def createdRow : Option α → Except Failure α
  | some e => .ok e
  | none => .error (.of .noInsertedRow)

theorem asks_create (r : Repository α) (fields : Fields)
    (columns : Option (List String)) :
    AsksOnce x (r.create x.answered (some fields) columns)
      (Statement.insert r.table fields { returning := columns }).query
      fun answer => (answer.entities.map List.head?).bind createdRow := by
  intro s
  simp only [Repository.create]
  generalize (Statement.insert r.table fields { returning := columns }).query = q
  obtain ⟨result, asked⟩ := asks_fetchFirst (α := α) (x := x) q s
  cases ran : x.answered.fetchFirst (α := α) q s with
  | mk first after =>
    rw [ran] at result asked
    beta_reduce at result
    generalize (Answer.entities (α := α) (x.run q s.1).1).map List.head? = read at result ⊢
    obtain rfl : first = read.mapError (Failure.within q.activity) := result
    cases read with
    | error f => exact ⟨rfl, asked⟩
    | ok e => cases e <;> exact ⟨rfl, asked⟩

omit [Entity α] in
theorem asks_createMany (r : BatchRepository α) (fields : Fields) (count : UInt64)
    (columns : Option (List String)) :
    AsksOnce x (r.createMany x.answered (some fields) count columns)
      (Statement.insertMultiple x.dialect r.table (r.arguments fields) count columns).query
      (Answer.ids (Statement.insertMultipleFunction r.table)) := by
  intro s
  simp only [BatchRepository.createMany, Executor.answered]
  generalize (Statement.insertMultiple x.dialect r.table (r.arguments fields) count
    columns).query = q
  cases Answer.ids (Statement.insertMultipleFunction r.table) (x.run q s.1).1 <;>
    exact ⟨rfl, rfl⟩

end Once

/-! ### One statement after another -/

/-- What passes come to after rows that have been found, and what they ask for. -/
structure Passed [Entity α] (found : List α) (wanted : Nat) (passes : List SearchPass)
    (result : Except Failure (List α)) (asked : List Asked) : Prop where
  within : asked.length ≤ passes.length
  some_asked : found.length < wanted → passes ≠ [] → asked ≠ []
  failed_iff : (∃ f, result = .error f) ↔
    ∃ e ∈ asked, Misread (Row.Undecodable α) e.answer.rows
  missing : (∀ e ∈ asked, e.answer.rows = []) → result = .ok found

section Passes

variable [Entity α] {x : Executor S} {r : SearchRepository α} {found : Found α} {wanted : Nat}
  {pass : SearchPass} {passes : List SearchPass} {answer : Answer} {q : Query}
  {asked : List Asked}

private theorem passed_nothing (enough : passes ≠ [] → wanted ≤ found.rows.length) :
    Passed found.rows wanted passes (.ok found.rows) [] where
  within := Nat.zero_le _
  some_asked few some_pass := absurd (enough some_pass) (Nat.not_le_of_lt few)
  failed_iff := by simp
  missing _ := rfl

/-- A pass whose answer can not be read is the last one. -/
private theorem passed_failure {f : Failure}
    (unread : (answer.entities : Except Failure (List α)) = .error f) (g : Failure) :
    Passed found.rows wanted (pass :: passes) (.error g) [⟨q, answer⟩] where
  within := Nat.succ_le_succ (Nat.zero_le _)
  some_asked _ _ := List.cons_ne_nil _ _
  failed_iff := by
    have misread := (Answer.entities_fails_iff answer).mp ⟨f, unread⟩
    exact ⟨fun _ => ⟨_, List.mem_cons_self, misread⟩, fun _ => ⟨g, rfl⟩⟩
  missing rowless := by
    have misread := (Answer.entities_fails_iff answer).mp ⟨f, unread⟩
    rw [rowless _ List.mem_cons_self] at misread
    exact absurd misread misread_nil

/-- A pass whose answer is read adds its rows to what the others find. -/
private theorem Passed.cons {rows : List α} {result : Except Failure (List α)}
    (read : answer.entities = .ok rows)
    (others : Passed (found.addAll wanted rows).rows wanted passes result asked) :
    Passed found.rows wanted (pass :: passes) result (⟨q, answer⟩ :: asked) where
  within := Nat.succ_le_succ others.within
  some_asked _ _ := List.cons_ne_nil _ _
  failed_iff := by
    have fine : ¬ Misread (Row.Undecodable α) answer.rows := by
      rw [← Answer.entities_fails_iff, read]
      rintro ⟨f, failed⟩
      cases failed
    rw [others.failed_iff, List.exists_mem_cons_iff]
    exact ⟨.inr, fun misread => misread.resolve_left fine⟩
  missing rowless := by
    obtain ⟨none_here, none_later⟩ := List.forall_mem_cons.mp rowless
    have nothing : rows = [] := by
      have count := Answer.entities_length read
      rw [none_here] at count
      exact List.length_eq_zero_iff.mp count
    have result := others.missing none_later
    rw [nothing] at result
    exact result

theorem runPasses_answered (words columns : List String) (o : Clauses)
    (s : S × List Asked) :
    ∃ asked, (r.runPasses x.answered words columns o wanted found passes s).2.2 = s.2 ++ asked ∧
      Passed found.rows wanted passes
        (r.runPasses x.answered words columns o wanted found passes s).1 asked := by
  -- What has been found may be anything, so that each pass can hand its own to the others.
  induction passes generalizing found s with
  | nil => exact ⟨[], (List.append_nil _).symm, passed_nothing fun h => absurd rfl h⟩
  | cons pass passes ih =>
    rw [SearchRepository.runPasses]
    by_cases enough : wanted ≤ found.rows.length
    · rw [if_pos enough]
      exact ⟨[], (List.append_nil _).symm, passed_nothing fun _ => enough⟩
    · rw [if_neg enough, SearchRepository.runPass]
      generalize (Statement.search x.answered.dialect r.table words columns o pass).query = q
      obtain ⟨result, sent⟩ := asks_fetch (α := α) (x := x) q s
      cases ran : x.answered.fetch (α := α) q s with
      | mk ended after =>
        rw [ran] at result sent
        cases read : (Answer.entities (x.run q s.1).1 : Except Failure (List α)) with
        | error f =>
          rw [read] at result
          obtain rfl : ended = .error (f.within q.activity) := result
          exact ⟨_, sent, passed_failure read _⟩
        | ok rows =>
          rw [read] at result
          obtain rfl : ended = .ok rows := result
          obtain ⟨asked, log, others⟩ := @ih (found.addAll wanted rows) after
          refine ⟨⟨q, (x.run q s.1).1⟩ :: asked, ?_, others.cons read⟩
          rw [log, sent, List.append_assoc]
          rfl

theorem searchPasses_eq_map {r : SearchRepository α} (words columns : List String)
    (o : Clauses) (offset limit : UInt64) (passes : List SearchPass) :
    r.searchPasses x words columns o offset limit passes =
      Fallible.map (fun rows => (rows.drop offset.toNat).take limit.toNat)
        (r.runPasses x words columns
          { o with offset := none, limit := some (saturatingSum offset limit) }
          (saturatingSum offset limit).toNat .nothing passes) := by
  funext s
  simp only [SearchRepository.searchPasses, Fallible.map]
  generalize r.runPasses x words columns _ _ _ passes s = ended
  obtain ⟨result, after⟩ := ended
  cases result <;> rfl

end Passes

end TableAccess
