import TableAccess.Proofs.Number.Integers
import TableAccess.Proofs.Repository.Asking

/-!
Answers as streams.

An answer is a stream of rows, counts and failures in any order. Whoever reads entities from it
passes over the counts and stops at the first item that is a failure or a row that does not decode;
whoever counts passes over the rows and stops at the first failure. What comes behind that item does
not matter.
-/

set_option autoImplicit false
set_option relaxedAutoImplicit false

namespace TableAccess

variable {S α : Type}

namespace Answer

/-- The rows among the items of an answer, in order. -/
def held (answer : Answer) : List Row :=
  answer.filterMap fun
    | .ok (.row row) => some row
    | _ => none

/-- The counts among the items of an answer, in order. -/
def counts (answer : Answer) : List UInt64 :=
  answer.filterMap fun
    | .ok (.affected n) => some n
    | _ => none

/-- The counts in front of the first failure of an answer. -/
def counted (answer : Answer) : List UInt64 := counts (answer.takeWhile Except.isOk)

/-- Counts added up as numbers that never wrap around. -/
def total : List UInt64 → Nat
  | [] => 0
  | n :: ns => n.toNat + total ns

/-- Counts added up as words. -/
def wordSum : List UInt64 → UInt64
  | [] => 0
  | n :: ns => n + wordSum ns

/-- No item of the answer is a failure. -/
def Errorless (answer : Answer) : Prop := ∀ f, .error f ∉ answer

theorem errorless_nil : Errorless [] := fun _ => List.not_mem_nil

theorem errorless_ok_cons {reply : Reply} {answer : Answer} :
    Errorless (.ok reply :: answer) ↔ answer.Errorless := by
  refine forall_congr' fun f => not_congr ?_
  rw [List.mem_cons, or_iff_right (by rintro ⟨⟩)]

theorem not_errorless_error_cons {f : Failure} {answer : Answer} :
    ¬ Errorless (.error f :: answer) :=
  fun errorless => errorless f List.mem_cons_self

/-! ### Counts -/

/-- Counts are added up where no item is a failure. -/
theorem affectedFrom_eq_ok_iff {sum n : UInt64} {answer : Answer} :
    answer.affectedFrom sum = .ok n ↔ answer.Errorless ∧ n = sum + wordSum answer.counts := by
  induction answer generalizing sum with
  | nil =>
    have nothing : sum + wordSum (counts []) = sum := UInt64.add_zero sum
    rw [affectedFrom, Except.ok.injEq, nothing, and_iff_right errorless_nil]
    exact eq_comm
  | cons item answer ih =>
    match item with
    | .error f =>
      exact iff_of_false (by rintro ⟨⟩) fun h => not_errorless_error_cons h.1
    | .ok (.row row) =>
      rw [errorless_ok_cons]
      exact ih
    | .ok (.affected m) =>
      have front : counts (.ok (.affected m) :: answer) = m :: counts answer := rfl
      rw [affectedFrom, errorless_ok_cons, front, wordSum, ← UInt64.add_assoc]
      exact ih

/-- The first failure ends the counting. -/
theorem affectedFrom_eq_error_iff {sum : UInt64} {answer : Answer} {f : Failure} :
    answer.affectedFrom sum = .error f ↔
      ∃ before after, answer = before ++ .error f :: after ∧ Errorless before := by
  constructor
  · intro failed
    induction answer generalizing sum with
    | nil => cases failed
    | cons item answer ih =>
      match item with
      | .error g =>
        cases failed
        exact ⟨[], answer, rfl, errorless_nil⟩
      | .ok reply =>
        obtain ⟨later, failed⟩ : ∃ sum, affectedFrom sum answer = .error f := by
          match reply with
          | .row row => exact ⟨sum, failed⟩
          | .affected n => exact ⟨sum + n, failed⟩
        obtain ⟨before, after, rfl, errorless⟩ := ih failed
        exact ⟨.ok reply :: before, after, rfl, errorless_ok_cons.mpr errorless⟩
  · rintro ⟨before, after, rfl, errorless⟩
    induction before generalizing sum with
    | nil => rfl
    | cons item before ih =>
      match item with
      | .error g => exact absurd errorless not_errorless_error_cons
      | .ok (.row row) => exact ih (errorless_ok_cons.mp errorless)
      | .ok (.affected n) => exact ih (errorless_ok_cons.mp errorless)

theorem affected_eq_ok_iff {n : UInt64} {answer : Answer} :
    answer.affected = .ok n ↔ answer.Errorless ∧ n = wordSum answer.counts := by
  rw [affected, affectedFrom_eq_ok_iff, UInt64.zero_add]

/-- A sum of words is the low part of the sum of their numbers. -/
theorem toNat_wordSum (ns : List UInt64) : (wordSum ns).toNat = total ns % 2 ^ 64 := by
  induction ns with
  | nil => rfl
  | cons n ns ih =>
    rw [wordSum, UInt64.toNat_add, ih, Nat.add_mod_mod, total]

/-- Where sums are checked, the program stops exactly if the counts in front of the first failure
come to more than a word has room for. Otherwise it makes no difference. -/
theorem affectedCheckedFrom_eq (sum : UInt64) (answer : Answer) :
    answer.affectedCheckedFrom sum =
      if sum.toNat + total answer.counted < 2 ^ 64 then .ok (answer.affectedFrom sum)
      else .error (.beyondWord .tooLarge) := by
  induction answer generalizing sum with
  | nil => exact (if_pos sum.toNat_lt).symm
  | cons item answer ih =>
    match item with
    | .error f => exact (if_pos sum.toNat_lt).symm
    | .ok (.row row) => exact ih sum
    | .ok (.affected n) =>
      have front : total (counted (.ok (.affected n) :: answer)) =
          n.toNat + total (counted answer) := rfl
      rw [affectedCheckedFrom, affectedFrom, front, ← Nat.add_assoc]
      by_cases fits : sum.toNat + n.toNat < 2 ^ 64
      · have within : (IntegerRange.unsigned 64).Contains (sum.toNat + n.toNat) := by
          simp only [IntegerRange.Contains, IntegerRange.unsigned]
          omega
        have added : (sum + n).toNat = sum.toNat + n.toNat := by
          rw [UInt64.toNat_add, Nat.mod_eq_of_lt fits]
        rw [Fault.word_of_contains within, Fault.ok_bind, ih, added]
      · have above : (IntegerRange.unsigned 64).high < sum.toNat + n.toNat := by
          simp only [IntegerRange.unsigned]
          omega
        have stopped : Fault.word (.unsigned 64) (sum.toNat + n.toNat) =
            .error (.beyondWord .tooLarge) := by
          rw [Fault.word, IntegerRange.check_of_high_lt above]
          rfl
        rw [stopped, if_neg (by omega)]
        rfl

theorem affectedChecked_eq (answer : Answer) :
    answer.affectedChecked = if total answer.counted < 2 ^ 64 then .ok answer.affected
      else .error (.beyondWord .tooLarge) := by
  have start := affectedCheckedFrom_eq 0 answer
  rwa [UInt64.toNat_zero, Nat.zero_add] at start

/-! ### Entities -/

section Entities

variable (α) [Entity α]

/-- Why no entity can be read from an item: the statement fails, or the row does not decode. -/
def unread : Except Failure Reply → Option Failure
  | .error f => some f
  | .ok (.affected _) => none
  | .ok (.row row) =>
    match (Entity.ofRow row : Except Failure α) with
    | .error f => some f
    | .ok _ => none

/-- The first item that can not be read decides the failure. -/
theorem entities_eq_error_iff {answer : Answer} {f : Failure} :
    (answer.entities : Except Failure (List α)) = .error f ↔
      ∃ before item after, answer = before ++ item :: after ∧ unread α item = some f ∧
        ∀ i ∈ before, unread α i = none := by
  have first : (answer.entities : Except Failure (List α)) = .error f ↔
      answer.findSome? (unread α) = some f := by
    induction answer with
    | nil => exact iff_of_false (by rintro ⟨⟩) (by rintro ⟨⟩)
    | cons item answer ih =>
      rw [List.findSome?_cons]
      match item with
      | .error g =>
        show Except.error g = .error f ↔ some g = some f
        rw [Except.error.injEq, Option.some.injEq]
      | .ok (.affected n) => exact ih
      | .ok (.row row) =>
        rw [entities, unread]
        cases decoded : (Entity.ofRow row : Except Failure α) with
        | error g =>
          show Except.error g = .error f ↔ some g = some f
          rw [Except.error.injEq, Option.some.injEq]
        | ok e =>
          rw [← ih]
          cases (Answer.entities answer : Except Failure (List α)) with
          | error g => exact Iff.rfl
          | ok es => exact iff_of_false (by rintro ⟨⟩) (by rintro ⟨⟩)
  rw [first, List.findSome?_eq_some_iff]

variable {α}

/-- Entities are the decodings of the rows in order, where no item is a failure. -/
theorem entities_eq_ok_iff {answer : Answer} {es : List α} :
    answer.entities = .ok es ↔ answer.Errorless ∧
      List.Forall₂ (fun row e => Entity.ofRow row = .ok e) answer.held es := by
  induction answer generalizing es with
  | nil =>
    show Except.ok [] = .ok es ↔ Errorless [] ∧ List.Forall₂ _ [] es
    rw [and_iff_right errorless_nil, List.forall₂_nil_left_iff, Except.ok.injEq]
    exact eq_comm
  | cons item answer ih =>
    match item with
    | .error f =>
      exact iff_of_false (by rintro ⟨⟩) fun h => not_errorless_error_cons h.1
    | .ok (.affected n) =>
      rw [errorless_ok_cons]
      exact ih
    | .ok (.row row) =>
      have rows : held (.ok (.row row) :: answer) = row :: held answer := rfl
      rw [entities, errorless_ok_cons, rows, List.forall₂_cons_left_iff]
      cases decoded : (Entity.ofRow row : Except Failure α) with
      | error f =>
        refine iff_of_false (by rintro ⟨⟩) ?_
        rintro ⟨-, e, es', ⟨⟩, -⟩
      | ok e =>
        cases others : (Answer.entities answer : Except Failure (List α)) with
        | error f =>
          refine iff_of_false (by rintro ⟨⟩) ?_
          rintro ⟨errorless, -, es', -, rest, -⟩
          rw [ih.mpr ⟨errorless, rest⟩] at others
          cases others
        | ok es' =>
          obtain ⟨errorless, rest⟩ := ih.mp others
          constructor
          · rintro ⟨⟩
            exact ⟨errorless, e, es', rfl, rest, rfl⟩
          · rintro ⟨-, e', es'', ⟨⟩, rest', rfl⟩
            have later := ih.mpr ⟨errorless, rest'⟩
            rw [others] at later
            cases later
            rfl

/-- There are entities for rows exactly if each of the rows decodes. -/
theorem exists_decodings {rows : List Row} :
    (∃ es : List α, List.Forall₂ (fun row e => Entity.ofRow row = .ok e) rows es) ↔
      ∀ row ∈ rows, ∃ e : α, Entity.ofRow row = .ok e := by
  induction rows with
  | nil => exact iff_of_true ⟨[], .nil⟩ fun _ impossible => nomatch impossible
  | cons row rows ih =>
    rw [List.forall_mem_cons, ← ih]
    constructor
    · rintro ⟨es, decoded⟩
      obtain ⟨e, es, first, others, rfl⟩ := List.forall₂_cons_left_iff.mp decoded
      exact ⟨⟨e, first⟩, es, others⟩
    · rintro ⟨⟨e, first⟩, es, others⟩
      exact ⟨e :: es, .cons first others⟩

end Entities

end Answer

/-! ### Operations -/

namespace Executor

variable [Entity α]

private theorem fetch_fst (x : Executor S) (q : Query) (s : S) :
    (x.fetch (α := α) q s).1 = (x.run q s).1.entities.mapError (Failure.within q.activity) := by
  simp only [fetch]
  cases (Answer.entities (x.run q s).1 : Except Failure (List α)) <;> rfl

/-- A value comes of what is read without its context, and a failure within it. -/
private theorem mapError_eq_ok_iff {β : Type} {f : Failure → Failure} {read : Except Failure β}
    {b : β} : read.mapError f = .ok b ↔ read = .ok b := by
  cases read with
  | ok b' => exact Iff.rfl
  | error g => exact iff_of_false (by rintro ⟨⟩) (by rintro ⟨⟩)

private theorem mapError_eq_error_iff {β : Type} {f : Failure → Failure} {read : Except Failure β}
    {g : Failure} : read.mapError f = .error g ↔ ∃ e, read = .error e ∧ f e = g := by
  cases read with
  | ok b => exact iff_of_false (by rintro ⟨⟩) (by rintro ⟨e, ⟨⟩, -⟩)
  | error e =>
    show Except.error (f e) = .error g ↔ _
    simp only [Except.error.injEq, exists_eq_left']

end Executor

namespace Repository

variable [Entity α] (r : Repository α) (x : Executor S)

private theorem create_fst (fields : Fields) (columns : Option (List String)) (s : S) :
    let q := (Statement.insert r.table fields { returning := columns }).query
    (r.create x (some fields) columns s).1 = (x.fetch q s).1.bind fun es =>
      match es.head? with
      | some e => .ok e
      | none => .error ⟨[.query q.sql], .noInsertedRow⟩ := by
  intro q
  simp only [create, fetchFirst_eq_map, Fallible.map]
  obtain ⟨fetched, after⟩ := x.fetch (α := α) q s
  cases fetched with
  | error f => rfl
  | ok es => cases es <;> rfl

/-- What comes of one statement is decided by the items of its answer in order. Its entities are the
decodings of the rows, and its count is the sum of the counts as words; the first item that can not
be read is the failure, and where entities are read, the excerpt of the statement stands in front of
what it says. A sum that leaves its word wraps around, and where sums are checked, stops the program
instead. The operations that give one entity give the first one of their statement. -/
theorem stream_order_first_failure (q : Query) (s : S) :
    let answer := (x.run q s).1
    ((∃ es : List α, (x.fetch q s).1 = .ok es) ↔ answer.Errorless ∧ ∀ row ∈ answer.held,
      ∃ e : α, Entity.ofRow row = .ok e) ∧
    (∀ es : List α, (x.fetch q s).1 = .ok es ↔
      answer.Errorless ∧ List.Forall₂ (fun row e => Entity.ofRow row = .ok e) answer.held es) ∧
    (∀ g, (x.fetch (α := α) q s).1 = .error g ↔
      ∃ before item after f, answer = before ++ item :: after ∧
        Answer.unread α item = some f ∧ (∀ i ∈ before, Answer.unread α i = none) ∧
        g = ⟨.query q.sql :: f.activities, f.cause⟩) ∧
    (∀ f : Failure, Failure.chain ⟨.query q.sql :: f.activities, f.cause⟩ =
      ("While running the query:\n" ++ Text.excerpt q.sql) :: f.chain) ∧
    (∀ n, (x.execute q s).1 = .ok n ↔ answer.Errorless ∧ n = Answer.wordSum answer.counts) ∧
    (Answer.total answer.counts < 2 ^ 64 → ∀ n, (x.execute q s).1 = .ok n ↔
      answer.Errorless ∧ n.toNat = Answer.total answer.counts) ∧
    (Answer.wordSum answer.counts).toNat = Answer.total answer.counts % 2 ^ 64 ∧
    (answer.affectedChecked = if Answer.total answer.counted < 2 ^ 64 then .ok (x.execute q s).1
      else .error (.beyondWord .tooLarge)) ∧
    (∀ f, (x.execute q s).1 = .error f ↔
      ∃ before after, answer = before ++ .error f :: after ∧ Answer.Errorless before) ∧
    (∀ o, r.findOne x o = (x.fetch (Statement.select x.dialect r.table
      { o with limit := some 1 }).query).map List.head?) ∧
    (∀ id columns, r.findById x id columns = (x.fetch (Statement.select x.dialect r.table
      { select := columns, filter := some (.withId id), limit := some 1 }).query).map
        List.head?) ∧
    (∀ id fields columns, r.updateById x id (some fields) columns =
      (x.fetch (Statement.update x.dialect r.table fields
        { filter := some (.withId id), returning := columns }).query).map List.head?) ∧
    ∀ fields columns,
      let q := (Statement.insert r.table fields { returning := columns }).query
      (r.create x (some fields) columns s).1 = (x.fetch q s).1.bind fun es =>
        match es.head? with
        | some e => .ok e
        | none => .error ⟨[.query q.sql], .noInsertedRow⟩ := by
  intro answer
  have read (es : List α) : (x.fetch q s).1 = .ok es ↔ answer.Errorless ∧
      List.Forall₂ (fun row e => Entity.ofRow row = .ok e) answer.held es := by
    rw [Executor.fetch_fst, Executor.mapError_eq_ok_iff]
    exact Answer.entities_eq_ok_iff
  have counted (n : UInt64) : (x.execute q s).1 = .ok n ↔
      answer.Errorless ∧ n = Answer.wordSum answer.counts := Answer.affected_eq_ok_iff
  have low := Answer.toNat_wordSum answer.counts
  refine ⟨?_, read, fun g => ?_, fun f => f.chain_within (.query q.sql), counted,
    fun fits n => ?_, low, Answer.affectedChecked_eq answer,
    fun f => Answer.affectedFrom_eq_error_iff,
    fun o => fetchFirst_eq_map x _, fun id columns => fetchFirst_eq_map x _,
    fun id fields columns => fetchFirst_eq_map x _,
    fun fields columns => create_fst r x fields columns s⟩
  · rw [← Answer.exists_decodings, ← exists_and_left]
    exact exists_congr read
  · rw [Executor.fetch_fst, Executor.mapError_eq_error_iff]
    constructor
    · rintro ⟨f, failed, rfl⟩
      obtain ⟨before, item, after, split, why, fine⟩ := (Answer.entities_eq_error_iff α).mp failed
      exact ⟨before, item, after, f, split, why, fine, rfl⟩
    · rintro ⟨before, item, after, f, split, why, fine, rfl⟩
      have failed := (Answer.entities_eq_error_iff α).mpr ⟨before, item, after, split, why, fine⟩
      exact ⟨f, failed, rfl⟩
  · rw [Nat.mod_eq_of_lt fits] at low
    rw [counted, ← low, UInt64.toNat_inj]

/-- An executor that gives the same answer to every statement. -/
def giving (answer : Answer) : Executor Unit where
  dialect := .generic
  run _ s := (answer, s)
  report _ _ s := s

/-- The largest count is a sum by itself. With a further one it wraps around, or stops the
program. -/
theorem largest_count_in_order :
    let largest : Answer := [.ok (.row ⟨[]⟩), .ok (.affected 18446744073709551615)]
    let beyond : Answer := largest ++ [.ok (.affected 1)]
    Answer.total largest.counts < 2 ^ 64 ∧
      ((giving largest).execute (.plain "DELETE FROM t") ()).1 = .ok 18446744073709551615 ∧
      ((giving beyond).execute (.plain "DELETE FROM t") ()).1 = .ok 0 ∧
      beyond.affectedChecked = .error (.beyondWord .tooLarge) := by
  intro largest beyond
  have ordered (answer : Answer) := stream_order_first_failure (α := Row) ⟨⟨"public", "t"⟩⟩
    (giving answer) (.plain "DELETE FROM t") ()
  obtain ⟨-, -, -, -, -, counted, -⟩ := ordered largest
  obtain ⟨-, -, -, -, wrapped, -, -, checked, -⟩ := ordered beyond
  have errorless : largest.Errorless :=
    Answer.errorless_ok_cons.mpr (Answer.errorless_ok_cons.mpr Answer.errorless_nil)
  have errorless' : beyond.Errorless := Answer.errorless_ok_cons.mpr
    (Answer.errorless_ok_cons.mpr (Answer.errorless_ok_cons.mpr Answer.errorless_nil))
  have fits : Answer.total largest.counts < 2 ^ 64 := by decide
  have leaves : ¬ Answer.total beyond.counted < 2 ^ 64 := by decide
  exact ⟨fits, (counted fits _).mpr ⟨errorless, by decide⟩,
    (wrapped 0).mpr ⟨errorless', by decide⟩, checked.trans (if_neg leaves)⟩

end Repository

end TableAccess
