import TableAccess.Proofs.Transaction.Course
import TableAccess.Proofs.Transaction.Noting

/-!
Works of which no statement fails. Whether the units within them nest by savepoints or not, they
follow their course, in a transaction that is open already or in one around them.
-/

set_option autoImplicit false
set_option relaxedAutoImplicit false

namespace TableAccess

open Reference (Result Work)

variable {σ κ : Type} {b : Backend σ κ} {schema : Option String} {useSavepoints : Bool} {k : κ}
  {s : Session (Logged (Noted σ) κ) κ}
  {work part rest : Action (Session (Logged (Noted σ) κ) κ) (List Query)}

/-! ### Runs in which nothing fails -/

/-- The exchange is no statement that failed. -/
def Exchange.succeeded : Exchange κ → Bool
  | .ran _ _ succeeded => succeeded
  | .acquired _ | .returned _ _ => true

/-- No statement of a trace failed. -/
def Smooth (trace : List (Exchange κ)) : Prop := ∀ e ∈ trace, e.succeeded = true

instance (trace : List (Exchange κ)) : Decidable (Smooth trace) :=
  inferInstanceAs (Decidable (∀ e ∈ trace, e.succeeded = true))

theorem smooth_append {trace more : List (Exchange κ)} :
    Smooth (trace ++ more) ↔ Smooth trace ∧ Smooth more :=
  List.forall_mem_append

theorem smooth_cons {e : Exchange κ} {trace : List (Exchange κ)} :
    Smooth (e :: trace) ↔ e.succeeded = true ∧ Smooth trace :=
  List.forall_mem_cons

/-- Statements that succeeded on a connection. -/
def sentOn (k : κ) (statements : List Query) : List (Exchange κ) :=
  statements.map fun q => .ran k q true

/-- How work ends that has a result. -/
def Outcome.of {α : Type} : Except Failure α → Outcome α
  | .ok x => .done x
  | .error f => .failed f

/-- Work that has not been abandoned has ended with a result. -/
theorem Outcome.Ended.exists_result {α : Type} {outcome : Outcome α} (ended : outcome.Ended) :
    ∃ x, outcome = .of x := by
  cases outcome with
  | done found => exact ⟨.ok found, rfl⟩
  | failed f => exact ⟨.error f, rfl⟩
  | abandoned why => exact ended.elim

theorem Outcome.of_injective {α : Type} {x y : Except Failure α} (h : Outcome.of x = .of y) :
    x = y := by
  cases x <;> cases y <;> cases h <;> rfl

/-- What has run from a session on has ended with a result, noted some others, and left a trace
of statements that succeeded. -/
structure Went (s : Session (Logged (Noted σ) κ) κ) (k : κ) (x : Result) (results : List Result)
    (statements : List Query) (trace : List (Exchange κ))
    (ended : Outcome (List Query) × Session (Logged (Noted σ) κ) κ) : Prop where
  outcome : ended.1 = .of x
  results : ended.2.results = s.results ++ results
  trace : trace = sentOn k statements

/-- On every started client on which none of its statements fails, the work ends with a result,
notes some others, and sends statements that depend on the depth of the client. -/
def HasCourse (k : κ) (work : Action (Session (Logged (Noted σ) κ) κ) (List Query)) (x : Result)
    (results : List Result) (statements : Nat → List Query) : Prop :=
  ∀ s : Session (Logged (Noted σ) κ) κ, s.Started k → ∀ trace,
    (work s).2.log = s.log ++ trace → Smooth trace →
      Went s k x results (statements s.client.depth) trace (work s)

section Pieces

variable {x y : Result} {results more : List Result} {statements others : Nat → List Query}

private theorem course_done (kept : List Query) :
    HasCourse (σ := σ) k (.done kept) (.ok kept) [] fun _ => [] := by
  intro s _ trace log _
  have nothing : trace = [] := List.self_eq_append_right.mp log
  exact ⟨rfl, (List.append_nil _).symm, nothing⟩

private theorem course_fail (f : Failure) :
    HasCourse (σ := σ) k (.fail f) (.error f) [] fun _ => [] := by
  intro s _ trace log _
  have nothing : trace = [] := List.self_eq_append_right.mp log
  exact ⟨rfl, (List.append_nil _).symm, nothing⟩

private theorem course_write (b : Backend σ κ) (w : Reference.Write) :
    HasCourse k (Work.runWrite b.noting.logged w) (.ok [w.query]) [] fun _ => [w.query] := by
  intro s h trace log smooth
  have same := Session.results_execute b s w.query
  rcases Session.execute_logged (b := b.noting) h.held w.query with ⟨f, after, run, sent⟩ |
    ⟨n, after, run, sent⟩
  · have failed : Work.runWrite b.noting.logged w s = (.failed f, after) := by
      simp only [Work.runWrite, Action.andThen, Action.ofFallible, run]
    rw [failed, sent.log] at log
    obtain rfl := List.append_cancel_left log
    exact absurd (smooth _ List.mem_cons_self) Bool.false_ne_true
  · have succeeded : Work.runWrite b.noting.logged w s = (.done [w.query], after) := by
      simp only [Work.runWrite, Action.andThen, Action.ofFallible, run, Action.done]
    rw [run] at same
    rw [succeeded, sent.log] at log
    rw [succeeded]
    exact ⟨rfl, same.trans (List.append_nil _).symm, (List.append_cancel_left log).symm⟩

/-- What is left of a work after a part that has ended with a result. -/
private theorem HasCourse.resumed (tolerated : Bool) (x : Result) (keeps : Keeps k rest)
    (further : HasCourse k rest y more others) :
    HasCourse k (Work.resume tolerated rest x) (Work.resumed tolerated x y)
      (if Work.goesOn tolerated x then more else [])
      fun depth => if Work.goesOn tolerated x then others depth else [] := by
  cases x with
  | error f =>
    cases tolerated with
    | true => exact further
    | false => exact course_fail f
  | ok kept =>
    intro s h trace log smooth
    have whole := keeps s h
    have went := further s h trace
    cases ended : rest s with
    | mk outcome after =>
      rw [ended] at whole went
      obtain ⟨found, rfl⟩ := whole.ended.exists_result
      simp only [Work.resume, Action.andThen, ended] at log ⊢
      cases found with
      | ok found =>
        obtain ⟨outcome, results, sent⟩ := went log smooth
        obtain rfl : .ok found = y := Outcome.of_injective outcome
        exact ⟨rfl, results, sent⟩
      | error f =>
        obtain ⟨outcome, results, sent⟩ := went log smooth
        obtain rfl : .error f = y := Outcome.of_injective outcome
        exact ⟨rfl, results, sent⟩

/-- A part of a work and what is left of it after that. -/
private theorem HasCourse.andResume (tolerated : Bool) (keeps : Keeps k part)
    (first : HasCourse k part x results statements) (keepsRest : Keeps k rest)
    (further : HasCourse k rest y more others) :
    HasCourse k (part.attempt.andThen (Work.resume tolerated rest)) (Work.resumed tolerated x y)
      (results ++ if Work.goesOn tolerated x then more else [])
      fun depth => statements depth ++ if Work.goesOn tolerated x then others depth else [] := by
  intro s h trace log smooth
  have kept := keeps s h
  obtain ⟨trace', upto, -⟩ := kept.log
  cases ended : part s with
  | mk outcome after =>
    rw [ended] at kept upto
    -- A part that has not been abandoned has ended with some result, and this is the expected one.
    obtain ⟨x', rfl⟩ := kept.ended.exists_result
    have resumed : part.attempt.andThen (Work.resume tolerated rest) s =
        Work.resume tolerated rest x' after := by
      cases x' with
      | ok found => simp only [Action.andThen, Action.attempt, ended, Outcome.of]
      | error f => simp only [Action.andThen, Action.attempt, ended, Outcome.of]
    have still : after.Started k := h.same kept.client
    obtain ⟨trace'', log', -⟩ := (keepsRest.resume tolerated x' after still).log
    rw [resumed] at log ⊢
    have split : trace = trace' ++ trace'' := by
      rw [log', upto, List.append_assoc] at log
      exact (List.append_cancel_left log).symm
    rw [split] at smooth
    obtain ⟨smooth', smooth''⟩ := smooth_append.mp smooth
    have went := first s h trace'
    rw [ended] at went
    obtain ⟨outcome, noted, sent⟩ := went upto smooth'
    obtain rfl := Outcome.of_injective outcome
    obtain ⟨outcome', noted', sent'⟩ :=
      HasCourse.resumed tolerated x' keepsRest further after still trace'' log' smooth''
    refine ⟨outcome', ?_, ?_⟩
    · rw [noted', noted, List.append_assoc]
    · rw [split, sent, sent', kept.client, sentOn, sentOn, sentOn, List.map_append]

private theorem noted_of {after : Session (Logged (Noted σ) κ) κ}
    (ran : work s = (.of x, after)) : work.noted s = (.of x, after.note x) := by
  cases x <;> simp only [Action.noted, ran, Outcome.of]

private theorem HasCourse.noted (keeps : Keeps k work)
    (inner : HasCourse k work x results statements) :
    HasCourse k work.noted x (results ++ [x]) statements := by
  intro s h trace log smooth
  have kept := keeps s h
  have went := inner s h trace
  cases ended : work s with
  | mk outcome after =>
    rw [ended] at kept went
    obtain ⟨x', rfl⟩ := kept.ended.exists_result
    rw [noted_of ended] at log ⊢
    obtain ⟨outcome, noted, sent⟩ := went log smooth
    obtain rfl : x' = x := Outcome.of_injective outcome
    refine ⟨rfl, ?_, sent⟩
    rw [Session.results_note, noted, List.append_assoc]

private theorem opens_logging (s : Session (Logged (Noted σ) κ) κ) :
    (Coordinator.logging b.noting schema true).Opens s := by
  simp only [Coordinator.Opens, Coordinator.logging, Bool.not_true, Bool.and_false]

private theorem results_opened {opened : Session (Logged (Noted σ) κ) κ}
    (begun : s.begin b.noting.logged = (.ok (), opened)) : opened.results = s.results := by
  have same := Session.results_begin b s
  rwa [begun] at same

/-- A unit with a savepoint sends it in front of what its work sends, and goes back to it behind
that exactly if the work fails. -/
private theorem HasCourse.nested (schema : Option String) (keeps : Keeps k work)
    (inner : HasCourse k work x results statements) :
    HasCourse k ((Coordinator.logging b.noting schema true).transaction work) x results
      fun depth => Work.bracketed true depth (statements (depth + 1)) x := by
  intro s h trace log smooth
  have deeper {opened : Session (Logged (Noted σ) κ) κ}
      (begun : s.begin b.noting.logged = (.ok (), opened)) :
      opened.client = s.client.deeper := by
    rcases h.begin (b := b.noting) with ⟨f, refused, failed, -⟩ | ⟨opened', begun', client, -⟩
    · rw [failed] at begun
      cases begun
    · rw [begun'] at begun
      cases begun
      exact client
  have depth {opened : Session (Logged (Noted σ) κ) κ}
      (client : opened.client = s.client.deeper) : opened.client.depth = s.client.depth + 1 := by
    rw [client, Client.depth, Client.deeper, List.length_append]
    rfl
  have noted {opened : Session (Logged (Noted σ) κ) κ}
      (begun : s.begin b.noting.logged = (.ok (), opened)) :
      ((Coordinator.logging b.noting schema true).transaction work s).2.results =
        (work opened).2.results :=
    results_unitOn false (opens_logging s) begun
  obtain ⟨-, nested⟩ := keeps.nested (b := b.noting) schema h
  generalize (Coordinator.logging b.noting schema true).transaction work s = ended
    at nested noted log ⊢
  cases nested with
  | unopened begun log' =>
    rw [log'] at log
    obtain rfl := List.append_cancel_left log
    exact absurd (smooth _ List.mem_cons_self) Bool.false_ne_true
  | @kept found opened worked after trace' begun ran body runs log' =>
    rw [log'] at log
    obtain rfl := List.append_cancel_left log
    have client := deeper begun
    have went := inner opened (h.deeper client) trace'
    rw [ran] at went
    obtain ⟨outcome, results, sent⟩ := went body (smooth_cons.mp smooth).2
    obtain rfl : .ok found = x := Outcome.of_injective outcome
    refine ⟨rfl, ?_, ?_⟩
    · rw [noted begun, ran, results, results_opened begun]
    · rw [sent, depth client]
      simp only [Work.bracketed, if_true, sentOn, List.map_cons, List.map_append]
      exact (congrArg _ (List.append_nil _)).symm
  | @undone f opened worked after trace' succeeded begun ran body runs log' =>
    rw [log'] at log
    obtain rfl := List.append_cancel_left log
    have client := deeper begun
    have went := inner opened (h.deeper client) trace'
    rw [ran] at went
    obtain ⟨smooth', back⟩ := smooth_append.mp (smooth_cons.mp smooth).2
    obtain ⟨outcome, results, sent⟩ := went body smooth'
    have fine : succeeded = true := back _ List.mem_cons_self
    obtain rfl : .error f = x := Outcome.of_injective outcome
    refine ⟨rfl, ?_, ?_⟩
    · rw [noted begun, ran, results, results_opened begun]
    · rw [sent, depth client, fine]
      simp only [Work.bracketed, if_true, sentOn, List.map_cons, List.map_append]
      rfl

/-- A unit on a started client, with a savepoint or as a part of the unit around it. -/
theorem HasCourse.transaction (schema : Option String) (useSavepoints : Bool)
    (keeps : Keeps k work) (inner : HasCourse k work x results statements) :
    HasCourse k ((Coordinator.logging b.noting schema useSavepoints).transaction work) x results
      fun depth => Work.bracketed useSavepoints depth
        (statements (Work.innerDepth useSavepoints depth)) x := by
  cases useSavepoints with
  | true => exact inner.nested schema keeps
  | false =>
    intro s h trace log smooth
    rw [h.joined] at log ⊢
    exact inner s h trace log smooth

/-- A work follows its course. -/
theorem course_work (b : Backend σ κ) (schema : Option String) (useSavepoints : Bool) (k : κ)
    (work : Work) :
    HasCourse k (work.runNoted (Coordinator.logging b.noting schema useSavepoints)) work.result
      work.results (work.statements useSavepoints) := by
  have keeps := keeps_runNoted b schema useSavepoints k
  -- One case for each way in which a work goes on, the client at any depth.
  induction work with
  | finish failure =>
    cases failure with
    | none => exact course_done []
    | some f => exact course_fail f
  | write w tolerated rest ih =>
    have written := keeps_write (k := k) b.noting w
    exact (course_write b w).andResume tolerated written (keeps rest) ih
  | unit body tolerated rest inner ih =>
    have level := (inner.transaction (b := b) schema useSavepoints (keeps body)).noted
      (keeps body).transaction
    have course := level.andResume tolerated (keeps body).transaction.noted (keeps rest) ih
    rw [List.append_assoc] at course
    exact course

/-- What a transaction sends around the statements of its work, before its connection is handed
back. -/
def wholeTrace (k : κ) (x : Result) (inner : List Query) : List (Exchange κ) :=
  .ran k (.plain Statement.begin) true :: (sentOn k inner ++
    [.ran k (.plain (if x.isOk then Statement.commit else Statement.rollback)) true,
      .returned k !x.isOk])

/-- A unit on a client on which nothing is open is a transaction around its work. -/
theorem HasCourse.whole (schema : Option String) (useSavepoints acquired : Bool)
    (keeps : Keeps k work) (inner : HasCourse k work x results statements)
    (fresh : s.client = .ofConnection k) :
    let ended := (Coordinator.logging b.noting schema useSavepoints).unitOn acquired work s
    Smooth ended.2.log → ended.1 = .of x ∧ ended.2.results = s.results ++ results ∧
      ended.2.log = s.log ++ wholeTrace k x (statements 0) := by
  intro ended smooth
  have noted {opened : Session (Logged (Noted σ) κ) κ}
      (begun : s.begin b.noting.logged = (.ok (), opened)) :
      ended.2.results = (work opened).2.results := by
    refine results_unitOn acquired ?_ begun
    rw [Coordinator.Opens, fresh]
    rfl
  have enclosed : Enclosed b.noting work s k acquired ended :=
    keeps.enclosed schema useSavepoints acquired fresh
  generalize ended = finished at enclosed noted smooth ⊢
  cases enclosed with
  | refused _ log =>
    rw [log] at smooth
    obtain ⟨failed, -⟩ := smooth_cons.mp (smooth_append.mp smooth).2
    exact absurd failed Bool.false_ne_true
  | @closed outcome result opened worked after trace tail begun client ran body _ closing _ log =>
    rw [log] at smooth
    obtain ⟨smooth', last⟩ := smooth_append.mp (smooth_cons.mp (smooth_append.mp smooth).2).2
    have started : opened.Started k := ⟨by rw [client, fresh]; rfl, by rw [client]; rfl⟩
    have depth : opened.client.depth = 0 := by rw [client, fresh]; rfl
    have went := inner opened started trace
    rw [ran, depth] at went
    obtain ⟨outcome, noted', sent⟩ := went body smooth'
    have noted_all : after.results = s.results ++ results := by
      rw [noted begun, ran, noted', results_opened begun]
    cases closing with
    | published =>
      obtain rfl : .ok _ = x := Outcome.of_injective outcome
      exact ⟨rfl, noted_all, by rw [log, sent]; rfl⟩
    | unpublished succeeded => exact absurd (last _ List.mem_cons_self) Bool.false_ne_true
    | undone succeeded =>
      have fine : succeeded = true := last _ List.mem_cons_self
      obtain rfl : .error _ = x := Outcome.of_injective outcome
      exact ⟨rfl, noted_all, by rw [log, sent, fine]; rfl⟩

end Pieces

end TableAccess
