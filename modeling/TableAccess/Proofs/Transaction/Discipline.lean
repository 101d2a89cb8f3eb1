import TableAccess.Proofs.Transaction.Exchange
import TableAccess.Proofs.Transaction.Units

/-!
Units of work leave a client as they find it, and hand back what they acquire once.

Nothing is assumed of the server: any statement may fail, those that undo included. Work that
only runs statements and units within a unit is confined to its connection, whatever fails and
whatever of it is tolerated.
-/

set_option autoImplicit false
set_option relaxedAutoImplicit false

namespace TableAccess

open Client (savepointName)

variable {σ κ α β : Type} {b : Backend σ κ} {schema : Option String} {useSavepoints : Bool}
  {s after : Session (Logged σ κ) κ} {k : κ} {work : Action (Session (Logged σ κ) κ) α}

/-- The coordinator of a server that keeps a log. -/
def Coordinator.logging (b : Backend σ κ) (schema : Option String) (useSavepoints : Bool) :
    Coordinator (Logged σ κ) κ :=
  ⟨b.logged, schema, useSavepoints⟩

/-! ### Work that is confined to its connection -/

/-- The work was not abandoned. -/
def Outcome.Ended : Outcome α → Prop
  | .done _ | .failed _ => True
  | .abandoned _ => False

/-- What has run on a started client succeeded or failed, has only run statements on its
connection, and has left the client as it was. -/
structure Confined (s : Session (Logged σ κ) κ) (k : κ)
    (ended : Outcome α × Session (Logged σ κ) κ) : Prop where
  client : ended.2.client = s.client
  log : ∃ trace, ended.2.log = s.log ++ trace ∧ RunsOnly k trace
  ended : ended.1.Ended

/-- The work is confined to the connection on every started client that holds it. -/
def Keeps (k : κ) (work : Action (Session (Logged σ κ) κ) α) : Prop :=
  ∀ s : Session (Logged σ κ) κ, s.Started k → Confined s k (work s)

/-- What runs after something confined is confined with it. -/
theorem Confined.trans {first : Outcome α × Session (Logged σ κ) κ}
    {last : Outcome β × Session (Logged σ κ) κ} (h : Confined s k first)
    (further : Confined first.2 k last) : Confined s k last := by
  obtain ⟨trace, log, runs⟩ := h.log
  obtain ⟨trace', log', runs'⟩ := further.log
  refine ⟨further.client.trans h.client, ⟨trace ++ trace', ?_, ?_⟩, further.ended⟩
  · rw [log', log, List.append_assoc]
  · exact (runsOnly_append k trace trace').mpr ⟨runs, runs'⟩

private theorem confined_here {outcome : Outcome α} (ended : outcome.Ended) :
    Confined s k (outcome, s) :=
  ⟨rfl, ⟨[], (List.append_nil _).symm, runsOnly_nil k⟩, ended⟩

theorem keeps_done (x : α) : Keeps k (.done x : Action (Session (Logged σ κ) κ) α) :=
  fun _ _ => confined_here trivial

theorem keeps_fail (f : Failure) : Keeps k (.fail f : Action (Session (Logged σ κ) κ) α) :=
  fun _ _ => confined_here trivial

theorem Keeps.andThen {next : α → Action (Session (Logged σ κ) κ) β} (first : Keeps k work)
    (others : ∀ x, Keeps k (next x)) : Keeps k (work.andThen next) := by
  intro s h
  have part := first s h
  cases ended : work s with
  | mk outcome after =>
    rw [ended] at part
    simp only [Action.andThen, ended]
    cases outcome with
    | done x => exact part.trans (others x after (h.same part.client))
    | failed f => exact ⟨part.client, part.log, trivial⟩
    | abandoned why => exact part.ended.elim

theorem Keeps.attempt (whole : Keeps k work) : Keeps k work.attempt := by
  intro s h
  have part := whole s h
  cases ended : work s with
  | mk outcome after =>
    rw [ended] at part
    simp only [Action.attempt, ended]
    cases outcome with
    | done x => exact ⟨part.client, part.log, trivial⟩
    | failed f => exact ⟨part.client, part.log, trivial⟩
    | abandoned why => exact part.ended.elim

theorem Session.Sent.confined {q : Query} {succeeded : Bool} {outcome : Outcome α}
    (sent : s.Sent k q succeeded after) (ended : outcome.Ended) :
    Confined s k (outcome, after) :=
  ⟨sent.client, ⟨[.ran k q succeeded], sent.log, by simp⟩, ended⟩

theorem keeps_execute (b : Backend σ κ) (q : Query) :
    Keeps k (.ofFallible ((Session.executor b.logged).execute q)) := by
  intro s h
  rcases Session.execute_logged (b := b) h.held q with ⟨f, after, run, sent⟩ |
    ⟨n, after, run, sent⟩
  · simp only [Action.ofFallible, run]
    exact sent.confined trivial
  · simp only [Action.ofFallible, run]
    exact sent.confined trivial

/-! ### A unit within a unit -/

/-- The statement that opens the next level of a client. -/
def Session.mark (s : Session (Logged σ κ) κ) : Query :=
  .plain (Statement.savepoint (savepointName s.client.depth))

/-- The statement that goes back to the next level of a client. -/
def Session.back (s : Session (Logged σ κ) κ) : Query :=
  .plain (Statement.rollbackTo (savepointName s.client.depth))

/-- How a unit with a savepoint of its own ends on a started client. The savepoint fails and
the work does not run, or the work runs after it and is undone exactly if it fails. -/
inductive Nested (b : Backend σ κ) (work : Action (Session (Logged σ κ) κ) α)
    (s : Session (Logged σ κ) κ) (k : κ) : Outcome α × Session (Logged σ κ) κ → Prop
  | unopened {f : Failure} {after : Session (Logged σ κ) κ}
      (begun : s.begin b.logged = (.error f, after))
      (log : after.log = s.log ++ [.ran k s.mark false]) :
      Nested b work s k (.failed f, after)
  | kept {x : α} {opened worked after : Session (Logged σ κ) κ} {trace : List (Exchange κ)}
      (begun : s.begin b.logged = (.ok (), opened)) (ran : work opened = (.done x, worked))
      (body : worked.log = opened.log ++ trace) (runs : RunsOnly k trace)
      (log : after.log = s.log ++ .ran k s.mark true :: trace) :
      Nested b work s k (.done x, after)
  | undone {f : Failure} {opened worked after : Session (Logged σ κ) κ}
      {trace : List (Exchange κ)} (succeeded : Bool)
      (begun : s.begin b.logged = (.ok (), opened)) (ran : work opened = (.failed f, worked))
      (body : worked.log = opened.log ++ trace) (runs : RunsOnly k trace)
      (log : after.log = s.log ++ .ran k s.mark true :: (trace ++ [.ran k s.back succeeded])) :
      Nested b work s k (.failed f, after)

/-- Undoing and closing a level sends one statement, and the failure of the unit stays. -/
private theorem close_deeper (schema : Option String) (useSavepoints : Bool) (h : s.Started k)
    (level : after.client = s.client.deeper) (f : Failure) :
    ∃ succeeded closed, (Coordinator.logging b schema useSavepoints).close (α := α) f after =
        (.failed f, closed) ∧ closed.client = s.client ∧
      closed.log = after.log ++ [.ran k s.back succeeded] := by
  have rollback := h.rollback_deeper (b := b) level
  rcases Session.command_logged (b := b) (h.deeper level).held
      (Statement.rollbackTo s.client.nextSavepoint) with ⟨e, undone, run, sent⟩ |
    ⟨undone, run, sent⟩
  · let warned := undone.report .warning
      ("Could not roll back the failed unit of work: " ++ e.message)
    have same : warned.client = s.client.deeper := sent.client.trans level
    refine ⟨false, ⟨s.client, warned.world⟩, ?_, rfl, sent.log⟩
    simp only [Coordinator.close, Coordinator.undo, Coordinator.logging, rollback, run]
    rw [Session.release_deeper true same]
  · have same : undone.client = s.client.deeper := sent.client.trans level
    refine ⟨true, ⟨s.client, undone.world⟩, ?_, rfl, sent.log⟩
    simp only [Coordinator.close, Coordinator.undo, Coordinator.logging, rollback, run]
    rw [Session.release_deeper true same]

/-- A unit with a savepoint leaves a started client as it was. -/
theorem Keeps.nested (schema : Option String) (inner : Keeps k work) (h : s.Started k) :
    let ended := (Coordinator.logging b schema true).transaction work s
    ended.2.client = s.client ∧ Nested b work s k ended := by
  intro ended
  have opens : (Coordinator.logging b schema true).Opens s := by
    simp only [Coordinator.Opens, Coordinator.logging, Bool.not_true, Bool.and_false]
  rcases h.begin (b := b) with ⟨f, refused, begun, sent⟩ | ⟨opened, begun, deeper, marked⟩
  · have unopened : ended = (.failed f, refused) :=
      Coordinator.unitOn_unopened opens false begun
    rw [unopened]
    exact ⟨sent.client, .unopened begun sent.log⟩
  · have part := inner opened (h.deeper deeper)
    cases ran : work opened with
    | mk outcome worked =>
      rw [ran] at part
      obtain ⟨trace, body, runs⟩ := part.log
      have level : worked.client = s.client.deeper := part.client.trans deeper
      have upto : worked.log = s.log ++ .ran k s.mark true :: trace := by
        rw [body, marked, List.append_assoc]
        rfl
      cases outcome with
      | done x =>
        have kept : ended = _ := Coordinator.unitOn_done opens false begun ran
          (Session.commit_deeper level)
        rw [kept, Coordinator.logging, Session.release_deeper false level]
        exact ⟨rfl, .kept begun ran body runs upto⟩
      | failed f =>
        obtain ⟨succeeded, closed, run, client, log⟩ :=
          close_deeper (b := b) (α := α) schema true h level f
        have undone : ended = _ := Coordinator.unitOn_failed opens false begun ran
        rw [undone, run]
        refine ⟨client, .undone succeeded begun ran body runs ?_⟩
        rw [log, upto, List.append_assoc]
        rfl
      | abandoned why => exact part.ended.elim

/-- Without savepoints a unit on a started client is its work. -/
theorem Session.Started.joined (h : s.Started k) :
    (Coordinator.logging b schema false).transaction work s = work s := by
  simp only [Coordinator.transaction, Coordinator.unitOn, Coordinator.logging, h.started,
    Bool.not_false, Bool.and_true, if_true]

theorem Nested.confined {ended : Outcome α × Session (Logged σ κ) κ}
    (client : ended.2.client = s.client) (nested : Nested b work s k ended) :
    Confined s k ended := by
  cases nested with
  | unopened begun log =>
    exact Session.Sent.confined ⟨client, log⟩ trivial
  | kept begun ran body runs log => exact ⟨client, ⟨_, log, by simp [runs]⟩, trivial⟩
  | undone succeeded begun ran body runs log => exact ⟨client, ⟨_, log, by simp [runs]⟩, trivial⟩

theorem Keeps.transaction (inner : Keeps k work) :
    Keeps k ((Coordinator.logging b schema useSavepoints).transaction work) := by
  intro s h
  cases useSavepoints with
  | true =>
    obtain ⟨client, nested⟩ := inner.nested (b := b) schema h
    exact nested.confined client
  | false =>
    rw [h.joined]
    exact inner s h

/-- What is left of a work is confined, however the part before it has ended. -/
theorem Keeps.resume {rest : Action (Session (Logged σ κ) κ) (List Query)} (tolerated : Bool)
    (others : Keeps k rest) (x : Except Failure (List Query)) :
    Keeps k (Reference.Work.resume tolerated rest x) := by
  cases x with
  | ok kept => exact others.andThen fun _ => keeps_done _
  | error f =>
    cases tolerated with
    | true => exact others
    | false => exact keeps_fail f

theorem keeps_write (b : Backend σ κ) (w : Reference.Write) :
    Keeps k (Reference.Work.runWrite b.logged w) :=
  (keeps_execute b w.query).andThen fun _ => keeps_done _

/-- A tree of writes and units is confined to its connection. -/
theorem keeps_work (b : Backend σ κ) (schema : Option String) (useSavepoints : Bool) (k : κ)
    (work : Reference.Work) :
    Keeps k (work.run (Coordinator.logging b schema useSavepoints)) := by
  induction work with
  | finish failure =>
    cases failure with
    | none => exact keeps_done []
    | some f => exact keeps_fail f
  | write w tolerated rest ih => exact (keeps_write b w).attempt.andThen (ih.resume tolerated)
  | unit body tolerated rest inner ih =>
    -- A unit leaves the client as it was even when it fails, so what follows may tolerate that.
    exact inner.transaction.attempt.andThen (ih.resume tolerated)

/-! ### A unit with a client of its own -/

/-- How a unit ends on the connection that was acquired for it: it does not begin, its work is
done and published, its work is done and can not be published, or its work fails. -/
inductive Whole (b : Backend σ κ) (work : Action (Session (Logged σ κ) κ) α)
    (s : Session (Logged σ κ) κ) (k : κ) : Outcome α × Session (Logged σ κ) κ → Prop
  | unopened {f : Failure} {after : Session (Logged σ κ) κ}
      (log : after.log = s.log ++ [.ran k (.plain Statement.begin) false, .returned k true]) :
      Whole b work s k (.failed f, after)
  | published {x : α} {opened worked after : Session (Logged σ κ) κ} {trace : List (Exchange κ)}
      (begun : s.begin b.logged = (.ok (), opened)) (ran : work opened = (.done x, worked))
      (runs : RunsOnly k trace)
      (log : after.log = s.log ++ .ran k (.plain Statement.begin) true ::
        (trace ++ [.ran k (.plain Statement.commit) true, .returned k false])) :
      Whole b work s k (.done x, after)
  | unpublished {x : α} {f : Failure} {opened worked after : Session (Logged σ κ) κ}
      {trace : List (Exchange κ)} (succeeded : Bool)
      (begun : s.begin b.logged = (.ok (), opened)) (ran : work opened = (.done x, worked))
      (runs : RunsOnly k trace)
      (log : after.log = s.log ++ .ran k (.plain Statement.begin) true ::
        (trace ++ [.ran k (.plain Statement.commit) false,
          .ran k (.plain Statement.rollback) succeeded, .returned k true])) :
      Whole b work s k (.failed f, after)
  | undone {f : Failure} {opened worked after : Session (Logged σ κ) κ}
      {trace : List (Exchange κ)} (succeeded : Bool)
      (begun : s.begin b.logged = (.ok (), opened)) (ran : work opened = (.failed f, worked))
      (runs : RunsOnly k trace)
      (log : after.log = s.log ++ .ran k (.plain Statement.begin) true ::
        (trace ++ [.ran k (.plain Statement.rollback) succeeded, .returned k true])) :
      Whole b work s k (.failed f, after)

/-- Undoing and closing a transaction sends one statement and hands the connection back. -/
private theorem close_whole (schema : Option String) (useSavepoints : Bool) (h : s.Started k)
    (levels : s.client.savepoints = []) (f : Failure) :
    ∃ succeeded closed, (Coordinator.logging b schema useSavepoints).close (α := α) f s =
        (.failed f, closed) ∧ closed.client.connection = none ∧
      closed.log = s.log ++ [.ran k (.plain Statement.rollback) succeeded, .returned k true] := by
  have undo : ∃ succeeded undone, (Coordinator.logging b schema useSavepoints).undo s = undone ∧
      undone.client.connection = some k ∧ undone.client.savepoints = [] ∧
      undone.log = s.log ++ [.ran k (.plain Statement.rollback) succeeded] := by
    rcases h.rollback (b := b) levels with ⟨e, refused, run, sent⟩ | ⟨closed, run, client, log⟩
    · refine ⟨false, refused.report .warning
        ("Could not roll back the failed unit of work: " ++ e.message), ?_, ?_, ?_, sent.log⟩
      · simp only [Coordinator.undo, Coordinator.logging, run]
      · exact (congrArg Client.connection sent.client).trans h.held
      · exact (congrArg Client.savepoints sent.client).trans levels
    · refine ⟨true, closed, ?_, by rw [client, h.held], by rw [client, levels], log⟩
      simp only [Coordinator.undo, Coordinator.logging, run]
  obtain ⟨succeeded, undone, undo, held, none_left, log⟩ := undo
  refine ⟨succeeded, undone.release b.logged true, ?_, ?_⟩
  · rw [Coordinator.close, undo]
    rfl
  · obtain ⟨released, returned⟩ := Session.release_outermost (b := b) true held none_left
    exact ⟨by rw [released], by rw [returned, log, List.append_assoc]; rfl⟩

/-- How a transaction is closed after its work: it is published, it is undone because it can not
be published, or it is undone because the work has failed. Last its connection is handed back. -/
inductive Closing (k : κ) : Outcome α → Outcome α → List (Exchange κ) → Prop
  | published {x : α} :
      Closing k (.done x) (.done x) [.ran k (.plain Statement.commit) true, .returned k false]
  | unpublished {x : α} {f : Failure} (succeeded : Bool) :
      Closing k (.done x) (.failed f) [.ran k (.plain Statement.commit) false,
        .ran k (.plain Statement.rollback) succeeded, .returned k true]
  | undone {f : Failure} (succeeded : Bool) :
      Closing k (.failed f) (.failed f)
        [.ran k (.plain Statement.rollback) succeeded, .returned k true]

section Ending

variable (schema : Option String) (useSavepoints acquired : Bool)
  {opened worked : Session (Logged σ κ) κ} {outcome : Outcome α}

/-- Behind the work of a transaction comes nothing but what closes it. -/
private theorem closing_unit (opens : (Coordinator.logging b schema useSavepoints).Opens s)
    (begun : s.begin b.logged = (.ok (), opened)) (ran : work opened = (outcome, worked))
    (finished : outcome.Ended) (h : worked.Started k) (levels : worked.client.savepoints = []) :
    let ended := (Coordinator.logging b schema useSavepoints).unitOn acquired work s
    ∃ tail, Closing k outcome ended.1 tail ∧ ended.2.log = worked.log ++ tail ∧
      ended.2.client.connection = none := by
  intro ended
  cases outcome with
  | abandoned why => exact finished.elim
  | failed f =>
    obtain ⟨succeeded, last, run, gone, log⟩ :=
      close_whole (b := b) (α := α) schema useSavepoints h levels f
    have undone : ended = _ := Coordinator.unitOn_failed opens acquired begun ran
    rw [undone, run]
    exact ⟨_, .undone succeeded, log, gone⟩
  | done x =>
    rcases h.commit (b := b) levels with ⟨f, refused, committed, sent⟩ |
      ⟨closed, committed, shut, log⟩
    · obtain ⟨succeeded, last, run, gone, log⟩ :=
        close_whole (b := b) (α := α) schema useSavepoints (h.same sent.client)
          (by rw [sent.client, levels]) f
      have unkept : ended = _ := Coordinator.unitOn_unkept opens acquired begun ran committed
      rw [unkept, run]
      refine ⟨_, .unpublished succeeded, ?_, gone⟩
      rw [log, sent.log, List.append_assoc]
      rfl
    · have done : ended = _ := Coordinator.unitOn_done opens acquired begun ran committed
      obtain ⟨released, returned⟩ := Session.release_outermost (b := b) (s := closed) false
        (by rw [shut]; exact h.held) (by rw [shut]; exact levels)
      rw [done]
      refine ⟨_, .published, ?_, by rw [Coordinator.logging, released]⟩
      rw [Coordinator.logging, returned, log, List.append_assoc]
      rfl

/-- How a unit runs on a client on which nothing is open: it does not begin, or its work runs in a
transaction that is closed behind it. -/
inductive Enclosed (b : Backend σ κ) (work : Action (Session (Logged σ κ) κ) α)
    (s : Session (Logged σ κ) κ) (k : κ) (acquired : Bool) :
    Outcome α × Session (Logged σ κ) κ → Prop
  | refused {f : Failure} {after : Session (Logged σ κ) κ}
      (gone : acquired = true → after.client.connection = none)
      (log : after.log = s.log ++ .ran k (.plain Statement.begin) false ::
        if acquired then [.returned k true] else []) :
      Enclosed b work s k acquired (.failed f, after)
  | closed {outcome result : Outcome α} {opened worked after : Session (Logged σ κ) κ}
      {trace tail : List (Exchange κ)} (begun : s.begin b.logged = (.ok (), opened))
      (client : opened.client = s.client.opened) (ran : work opened = (outcome, worked))
      (body : worked.log = opened.log ++ trace) (runs : RunsOnly k trace)
      (closing : Closing k outcome result tail) (gone : after.client.connection = none)
      (log : after.log = s.log ++ .ran k (.plain Statement.begin) true :: (trace ++ tail)) :
      Enclosed b work s k acquired (result, after)

/-- A unit on a client on which nothing is open is enclosed in a transaction of its own. -/
theorem Keeps.enclosed (inner : Keeps k work) (fresh : s.client = .ofConnection k) :
    Enclosed b work s k acquired
      ((Coordinator.logging b schema useSavepoints).unitOn acquired work s) := by
  have held : s.client.connection = some k := by rw [fresh]; rfl
  have idle : s.client.started = false := by rw [fresh]; rfl
  have levels : s.client.savepoints = [] := by rw [fresh]; rfl
  have opens : (Coordinator.logging b schema useSavepoints).Opens s := by
    simp only [Coordinator.Opens, idle, Bool.false_and]
  rcases Session.begin_fresh (b := b) held idle with ⟨f, refused, begun, sent⟩ |
    ⟨opened, begun, client, first⟩
  · rw [Coordinator.unitOn_unopened opens acquired begun]
    cases acquired with
    | false =>
      refine .refused (fun asked => ?_) sent.log
      cases asked
    | true =>
      obtain ⟨released, returned⟩ := Session.release_outermost (b := b) true
        (by rw [sent.client, held]) (by rw [sent.client, levels])
      refine .refused (fun _ => congrArg Client.connection released) ?_
      rw [sent.log, List.append_assoc] at returned
      exact returned
  · have started : opened.Started k := ⟨by rw [client]; exact held, by rw [client]; rfl⟩
    have part := inner opened started
    cases ran : work opened with
    | mk outcome worked =>
      rw [ran] at part
      obtain ⟨trace, body, runs⟩ := part.log
      have still : worked.Started k := started.same part.client
      have outermost : worked.client.savepoints = [] := by
        rw [part.client, client]
        exact levels
      obtain ⟨tail, closing, log, gone⟩ :=
        closing_unit schema useSavepoints acquired opens begun ran part.ended still outermost
      generalize (Coordinator.logging b schema useSavepoints).unitOn acquired work s = ended
        at closing log gone ⊢
      obtain ⟨result, after⟩ := ended
      refine .closed begun client ran body runs closing gone ?_
      calc after.log = worked.log ++ tail := log
        _ = opened.log ++ trace ++ tail := by rw [body]
        _ = s.log ++ .ran k (.plain Statement.begin) true :: (trace ++ tail) := by
          rw [first, List.append_assoc, List.append_assoc]
          rfl

/-- A unit on a client that was acquired for it hands the connection back. -/
theorem Keeps.whole (inner : Keeps k work) (fresh : s.client = .ofConnection k) :
    let ended := (Coordinator.logging b schema useSavepoints).unitOn true work s
    ended.2.client.connection = none ∧ Whole b work s k ended := by
  intro ended
  have enclosed : Enclosed b work s k true ended := inner.enclosed schema useSavepoints true fresh
  generalize ended = finished at enclosed
  cases enclosed with
  | refused gone log => exact ⟨gone rfl, .unopened log⟩
  | closed begun client ran body runs closing gone log =>
    refine ⟨gone, ?_⟩
    cases closing with
    | published => exact .published begun ran runs log
    | unpublished succeeded => exact .unpublished succeeded begun ran runs log
    | undone succeeded => exact .undone succeeded begun ran runs log

end Ending

/-- A unit hands the connection that was acquired for it back once, after nothing but statements
on it: without an error if it is done, which takes that it has been published. -/
theorem Whole.returned {ended : Outcome α × Session (Logged σ κ) κ}
    (whole : Whole b work s k ended) :
    ∃ trace hadError, ended.2.log = s.log ++ (trace ++ [.returned k hadError]) ∧
      RunsOnly k trace ∧ (hadError = true ↔ ∃ f, ended.1 = .failed f) ∧
      (hadError = false ↔ ∃ x, ended.1 = .done x) ∧
      (hadError = false → trace.getLast? = some (.ran k (.plain Statement.commit) true)) := by
  cases whole with
  | unopened log =>
    exact ⟨[_], true, log, by simp, by simp, by simp, nofun⟩
  | @published _ _ _ _ trace begun ran runs log =>
    refine ⟨.ran k (.plain Statement.begin) true ::
      (trace ++ [.ran k (.plain Statement.commit) true]), false, ?_, by simp [runs], by simp,
      by simp, fun _ => ?_⟩
    · rw [log, List.cons_append, List.append_assoc]
      rfl
    · rw [← List.cons_append, List.getLast?_concat]
  | @unpublished _ _ _ _ _ trace succeeded begun ran runs log =>
    refine ⟨.ran k (.plain Statement.begin) true ::
      (trace ++ [.ran k (.plain Statement.commit) false,
        .ran k (.plain Statement.rollback) succeeded]), true, ?_, by simp [runs], by simp,
      by simp, nofun⟩
    rw [log, List.cons_append, List.append_assoc]
    rfl
  | @undone _ _ _ _ trace succeeded begun ran runs log =>
    refine ⟨.ran k (.plain Statement.begin) true ::
      (trace ++ [.ran k (.plain Statement.rollback) succeeded]), true, ?_, by simp [runs],
      by simp, by simp, nofun⟩
    rw [log, List.cons_append, List.append_assoc]
    rfl

/-- The session of a client that has just been acquired. -/
def Session.acquired (w : World (Logged σ κ)) (k : κ) (server : σ) : Session (Logged σ κ) κ :=
  ⟨.ofConnection k, ⟨⟨server, w.server.log ++ [.acquired k]⟩, w.events⟩⟩

/-- A unit with a client of its own is a unit of that client, which is left with nothing to hand
back. -/
theorem Keeps.owned (inner : Keeps k work) {w : World (Logged σ κ)} {server : σ}
    (granted : b.acquire w.server.server = (.ok k, server)) :
    let ended := (Coordinator.logging b schema useSavepoints).unitOn true work
      (.acquired w k server)
    (Coordinator.logging b schema useSavepoints).ownTransaction work w =
      (ended.1, ended.2.world) := by
  intro ended
  have given : (Coordinator.logging b schema useSavepoints).acquire w =
      (.ok (.ofConnection k), (Session.acquired w k server).world) := by
    simp only [Coordinator.acquire, Coordinator.logging, Backend.acquireIn, Backend.logged, granted]
    rfl
  have gone : ended.2.client.connection = none :=
    (inner.whole (b := b) schema useSavepoints (s := .acquired w k server) rfl).1
  have dropped : ended.2.drop b.logged = ended.2.world := by
    simp only [Session.drop, gone]
  simp only [Coordinator.ownTransaction, Coordinator.withClient, given]
  exact Prod.ext rfl dropped

/-- Whatever statements fail, a unit of any tree of writes and units keeps three rules. On a
started client it leaves the client as it was, and sends its savepoint, what its work sends and,
exactly if that fails, the statement that goes back to the savepoint; or it is its work, when
units do not nest. With a client of its own it acquires a connection and hands it back once, with
an error exactly if it fails, and without one only after it has published. When its work fails
its failure is that of the work. -/
theorem units_keep_discipline (b : Backend σ κ) (schema : Option String) (useSavepoints : Bool)
    (work : Reference.Work) :
    let c := Coordinator.logging b schema useSavepoints
    let act := work.run c
    (∀ s k, s.Started k → (c.transaction act s).2.client = s.client ∧
      if useSavepoints then Nested b act s k (c.transaction act s)
      else c.transaction act s = act s) ∧
    (∀ w k server, b.acquire w.server.server = (.ok k, server) →
      let own := c.ownTransaction act w
      ∃ trace hadError,
        own.2.server.log = w.server.log ++ .acquired k :: (trace ++ [.returned k hadError]) ∧
        RunsOnly k trace ∧
        (hadError = true ↔ ∃ f, own.1 = .failed f) ∧
        (hadError = false ↔ ∃ kept, own.1 = .done kept) ∧
        (hadError = false →
          trace.getLast? = some (.ran k (.plain Statement.commit) true))) ∧
    (∀ s opened f after, c.Opens s → s.begin b.logged = (.ok (), opened) →
      act opened = (.failed f, after) →
      (c.transaction act s).1 = .failed f ∧
      ∀ w k server, b.acquire w.server.server = (.ok k, server) →
        s = .acquired w k server → (c.ownTransaction act w).1 = .failed f) := by
  intro c act
  have inner (k : κ) : Keeps k act := keeps_work b schema useSavepoints k work
  refine ⟨?_, ?_, ?_⟩
  · intro s k h
    refine ⟨((inner k).transaction s h).client, ?_⟩
    cases useSavepoints with
    | true => exact ((inner k).nested schema h).2
    | false => exact h.joined
  · intro w k server granted own
    have owned : own = _ := (inner k).owned granted
    obtain ⟨-, whole⟩ := (inner k).whole (b := b) schema useSavepoints
      (s := .acquired w k server) rfl
    obtain ⟨trace, hadError, log, rules⟩ := whole.returned
    rw [owned]
    refine ⟨trace, hadError, ?_, rules⟩
    calc _ = (w.server.log ++ [.acquired k]) ++ (trace ++ [.returned k hadError]) := log
      _ = _ := List.append_assoc _ _ _
  · intro s opened f after opens begun ran
    have fails (acquired : Bool) : (c.unitOn acquired act s).1 = .failed f := by
      rw [Coordinator.unitOn_failed opens acquired begun ran, Coordinator.close]
    refine ⟨fails false, ?_⟩
    rintro w k server granted rfl
    rw [(inner k).owned granted]
    exact fails true

/-- A server on which every statement after the third one fails. -/
def tiring : Backend Nat Unit where
  dialect := .generic
  acquire served := (.ok (), served)
  run _ _ served :=
    (if served < 3 then [] else [.error (.reported "the server is tired")], served + 1)
  release _ _ served := served
  drain served := (.ok (), served)

/-- A unit that fails after its write and is tolerated, in work that fails after it. -/
def forsaken : Reference.Work :=
  .unit (.write (Reference.insertion "five" (by decide +kernel)) false
    (.finish (some Reference.Script.refusal))) true <|
  .finish (some (.reported "the work failed"))

/-- Neither the level nor the transaction can be undone, and the rules are kept. -/
theorem forsaken_keeps_discipline :
    let c := Coordinator.logging tiring none true
    let act := forsaken.run c
    let own := c.ownTransaction act ⟨⟨0, []⟩, []⟩
    let s : Session (Logged Nat Unit) Unit := ⟨⟨some (), true, []⟩, ⟨⟨0, []⟩, []⟩⟩
    (c.transaction act s).2.client = ⟨some (), true, []⟩ ∧
      own.1 = .failed (.reported "the work failed") ∧
      ∃ trace, own.2.server.log = .acquired () :: (trace ++ [.returned () true]) := by
  intro c act own s
  obtain ⟨level, whole, fails⟩ := units_keep_discipline tiring none true forsaken
  let w : World (Logged Nat Unit) := ⟨⟨0, []⟩, []⟩
  let fresh : Session (Logged Nat Unit) Unit := .acquired w () 0
  let opened := (fresh.begin tiring.logged).2
  have begun : fresh.begin tiring.logged = (.ok (), opened) := rfl
  have ran : act opened = (.failed (.reported "the work failed"), (act opened).2) := rfl
  have failed : own.1 = .failed (.reported "the work failed") :=
    (fails fresh opened _ _ rfl begun ran).2 w () 0 rfl rfl
  obtain ⟨trace, hadError, log, -, erred, -⟩ := whole w () 0 rfl
  have returned : hadError = true := erred.mpr ⟨_, failed⟩
  refine ⟨(level s () ⟨rfl, rfl⟩).1, failed, trace, ?_⟩
  rw [← returned]
  exact log

end TableAccess
