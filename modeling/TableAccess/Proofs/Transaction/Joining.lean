import TableAccess.Proofs.Transaction.Smooth

/-!
Units that join the unit around them, beside units that nest by savepoints.

The two take different ways through the coordinator. When no statement fails, both follow the
course of the work: they end alike, with all units within them, and what they send differs by
the savepoints alone.
-/

set_option autoImplicit false
set_option relaxedAutoImplicit false

namespace TableAccess

open Reference (Command Result Work unmarked)

variable {σ κ : Type} {k : κ}

/-! ### Frames of statements -/

/-- The exchange is no savepoint command. -/
def Exchange.unmarked : Exchange κ → Bool
  | .ran _ q _ => Reference.unmarked q
  | .acquired _ | .returned _ _ => true

/-- The command of an exchange, if it is a statement. -/
def Exchange.command? : Exchange κ → Option Command
  | .ran _ q _ => some (Command.of q.sql)
  | .acquired _ | .returned _ _ => none

/-- The commands of a trace that open or close a transaction, in order. -/
def boundaries (trace : List (Exchange κ)) : List Command :=
  (trace.filterMap Exchange.command?).filter Command.bounds

private theorem filter_sentOn (k : κ) (statements : List Query) :
    (sentOn k statements).filter Exchange.unmarked = sentOn k (statements.filter unmarked) :=
  List.filter_map

private theorem boundaries_append (trace more : List (Exchange κ)) :
    boundaries (trace ++ more) = boundaries trace ++ boundaries more := by
  rw [boundaries, List.filterMap_append, List.filter_append]
  rfl

private theorem boundaries_ran (k : κ) {sql : String} {command : Command} (succeeded : Bool)
    (command_eq : Command.of sql = command) (bounds : command.bounds = true) :
    boundaries [.ran k (.plain sql) succeeded] = [command] := by
  have one : [Exchange.ran k (.plain sql) succeeded].filterMap Exchange.command? = [command] :=
    congrArg ([·]) command_eq
  rw [boundaries, one]
  exact List.filter_cons_of_pos bounds

private theorem boundaries_sentOn (k : κ) {statements : List Query}
    (within : ∀ q ∈ statements, (Command.of q.sql).bounds = false) :
    boundaries (sentOn k statements) = [] := by
  refine List.filter_eq_nil_iff.mpr ?_
  intro command mem
  obtain ⟨e, sent, same⟩ := List.mem_filterMap.mp mem
  obtain ⟨q, inner, rfl⟩ := List.mem_map.mp sent
  obtain rfl : Command.of q.sql = command := Option.some.inj same
  rw [within q inner]
  exact Bool.false_ne_true

/-- The command that closes a transaction after its work has ended. -/
def Outcome.closing {α : Type} : Outcome α → Command
  | .done _ => .commit
  | .failed _ | .abandoned _ => .rollback

private theorem of_closing (x : Result) :
    Command.of (if x.isOk then Statement.commit else Statement.rollback) =
      (Outcome.of x).closing := by
  cases x with
  | ok kept => exact Command.of_commit
  | error f => exact Command.of_rollback

private theorem bounds_closing (x : Result) : (Outcome.of x).closing.bounds = true := by
  cases x <;> rfl

private theorem unmarked_bounds {sql : String} (bounds : (Command.of sql).bounds = true) :
    unmarked (.plain sql) = true := by
  rw [unmarked, Query.plain]
  generalize Command.of sql = command at bounds
  cases command with
  | begin | commit | rollback => rfl
  | savepoint | rollbackTo | write => cases bounds

private theorem filter_wholeTrace (k : κ) (x : Result) (inner : List Query) :
    (wholeTrace k x inner).filter Exchange.unmarked = wholeTrace k x (inner.filter unmarked) := by
  have opening : (Exchange.ran k (.plain Statement.begin) true).unmarked = true :=
    unmarked_bounds (by rw [Command.of_begin]; rfl)
  have closing : (Exchange.ran k
      (.plain (if x.isOk then Statement.commit else Statement.rollback)) true).unmarked = true :=
    unmarked_bounds (by rw [of_closing]; exact bounds_closing x)
  rw [wholeTrace, List.filter_cons_of_pos opening, List.filter_append, filter_sentOn,
    List.filter_cons_of_pos closing]
  rfl

private theorem boundaries_wholeTrace (k : κ) (x : Result) {inner : List Query}
    (within : ∀ q ∈ inner, (Command.of q.sql).bounds = false) :
    boundaries (wholeTrace k x inner) = [.begin, (Outcome.of x).closing] := by
  have opening := boundaries_ran k true Command.of_begin rfl
  have closing := boundaries_ran k true (of_closing x) (bounds_closing x)
  have returned : boundaries [Exchange.returned k !x.isOk] = [] := rfl
  calc boundaries (wholeTrace k x inner)
      = boundaries [.ran k (.plain Statement.begin) true] ++ (boundaries (sentOn k inner) ++
          (boundaries [.ran k (.plain (if x.isOk then Statement.commit else Statement.rollback))
            true] ++ boundaries [.returned k !x.isOk])) := by
        simp only [← boundaries_append]
        rfl
    _ = [.begin, (Outcome.of x).closing] := by
        rw [opening, boundaries_sentOn k within, closing, returned]
        rfl

/-! ### The two settings side by side -/

/-- The client is started while it has savepoints, and holds a connection while it is started. -/
structure Client.Sound (c : Client κ) : Prop where
  started : c.savepoints ≠ [] → c.started = true
  held : c.started = true → c.connection ≠ none

/-- Runs work as one unit of a given client, or of a client of its own. -/
def Coordinator.unitFor {τ α : Type} (c : Coordinator τ κ) (given : Option (Client κ))
    (work : Action (Session τ κ) α) : Action (World τ) α :=
  match given with
  | none => c.ownTransaction work
  | some client => fun w =>
    let (outcome, s) := c.transaction work ⟨client, w⟩
    (outcome, s.world)

/-- A world in which nothing has been logged or noted. -/
def World.unlogged (server : σ) (events : List Event) : World (Logged (Noted σ) κ) :=
  ⟨⟨⟨server, []⟩, []⟩, events⟩

/-- A unit of a work in either setting. -/
def Reference.Work.side (b : Backend σ κ) (schema : Option String) (given : Option (Client κ))
    (server : σ) (events : List Event) (work : Work) (useSavepoints : Bool) :
    Outcome (List Query) × World (Logged (Noted σ) κ) :=
  let c := Coordinator.logging b.noting schema useSavepoints
  c.unitFor given (work.runNoted c) (.unlogged server events)

/-- The unit runs inside of a transaction that is open already. -/
def joins (given : Option (Client κ)) : Bool := given.any Client.started

/-- The transactions of a trace are none when it belongs to another one, and one otherwise, which
is closed as the outcome says. -/
def Bounded (joins : Bool) (outcome : Outcome (List Query)) (trace : List (Exchange κ)) : Prop :=
  (joins = true → boundaries trace = []) ∧
    (joins = false → trace ≠ [] → boundaries trace = [.begin, outcome.closing])

/-- Unless a statement failed, a run has ended with a result and with results of the units within
it, and has left a log. -/
def Ends (ended : Outcome (List Query) × World (Logged (Noted σ) κ)) (x : Result)
    (results : List Result) (log : List (Exchange κ)) : Prop :=
  Smooth ended.2.server.log →
    ended.1 = .of x ∧ ended.2.server.server.results = results ∧ ended.2.server.log = log

/-- How a unit runs in either setting: it ends with a result and with results of the units within
it, and its log is a frame around the statements of the setting. -/
structure Framed (given : Option (Client κ))
    (side : Bool → Outcome (List Query) × World (Logged (Noted σ) κ)) (x : Result)
    (results : List Result) (statements : Bool → List Query)
    (frame : List Query → List (Exchange κ)) : Prop where
  ended : ∀ useSavepoints,
    Ends (side useSavepoints) x results (frame (statements useSavepoints))
  joined : statements false = (statements true).filter unmarked
  filters : ∀ inner, (frame inner).filter Exchange.unmarked = frame (inner.filter unmarked)
  bounded : ∀ useSavepoints, Bounded (joins given) (.of x) (frame (statements useSavepoints))

section Sides

variable (b : Backend σ κ) (schema : Option String) (server : σ) (events : List Event)
  (work : Work) {client : Client κ}

/-- On a started client a unit sends what it sends as a part of a work. -/
private theorem framed_started (started : client.started = true)
    (held : client.connection = some k) :
    Framed (some client) (work.side b schema (some client) server events) work.result work.results
      (fun useSavepoints => (Work.unit work false (.finish none)).statements useSavepoints
        client.depth) (sentOn k) where
  ended useSavepoints smooth := by
    let s : Session (Logged (Noted σ) κ) κ := ⟨client, .unlogged server events⟩
    have keeps := keeps_runNoted b schema useSavepoints k work
    have course := (course_work b schema useSavepoints k work).transaction (b := b) schema
      useSavepoints keeps s ⟨held, started⟩
    obtain ⟨outcome, results, sent⟩ := course _ rfl smooth
    refine ⟨outcome, results, ?_⟩
    have alone : (Work.unit work false (.finish none)).statements useSavepoints client.depth =
        Work.bracketed useSavepoints client.depth
          (work.statements useSavepoints (Work.innerDepth useSavepoints client.depth))
          work.result := by
      rw [Work.statements]
      split <;> exact List.append_nil _
    rw [alone]
    exact sent
  joined := Work.statements_joined _ _ _
  filters := filter_sentOn k
  bounded useSavepoints := by
    have open_already : joins (some client) = true := started
    exact ⟨fun _ => boundaries_sentOn k (Work.bounds_statements _ _ _),
      fun idle => absurd (idle.symm.trans open_already) Bool.false_ne_true⟩

/-- A unit that can not even ask for a transaction fails, and sends nothing. -/
private theorem framed_nothing {given : Option (Client κ)} {f : Failure}
    (ended : ∀ useSavepoints, ∃ w, work.side b schema given server events useSavepoints =
      (.failed f, w) ∧ w.server.log = [] ∧ w.server.server.results = []) :
    Framed given (work.side b schema given server events) (.error f) [] (fun _ => [])
      fun _ => [] where
  ended useSavepoints _ := by
    obtain ⟨w, ran, log, results⟩ := ended useSavepoints
    rw [ran]
    exact ⟨rfl, results, log⟩
  joined := rfl
  filters _ := rfl
  bounded _ := ⟨fun _ => rfl, fun _ something => absurd rfl something⟩

/-- A unit that opens a transaction is framed by it, whatever stands in front. -/
private theorem framed_whole {given : Option (Client κ)} (idle : joins given = false)
    (front : List (Exchange κ)) (quiet : ∀ e ∈ front, e.command? = none)
    (ended : ∀ useSavepoints, Ends (work.side b schema given server events useSavepoints)
      work.result work.results
      (front ++ wholeTrace k work.result (work.statements useSavepoints 0))) :
    Framed given (work.side b schema given server events) work.result work.results
      (fun useSavepoints => work.statements useSavepoints 0)
      fun inner => front ++ wholeTrace k work.result inner where
  ended := ended
  joined := Work.statements_joined _ _ _
  filters inner := by
    have kept : front.filter Exchange.unmarked = front := by
      refine List.filter_eq_self.mpr ?_
      intro e mem
      cases e with
      | ran k q succeeded => cases quiet _ mem
      | acquired | returned => rfl
    rw [List.filter_append, filter_wholeTrace, kept]
  bounded useSavepoints := by
    refine ⟨fun open_already => absurd (idle.symm.trans open_already) Bool.false_ne_true, ?_⟩
    intro _ _
    have silent : boundaries front = [] := by
      rw [boundaries, List.filterMap_eq_nil_iff.mpr quiet]
      rfl
    rw [boundaries_append, silent, boundaries_wholeTrace k _ (Work.bounds_statements _ _ _)]
    rfl

/-- A unit with a client of its own asks for a connection first. -/
private theorem framed_own :
    ∃ x results statements frame,
      Framed none (work.side b schema none server events) x results statements frame := by
  cases granted : b.acquire server with
  | mk result server' =>
    cases result with
    | error f =>
      refine ⟨_, _, _, _, framed_nothing b schema server events work (f := f) fun useSavepoints =>
        ⟨⟨⟨⟨server', []⟩, []⟩, events⟩, ?_, rfl, rfl⟩⟩
      simp only [Work.side, Coordinator.unitFor, Coordinator.ownTransaction,
        Coordinator.withClient, Coordinator.acquire, Coordinator.logging, Backend.acquireIn,
        Backend.logged, Backend.noting, Backend.within, World.unlogged, granted]
    | ok k =>
      refine ⟨_, _, _, _, framed_whole (k := k) b schema server events work rfl [.acquired k]
        (fun e mem => by rw [List.mem_singleton.mp mem]; rfl) ?_⟩
      intro useSavepoints smooth
      have keeps := keeps_runNoted b schema useSavepoints k work
      let w : World (Logged (Noted σ) κ) := .unlogged server events
      have noted : b.noting.acquire w.server.server = (.ok k, ⟨server', []⟩) := by
        simp only [Backend.noting, Backend.within, w, World.unlogged, granted]
      have owned : work.side b schema none server events useSavepoints = _ :=
        keeps.owned noted
      rw [owned] at smooth ⊢
      exact (course_work b schema useSavepoints k work).whole schema useSavepoints true keeps rfl
        smooth

/-- A unit of an idle client needs the connection of the client. -/
private theorem framed_idle (idle : client.started = false) (levels : client.savepoints = []) :
    ∃ x results statements frame,
      Framed (some client) (work.side b schema (some client) server events) x results statements
        frame := by
  let s : Session (Logged (Noted σ) κ) κ := ⟨client, .unlogged server events⟩
  cases held : client.connection with
  | none =>
    have opens (useSavepoints : Bool) :
        (Coordinator.logging b.noting schema useSavepoints).Opens s := by
      rw [Coordinator.Opens, idle]
      rfl
    let q := Query.plain Statement.begin
    let f := (Failure.of .clientReleased).within q.activity
    have begun : s.begin b.noting.logged = (.error f, s.report .error f.message) := by
      simp only [Session.begin, Session.command, Executor.execute, Session.executor, Session.run,
        Executor.fail, s, idle, held, Bool.false_eq_true, if_false, Answer.affected]
      rfl
    refine ⟨_, _, _, _, framed_nothing b schema server events work (f := f) fun useSavepoints =>
      ⟨(s.report .error f.message).world, ?_, rfl, rfl⟩⟩
    let ended := (Coordinator.logging b.noting schema useSavepoints).transaction
      (work.runNoted (Coordinator.logging b.noting schema useSavepoints)) s
    have unopened : ended = (.failed f, s.report .error f.message) :=
      Coordinator.unitOn_unopened (opens useSavepoints) false begun
    have side : work.side b schema (some client) server events useSavepoints =
        (ended.1, ended.2.world) := rfl
    rw [side, unopened]
  | some k =>
    have fresh : client = .ofConnection k := by
      rw [Client.ofConnection, ← held, ← idle, ← levels]
    have alone : joins (some client) = false := idle
    refine ⟨_, _, _, _, framed_whole (k := k) b schema server events work alone []
      (fun e mem => absurd mem List.not_mem_nil) ?_⟩
    intro useSavepoints smooth
    have keeps := keeps_runNoted b schema useSavepoints k work
    exact (course_work b schema useSavepoints k work).whole (s := s) schema useSavepoints false
      keeps fresh smooth

/-- A unit of a work, with a client of its own or on a given one. -/
private theorem framed_side {given : Option (Client κ)} (sound : ∀ client ∈ given, client.Sound) :
    ∃ x results statements frame,
      Framed given (work.side b schema given server events) x results statements frame := by
  cases given with
  | none => exact framed_own b schema server events work
  | some client =>
    have client_sound := sound client rfl
    by_cases started : client.started = true
    · cases held : client.connection with
      | none => exact absurd held (client_sound.held started)
      | some k => exact ⟨_, _, _, _, framed_started b schema server events work started held⟩
    · have levels : client.savepoints = [] := by
        cases open_levels : client.savepoints with
        | nil => rfl
        | cons top others =>
          refine absurd (client_sound.started ?_) started
          rw [open_levels]
          exact List.cons_ne_nil top others
      exact framed_idle b schema server events work (Bool.eq_false_iff.mpr started) levels

end Sides

/-- When no statement fails, a unit of any tree of writes and units ends alike whether units within
it join it or nest by savepoints, and so do all units within it. Connections are acquired and handed
back alike, and what joining units send is what nesting units send without the savepoint commands.
Either way a unit that does not belong to a transaction sends one statement that opens one and one
that closes it. -/
theorem joined_like_nested (b : Backend σ κ) (schema : Option String) (work : Work)
    (given : Option (Client κ)) (sound : ∀ client ∈ given, client.Sound) (server : σ)
    (events : List Event) :
    let side := work.side b schema given server events
    (∀ useSavepoints, Smooth (side useSavepoints).2.server.log) →
      (side false).1 = (side true).1 ∧
      (side false).2.server.server.results = (side true).2.server.server.results ∧
      (side false).2.server.log = (side true).2.server.log.filter Exchange.unmarked ∧
      ∀ useSavepoints, Bounded (joins given) (side useSavepoints).1
        (side useSavepoints).2.server.log := by
  intro side smooth
  obtain ⟨x, results, statements, frame, framed⟩ :=
    framed_side b schema server events work sound
  obtain ⟨outcome, noted, log⟩ := framed.ended true (smooth true)
  obtain ⟨outcome', noted', log'⟩ := framed.ended false (smooth false)
  refine ⟨outcome'.trans outcome.symm, noted'.trans noted.symm, ?_, ?_⟩
  · calc (side false).2.server.log
        = frame (statements false) := log'
      _ = (frame (statements true)).filter Exchange.unmarked := by
          rw [framed.filters, framed.joined]
      _ = (side true).2.server.log.filter Exchange.unmarked := congrArg _ log.symm
  · intro useSavepoints
    obtain ⟨outcome, -, log⟩ := framed.ended useSavepoints (smooth useSavepoints)
    have bounded := framed.bounded useSavepoints
    rw [← outcome, ← log] at bounded
    exact bounded

/-- A server on which no statement fails. -/
def tireless : Backend Unit Unit where
  dialect := .generic
  acquire _ := (.ok (), ())
  run _ _ _ := ([], ())
  release _ _ _ := ()
  drain _ := (.ok (), ())

/-- A unit that fails after a unit within it has failed, and is tolerated; and one that is done. -/
def layered : Work :=
  .unit (.write (Reference.insertion "six" (by decide +kernel)) false <|
    .unit (.write (Reference.insertion "seven" (by decide +kernel)) false
      (.finish (some Reference.Script.refusal))) false <|
    .finish none) true <|
  .unit (.write (Reference.insertion "eight" (by decide +kernel)) false (.finish none)) false <|
  .finish none

/-- No statement of `layered` fails in either setting. -/
theorem layered_smooth (useSavepoints : Bool) :
    Smooth (layered.side tireless none none () [] useSavepoints).2.server.log := by
  cases useSavepoints <;> decide +kernel

theorem layered_joined :
    (∀ useSavepoints, Smooth (layered.side tireless none none () [] useSavepoints).2.server.log) ∧
      (layered.side tireless none none () [] true).2.server.log.length = 12 ∧
      (layered.side tireless none none () [] false).2.server.log =
        (layered.side tireless none none () [] true).2.server.log.filter Exchange.unmarked := by
  have nests : (layered.side tireless none none () [] true).2.server.log.length = 12 := by
    decide +kernel
  have same := joined_like_nested tireless none layered none nofun () [] layered_smooth
  exact ⟨layered_smooth, nests, same.2.2.1⟩

end TableAccess
