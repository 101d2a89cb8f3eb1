import TableAccess.Proofs.Transaction.Levels

/-!
The steps of a client on the server that keeps marks.

A client is idle or open. For each command the lemmas below say what it sends in either mode,
and that the mode after it agrees with the server again, whether or not the command succeeds.
-/

set_option autoImplicit false
set_option relaxedAutoImplicit false

namespace TableAccess.Reference

open Client (savepointName)

variable {κ : Type} {o : Script κ} {s : Session State κ} {k : κ} {t : Transaction}
  {levels : List Mark}

/-- The session after a statement has reached its connection. -/
def sent (s : Session State κ) (q : Query) (next : State) (reports : List Event) :
    Session State κ :=
  ⟨s.client, ⟨next, s.world.events ++ .statement q :: reports⟩⟩

@[simp] theorem client_sent (s : Session State κ) (q : Query) (next : State)
    (reports : List Event) : (sent s q next reports).client = s.client := rfl

/-- A statement that is possible on a connection fails and changes nothing, or it succeeds. -/
theorem execute_held (held : s.client.connection = some k) {q : Query} {next : State}
    (possible : s.world.server.after? q = some next) :
    (∃ f, (Session.executor o.server).execute q s =
        (.error f, sent s q s.world.server.passed []) ∧ o.Fails s.world.server q) ∨
    (∃ n, (Session.executor o.server).execute q s = (.ok n, sent s q next []) ∧
      ¬ o.Fails s.world.server q) := by
  rcases o.serve_cases possible with ⟨answer, f, served, failed, why⟩ |
    ⟨answer, n, served, succeeded, fine⟩
  · refine .inl ⟨f, ?_, why⟩
    simp only [Executor.execute, Session.executor, Session.run, held, Backend.runOn,
      Script.server, served, failed]
    rfl
  · refine .inr ⟨n, ?_, fine⟩
    simp only [Executor.execute, Session.executor, Session.run, held, Backend.runOn,
      Script.server, served, succeeded]
    rfl

theorem execute_released (gone : s.client.connection = none) (q : Query) :
    ∃ f, (Session.executor o.server).execute q s = (.error f, s) := by
  refine ⟨.of .clientReleased, ?_⟩
  simp only [Executor.execute, Session.executor, Session.run, gone]
  rfl

/-- A command that is possible on a connection fails and changes nothing, or it succeeds. -/
theorem command_held (held : s.client.connection = some k) {sql : String} {next : State}
    (possible : s.world.server.after? (.plain sql) = some next) :
    (∃ f text, s.command o.server sql =
        (.error f, sent s (.plain sql) s.world.server.passed [.reported .error text]) ∧
      o.Fails s.world.server (.plain sql)) ∨
    (s.command o.server sql = (.ok (), sent s (.plain sql) next []) ∧
      ¬ o.Fails s.world.server (.plain sql)) := by
  rcases execute_held (o := o) held possible with ⟨f, run, why⟩ | ⟨n, run, fine⟩
  · let reported := f.within (Query.plain sql).activity
    refine .inl ⟨reported, reported.message, ?_, why⟩
    simp only [Session.command, run]
    simp only [Executor.fail, Session.executor, Session.report, World.report, World.record, sent,
      List.append_assoc, List.cons_append, List.nil_append, reported]
  · refine .inr ⟨?_, fine⟩
    simp only [Session.command, run]

theorem command_released (gone : s.client.connection = none) (sql : String) :
    ∃ f text, s.command o.server sql = (.error f, s.report .error text) := by
  obtain ⟨f, run⟩ := execute_released (o := o) gone (.plain sql)
  let reported := f.within (Query.plain sql).activity
  refine ⟨reported, reported.message, ?_⟩
  simp only [Session.command, run]
  simp only [Executor.fail, Session.executor, reported]

/-! ### The two modes of a client -/

/-- Nothing is open on the client, nor on its connection while it holds one. -/
structure Idle (s : Session State κ) : Prop where
  started : s.client.started = false
  savepoints : s.client.savepoints = []
  transaction : s.client.connection ≠ none → s.world.server.transaction = none

/-- A transaction is open on the client and on its connection, and the marks of the server
track the levels of the client, the innermost first. -/
structure Open (s : Session State κ) (k : κ) (t : Transaction) (levels : List Mark) : Prop where
  held : s.client.connection = some k
  started : s.client.started = true
  savepoints : s.client.savepoints = levelNames levels.length
  transaction : s.world.server.transaction = some t
  tracks : Tracks t.marks levels

theorem Idle.refused (h : Idle s) (q : Query) (reports : List Event) :
    Idle (sent s q s.world.server.passed reports) :=
  ⟨h.started, h.savepoints, h.transaction⟩

theorem Open.refused (h : Open s k t levels) (q : Query) (reports : List Event) :
    Open (sent s q s.world.server.passed reports) k t levels :=
  ⟨h.held, h.started, h.savepoints, h.transaction, h.tracks⟩

/-- The last of the names of some levels is the name of the innermost one. -/
theorem Open.last (h : Open s k t levels) :
    s.client.savepoints.getLast? = match levels with
      | [] => none
      | _ :: outer => some (savepointName outer.length) := by
  rw [h.savepoints]
  cases levels with
  | nil => rfl
  | cons mark outer => simp only [List.length_cons, levelNames_succ, List.getLast?_concat]

theorem Open.nextSavepoint (h : Open s k t levels) :
    s.client.nextSavepoint = savepointName levels.length := by
  simp only [Client.nextSavepoint, Client.depth, h.savepoints, length_levelNames]

theorem Open.isEmpty_savepoints (h : Open s k t levels) :
    s.client.savepoints.isEmpty = levels.isEmpty := by
  rw [h.savepoints]
  cases levels with
  | nil => rfl
  | cons mark outer => simp [levelNames_succ]

/-! ### Commands of an idle client -/

theorem Idle.begin_released (h : Idle s) (gone : s.client.connection = none) :
    ∃ f text, s.begin o.server = (.error f, s.report .error text) := by
  obtain ⟨f, text, run⟩ := command_released (o := o) gone Statement.begin
  refine ⟨f, text, ?_⟩
  simp only [Session.begin, h.started, Bool.false_eq_true, if_false, run]

/-- An idle client opens a transaction without levels, or stays as it is. -/
theorem Idle.begin_held (h : Idle s) (held : s.client.connection = some k) :
    (∃ f text, s.begin o.server = (.error f, sent s (.plain Statement.begin)
      s.world.server.passed [.reported .error text])) ∨
    (∃ opened, s.begin o.server = (.ok (), opened) ∧ Open opened k ⟨[], []⟩ [] ∧
      opened.world.server.published = s.world.server.published ∧
      opened.world.events = s.world.events ++ [.statement (.plain Statement.begin)] ∧
      ¬ o.Fails s.world.server (.plain Statement.begin)) := by
  have idle := h.transaction (by rw [held]; exact Option.some_ne_none k)
  let next : State := { s.world.server.passed with transaction := some ⟨[], []⟩ }
  have after : s.world.server.after? (.plain Statement.begin) = some next := by
    simp only [State.after?, Query.plain, Command.of_begin, idle, next]
  rcases command_held (o := o) held after with ⟨f, text, run, -⟩ | ⟨run, fine⟩
  · refine .inl ⟨f, text, ?_⟩
    simp only [Session.begin, h.started, Bool.false_eq_true, if_false, run]
  · refine .inr ⟨⟨{ s.client with started := true },
      (sent s (.plain Statement.begin) next []).world⟩, ?_,
      ⟨held, rfl, h.savepoints, rfl, .outermost []⟩, rfl, rfl, fine⟩
    simp only [Session.begin, h.started, Bool.false_eq_true, if_false, run]
    rfl

theorem Idle.commit (h : Idle s) : s.commit o.server = (.ok (), s) := by
  simp only [Session.commit, h.started, Bool.not_false, Bool.true_or, if_true]

theorem Idle.rollback (h : Idle s) : s.rollback o.server = (.ok (), s) := by
  simp only [Session.rollback, h.started, Bool.not_false, if_true]

/-- An idle client hands its connection back, if it still holds one. -/
theorem Idle.release (h : Idle s) (hadError : Bool) :
    Idle (s.release o.server hadError) ∧
      (s.release o.server hadError).client.connection = none ∧
      (s.release o.server hadError).world.server = s.world.server ∧
      ∃ e, (∀ q, e ≠ Event.statement q) ∧
        (s.release o.server hadError).world.events = s.world.events ++ [e] := by
  cases held : s.client.connection with
  | none =>
    have run : s.release o.server hadError =
        s.report .warning "The client was already released" := by
      simp only [Session.release, h.savepoints, List.isEmpty_nil, if_true, held]
    rw [run]
    exact ⟨⟨h.started, h.savepoints, h.transaction⟩, held, rfl, _, by simp, rfl⟩
  | some k =>
    have run : s.release o.server hadError =
        ⟨⟨none, false, []⟩, o.server.releaseOn k hadError s.world⟩ := by
      simp only [Session.release, h.savepoints, List.isEmpty_nil, if_true, held]
    rw [run]
    exact ⟨⟨rfl, rfl, fun gone => absurd rfl gone⟩, rfl, rfl, _, by simp, rfl⟩

/-! ### Commands of an open client -/

/-- An open client opens a level, whose mark holds what has been written so far, or stays as it
is. -/
theorem Open.begin (h : Open s k t levels) :
    let q := Query.plain (Statement.savepoint (savepointName levels.length))
    let mark : Mark := ⟨savepointName levels.length, s.world.server.served, t.writes⟩
    (∃ f text, s.begin o.server = (.error f, sent s q s.world.server.passed
      [.reported .error text])) ∨
    (∃ opened, s.begin o.server = (.ok (), opened) ∧
      Open opened k { t with marks := mark :: t.marks } (mark :: levels) ∧
      opened.world.server.published = s.world.server.published ∧
      opened.world.events = s.world.events ++ [.statement q] ∧
      ¬ o.Fails s.world.server q) := by
  intro q mark
  let next : State := { s.world.server.passed with
    transaction := some { t with marks := mark :: t.marks } }
  have after : s.world.server.after? q = some next := by
    simp only [q, State.after?, Query.plain, Command.of_savepoint, h.transaction, mark, next]
  rcases command_held (o := o) h.held after with ⟨f, text, run, -⟩ | ⟨run, fine⟩
  · refine .inl ⟨f, text, ?_⟩
    simp only [Session.begin, h.started, if_true, h.nextSavepoint, run]
    rfl
  · refine .inr ⟨⟨{ s.client with
      savepoints := s.client.savepoints ++ [savepointName levels.length] },
      (sent s q next []).world⟩, ?_, ⟨h.held, h.started, ?_, rfl, h.tracks.push rfl⟩, rfl, rfl, fine⟩
    · simp only [Session.begin, h.started, if_true, h.nextSavepoint, run, client_sent, q]
    · rw [List.length_cons, levelNames_succ, ← h.savepoints]

/-- Within a level nothing is done to keep what it wrote. -/
theorem Open.commit_level {mark : Mark} (h : Open s k t (mark :: levels)) :
    s.commit o.server = (.ok (), s) := by
  simp only [Session.commit, h.isEmpty_savepoints, List.isEmpty_cons, Bool.not_false,
    Bool.or_true, if_true]

/-- Without levels the transaction is published, or stays open. -/
theorem Open.commit (h : Open s k t []) :
    let q := Query.plain Statement.commit
    (∃ f text, s.commit o.server = (.error f, sent s q s.world.server.passed
      [.reported .error text])) ∨
    (∃ closed, s.commit o.server = (.ok (), closed) ∧ Idle closed ∧
      closed.client.connection = some k ∧
      closed.world.server.published = s.world.server.published ++ t.writes ∧
      closed.world.events = s.world.events ++ [.statement q] ∧
      ¬ o.Fails s.world.server q) := by
  intro q
  have empty : s.client.savepoints.isEmpty = true := h.isEmpty_savepoints
  let next : State := { s.world.server.passed with
    published := s.world.server.published ++ t.writes, transaction := none }
  have after : s.world.server.after? q = some next := by
    simp only [q, State.after?, Query.plain, Command.of_commit, h.transaction, next]
  rcases command_held (o := o) h.held after with ⟨f, text, run, -⟩ | ⟨run, fine⟩
  · refine .inl ⟨f, text, ?_⟩
    simp only [Session.commit, h.started, empty, Bool.not_true, Bool.or_false, Bool.false_eq_true,
      if_false, run]
    rfl
  · refine .inr ⟨⟨{ s.client with started := false }, (sent s q next []).world⟩, ?_,
      ⟨rfl, h.savepoints, fun _ => rfl⟩, h.held, rfl, rfl, fine⟩
    simp only [Session.commit, h.started, empty, Bool.not_true, Bool.or_false, Bool.false_eq_true,
      if_false, run]
    rfl

/-- Going back within a level reaches the very mark of the level, and what had been written
when it was set. -/
theorem Open.rollback_level {mark : Mark} (h : Open s k t (mark :: levels)) :
    let q := Query.plain (Statement.rollbackTo (savepointName levels.length))
    t.latest? (savepointName levels.length) = some mark ∧
    ((∃ f text, s.rollback o.server = (.error f, sent s q s.world.server.passed
        [.reported .error text]) ∧ o.Fails s.world.server q) ∨
      (∃ back older, s.rollback o.server = (.ok (), back) ∧
        Open back k ⟨mark.writes, mark :: older⟩ (mark :: levels) ∧
        back.world.server.published = s.world.server.published ∧
        back.world.events = s.world.events ++ [.statement q] ∧
        ¬ o.Fails s.world.server q)) := by
  intro q
  obtain ⟨older, found, tracks⟩ := h.tracks.latest
  have marks : t.marksFrom (savepointName levels.length) = mark :: older := found
  refine ⟨by rw [Transaction.latest?, marks, List.head?_cons], ?_⟩
  let next : State := { s.world.server.passed with
    transaction := some ⟨mark.writes, mark :: older⟩ }
  have after : s.world.server.after? q = some next := by
    simp only [q, State.after?, Query.plain, Command.of_rollbackTo, h.transaction, marks, next]
  have body : s.rollback o.server = s.command o.server
      (Statement.rollbackTo (savepointName levels.length)) := by
    simp only [Session.rollback, h.started, Bool.not_true, Bool.false_eq_true, if_false, h.last]
  rcases command_held (o := o) h.held after with ⟨f, text, run, why⟩ | ⟨run, fine⟩
  · exact .inl ⟨f, text, body.trans run, why⟩
  · exact .inr ⟨sent s q next [], older, body.trans run,
      ⟨h.held, h.started, h.savepoints, rfl, tracks⟩, rfl, rfl, fine⟩

/-- Without levels the transaction is undone, or stays open. -/
theorem Open.rollback (h : Open s k t []) :
    let q := Query.plain Statement.rollback
    (∃ f text, s.rollback o.server = (.error f, sent s q s.world.server.passed
      [.reported .error text]) ∧ o.Fails s.world.server q) ∨
    (∃ closed, s.rollback o.server = (.ok (), closed) ∧ Idle closed ∧
      closed.client.connection = some k ∧
      closed.world.server.published = s.world.server.published ∧
      closed.world.events = s.world.events ++ [.statement q] ∧
      ¬ o.Fails s.world.server q) := by
  intro q
  let next : State := { s.world.server.passed with transaction := none }
  have after : s.world.server.after? q = some next := by
    simp only [q, State.after?, Query.plain, Command.of_rollback, h.transaction, next]
  rcases command_held (o := o) h.held after with ⟨f, text, run, why⟩ | ⟨run, fine⟩
  · refine .inl ⟨f, text, ?_, why⟩
    simp only [Session.rollback, h.started, Bool.not_true, Bool.false_eq_true, if_false, h.last,
      run]
    rfl
  · refine .inr ⟨⟨{ s.client with started := false }, (sent s q next []).world⟩, ?_,
      ⟨rfl, h.savepoints, fun _ => rfl⟩, h.held, rfl, rfl, fine⟩
    simp only [Session.rollback, h.started, Bool.not_true, Bool.false_eq_true, if_false, h.last,
      run]
    rfl

/-- Closing a level changes nothing on the server. -/
theorem Open.release_level {mark : Mark} (h : Open s k t (mark :: levels)) (hadError : Bool) :
    Open (s.release o.server hadError) k t levels ∧
      (s.release o.server hadError).world = s.world := by
  have run : s.release o.server hadError =
      ⟨{ s.client with savepoints := s.client.savepoints.dropLast }, s.world⟩ := by
    simp only [Session.release, h.isEmpty_savepoints, List.isEmpty_cons, Bool.false_eq_true,
      if_false]
  rw [run]
  refine ⟨⟨h.held, h.started, ?_, h.transaction, h.tracks.pop⟩, rfl⟩
  change s.client.savepoints.dropLast = levelNames levels.length
  rw [h.savepoints, List.length_cons, levelNames_succ, List.dropLast_concat]

/-- Without levels the connection is handed back as it is. -/
theorem Open.release (h : Open s k t []) (hadError : Bool) :
    Idle (s.release o.server hadError) ∧
      (s.release o.server hadError).client.connection = none ∧
      (s.release o.server hadError).world.server = s.world.server ∧
      (s.release o.server hadError).world.events = s.world.events ++ [.released hadError] := by
  have empty : s.client.savepoints.isEmpty = true := h.isEmpty_savepoints
  have run : s.release o.server hadError =
      ⟨⟨none, false, []⟩, o.server.releaseOn k hadError s.world⟩ := by
    simp only [Session.release, empty, if_true, h.held]
  rw [run]
  exact ⟨⟨rfl, rfl, fun gone => absurd rfl gone⟩, rfl, rfl, rfl⟩

/-! ### Writes -/

/-- A write in a transaction is added to it, or changes nothing. -/
theorem Open.write (h : Open s k t levels) (w : Write) :
    (∃ f, (Session.executor o.server).execute w.query s =
      (.error f, sent s w.query s.world.server.passed [])) ∨
    (∃ n written, (Session.executor o.server).execute w.query s = (.ok n, written) ∧
      Open written k { t with writes := t.writes ++ [w.query] } levels ∧
      written.world.server.published = s.world.server.published ∧
      written.world.events = s.world.events ++ [.statement w.query] ∧
      ¬ o.Fails s.world.server w.query) := by
  let next : State := { s.world.server.passed with
    transaction := some { t with writes := t.writes ++ [w.query] } }
  have after : s.world.server.after? w.query = some next := by
    simp only [State.after?, w.plain, h.transaction, next]
  rcases execute_held (o := o) h.held after with ⟨f, run, -⟩ | ⟨n, run, fine⟩
  · exact .inl ⟨f, run⟩
  · exact .inr ⟨n, sent s w.query next [], run,
      ⟨h.held, h.started, h.savepoints, rfl, h.tracks⟩, rfl, rfl, fine⟩

/-- A write outside of a transaction is published at once, or changes nothing. -/
theorem Idle.write (h : Idle s) (held : s.client.connection = some k) (w : Write) :
    (∃ f, (Session.executor o.server).execute w.query s =
      (.error f, sent s w.query s.world.server.passed [])) ∨
    (∃ n written, (Session.executor o.server).execute w.query s = (.ok n, written) ∧
      Idle written ∧ written.client = s.client ∧
      written.world.server.published = s.world.server.published ++ [w.query] ∧
      written.world.events = s.world.events ++ [.statement w.query] ∧
      ¬ o.Fails s.world.server w.query) := by
  have idle := h.transaction (by rw [held]; exact Option.some_ne_none k)
  let next : State := { s.world.server.passed with
    published := s.world.server.published ++ [w.query] }
  have after : s.world.server.after? w.query = some next := by
    simp only [State.after?, w.plain, idle, next]
  rcases execute_held (o := o) held after with ⟨f, run, -⟩ | ⟨n, run, fine⟩
  · exact .inl ⟨f, run⟩
  · exact .inr ⟨n, sent s w.query next [], run, ⟨h.started, h.savepoints, fun _ => idle⟩, rfl, rfl,
      rfl, fine⟩

end TableAccess.Reference
