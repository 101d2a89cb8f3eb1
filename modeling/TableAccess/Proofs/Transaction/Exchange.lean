import TableAccess.Coordinator

/-!
What passes between a client and a server of any kind, in order.

A server that keeps a log answers as the server without it does, so whatever fails on the one
fails on the other. The lemmas say what each command of a client adds to the log, and which
client it leaves, whether it succeeds or not.
-/

set_option autoImplicit false
set_option relaxedAutoImplicit false

namespace TableAccess

/-- What passes between a client and a server: a connection is given, a statement runs on a
connection and succeeds or not, and a connection is handed back. -/
inductive Exchange (κ : Type)
  | acquired (k : κ)
  | ran (k : κ) (q : Query) (succeeded : Bool)
  | returned (k : κ) (hadError : Bool)

/-- A statement runs on the connection. -/
def Exchange.RunsOn {κ : Type} (k : κ) : Exchange κ → Prop
  | .ran k' _ _ => k' = k
  | .acquired _ | .returned _ _ => False

@[simp] theorem Exchange.runsOn_ran {κ : Type} (k : κ) (q : Query) (succeeded : Bool) :
    (Exchange.ran k q succeeded).RunsOn k := rfl

/-- Nothing passes but statements on the connection. -/
def RunsOnly {κ : Type} (k : κ) (trace : List (Exchange κ)) : Prop := ∀ e ∈ trace, e.RunsOn k

@[simp] theorem runsOnly_nil {κ : Type} (k : κ) : RunsOnly k [] :=
  fun _ mem => absurd mem List.not_mem_nil

@[simp] theorem runsOnly_cons {κ : Type} (k : κ) (e : Exchange κ) (trace : List (Exchange κ)) :
    RunsOnly k (e :: trace) ↔ e.RunsOn k ∧ RunsOnly k trace :=
  List.forall_mem_cons

@[simp] theorem runsOnly_append {κ : Type} (k : κ) (trace more : List (Exchange κ)) :
    RunsOnly k (trace ++ more) ↔ RunsOnly k trace ∧ RunsOnly k more :=
  List.forall_mem_append

/-- A server with what has passed so far, the earliest first. -/
structure Logged (σ κ : Type) where
  server : σ
  log : List (Exchange κ)

/-- The server that keeps a log. -/
def Backend.logged {σ κ : Type} (b : Backend σ κ) : Backend (Logged σ κ) κ where
  dialect := b.dialect
  acquire s :=
    match b.acquire s.server with
    | (.ok k, server) => (.ok k, ⟨server, s.log ++ [.acquired k]⟩)
    | (.error f, server) => (.error f, ⟨server, s.log⟩)
  run k q s :=
    let (answer, server) := b.run k q s.server
    (answer, ⟨server, s.log ++ [.ran k q answer.affected.isOk]⟩)
  release k hadError s := ⟨b.release k hadError s.server, s.log ++ [.returned k hadError]⟩
  drain s :=
    let (r, server) := b.drain s.server
    (r, ⟨server, s.log⟩)

/-- The client with a further level of work. -/
def Client.deeper {κ : Type} (c : Client κ) : Client κ :=
  { c with savepoints := c.savepoints ++ [c.nextSavepoint] }

/-- The client on which a transaction is open. -/
def Client.opened {κ : Type} (c : Client κ) : Client κ := { c with started := true }

namespace Session

variable {σ κ : Type} {b : Backend σ κ} {s after : Session (Logged σ κ) κ} {k : κ}

def log (s : Session (Logged σ κ) κ) : List (Exchange κ) := s.world.server.log

/-! ### Statements on a held connection -/

/-- A statement has run on a connection, and the client is the one from before. -/
structure Sent (s : Session (Logged σ κ) κ) (k : κ) (q : Query) (succeeded : Bool)
    (after : Session (Logged σ κ) κ) : Prop where
  client : after.client = s.client
  log : after.log = s.log ++ [.ran k q succeeded]

theorem execute_logged (held : s.client.connection = some k) (q : Query) :
    (∃ f after, (executor b.logged).execute q s = (.error f, after) ∧ s.Sent k q false after) ∨
    (∃ n after, (executor b.logged).execute q s = (.ok n, after) ∧ s.Sent k q true after) := by
  let answer := (b.run k q s.world.server.server).1
  let after : Session (Logged σ κ) κ := { s with world := (b.logged.runOn k q s.world).2 }
  have run : (executor b.logged).execute q s = (answer.affected, after) := by
    simp only [Executor.execute, executor, Session.run, held, after]
    rfl
  have log : after.log = s.log ++ [.ran k q answer.affected.isOk] := rfl
  cases affected : answer.affected with
  | error f =>
    rw [affected] at run log
    exact .inl ⟨f, after, run, rfl, log⟩
  | ok n =>
    rw [affected] at run log
    exact .inr ⟨n, after, run, rfl, log⟩

theorem command_logged (held : s.client.connection = some k) (sql : String) :
    (∃ f after, s.command b.logged sql = (.error f, after) ∧
      s.Sent k (.plain sql) false after) ∨
    (∃ after, s.command b.logged sql = (.ok (), after) ∧ s.Sent k (.plain sql) true after) := by
  rcases execute_logged (b := b) held (.plain sql) with ⟨f, after, run, sent⟩ |
    ⟨n, after, run, sent⟩
  · let reported := f.within (Query.plain sql).activity
    refine .inl ⟨reported, after.report .error reported.message, ?_, sent.client, sent.log⟩
    simp only [command, run]
    rfl
  · refine .inr ⟨after, ?_, sent⟩
    simp only [command, run]

/-! ### Levels of a started client -/

/-- The client holds a connection on which a transaction is open. -/
structure Started (s : Session (Logged σ κ) κ) (k : κ) : Prop where
  held : s.client.connection = some k
  started : s.client.started = true

theorem Started.same (h : s.Started k) (same : after.client = s.client) : after.Started k :=
  ⟨by rw [same, h.held], by rw [same, h.started]⟩

theorem Started.deeper (h : s.Started k) (client : after.client = s.client.deeper) :
    after.Started k :=
  ⟨by rw [client, Client.deeper, h.held], by rw [client, Client.deeper, h.started]⟩

/-- A started client opens a level, or stays as it is. -/
theorem Started.begin (h : s.Started k) :
    let mark := Query.plain (Statement.savepoint s.client.nextSavepoint)
    (∃ f after, s.begin b.logged = (.error f, after) ∧ s.Sent k mark false after) ∨
    (∃ opened, s.begin b.logged = (.ok (), opened) ∧ opened.client = s.client.deeper ∧
      opened.log = s.log ++ [.ran k mark true]) := by
  intro mark
  rcases command_logged (b := b) h.held (Statement.savepoint s.client.nextSavepoint) with
    ⟨f, after, run, sent⟩ | ⟨after, run, sent⟩
  · refine .inl ⟨f, after, ?_, sent⟩
    simp only [Session.begin, h.started, if_true, run]
  · refine .inr ⟨{ after with client := after.client.deeper }, ?_, ?_, sent.log⟩
    · simp only [Session.begin, h.started, if_true, run, Client.deeper, sent.client]
    · exact congrArg Client.deeper sent.client

private theorem savepoints_deeper (client : after.client = s.client.deeper) :
    after.client.savepoints.isEmpty = false := by
  simp only [client, Client.deeper, List.isEmpty_eq_false_iff, ne_eq, List.append_eq_nil_iff,
    List.cons_ne_nil, and_false, not_false_eq_true]

/-- Publishing waits for the levels of a client to be closed. -/
theorem commit_deeper (client : after.client = s.client.deeper) :
    after.commit b.logged = (.ok (), after) := by
  simp only [Session.commit, savepoints_deeper client, Bool.not_false, Bool.or_true, if_true]

/-- Undoing a level sends the statement that goes back to it, and leaves the client as it is. -/
theorem Started.rollback_deeper (h : s.Started k) (client : after.client = s.client.deeper) :
    after.rollback b.logged =
      after.command b.logged (Statement.rollbackTo s.client.nextSavepoint) := by
  have last : after.client.savepoints.getLast? = some s.client.nextSavepoint := by
    simp only [client, Client.deeper, List.getLast?_concat]
  simp only [Session.rollback, (h.deeper client).started, Bool.not_true, Bool.false_eq_true,
    if_false, last]

/-- Closing the innermost level of a client forgets it, whatever happened within it. -/
theorem release_level (hadError : Bool) (levels : s.client.savepoints ≠ []) :
    s.release b.logged hadError =
      ⟨{ s.client with savepoints := s.client.savepoints.dropLast }, s.world⟩ := by
  have open_level : s.client.savepoints.isEmpty = false := List.isEmpty_eq_false_iff.mpr levels
  simp only [Session.release, open_level, Bool.false_eq_true, if_false]

/-- Closing a further level leaves the client from before it. -/
theorem release_deeper (hadError : Bool) (client : after.client = s.client.deeper) :
    after.release b.logged hadError = ⟨s.client, after.world⟩ := by
  rw [release_level hadError (List.isEmpty_eq_false_iff.mp (savepoints_deeper client))]
  simp only [client, Client.deeper, List.dropLast_concat]

/-! ### The transaction of a client -/

/-- A client on which nothing is open opens a transaction, or stays as it is. -/
theorem begin_fresh (held : s.client.connection = some k) (started : s.client.started = false) :
    let start := Query.plain Statement.begin
    (∃ f after, s.begin b.logged = (.error f, after) ∧ s.Sent k start false after) ∨
    (∃ opened, s.begin b.logged = (.ok (), opened) ∧ opened.client = s.client.opened ∧
      opened.log = s.log ++ [.ran k start true]) := by
  intro start
  rcases command_logged (b := b) held Statement.begin with ⟨f, after, run, sent⟩ |
    ⟨after, run, sent⟩
  · refine .inl ⟨f, after, ?_, sent⟩
    simp only [Session.begin, started, Bool.false_eq_true, if_false, run]
  · refine .inr ⟨{ after with client := after.client.opened }, ?_, ?_, sent.log⟩
    · simp only [Session.begin, started, Bool.false_eq_true, if_false, run, Client.opened]
    · exact congrArg Client.opened sent.client

/-- A started client without levels publishes, or stays as it is. -/
theorem Started.commit (h : s.Started k) (levels : s.client.savepoints = []) :
    let publish := Query.plain Statement.commit
    (∃ f after, s.commit b.logged = (.error f, after) ∧ s.Sent k publish false after) ∨
    (∃ closed, s.commit b.logged = (.ok (), closed) ∧
      closed.client = { s.client with started := false } ∧
      closed.log = s.log ++ [.ran k publish true]) := by
  intro publish
  have outermost : (!s.client.started || !s.client.savepoints.isEmpty) = false := by
    rw [h.started, levels]
    rfl
  rcases command_logged (b := b) h.held Statement.commit with ⟨f, after, run, sent⟩ |
    ⟨after, run, sent⟩
  · refine .inl ⟨f, after, ?_, sent⟩
    simp only [Session.commit, outermost, Bool.false_eq_true, if_false, run]
  · refine .inr ⟨{ after with client := { after.client with started := false } }, ?_, ?_,
      sent.log⟩
    · simp only [Session.commit, outermost, Bool.false_eq_true, if_false, run]
    · simp only [sent.client]

/-- A started client without levels undoes its transaction, or stays as it is. -/
theorem Started.rollback (h : s.Started k) (levels : s.client.savepoints = []) :
    let undo := Query.plain Statement.rollback
    (∃ f after, s.rollback b.logged = (.error f, after) ∧ s.Sent k undo false after) ∨
    (∃ closed, s.rollback b.logged = (.ok (), closed) ∧
      closed.client = { s.client with started := false } ∧
      closed.log = s.log ++ [.ran k undo true]) := by
  intro undo
  rcases command_logged (b := b) h.held Statement.rollback with ⟨f, after, run, sent⟩ |
    ⟨after, run, sent⟩
  · refine .inl ⟨f, after, ?_, sent⟩
    simp only [Session.rollback, h.started, levels, List.getLast?_nil, Bool.not_true,
      Bool.false_eq_true, if_false, run]
  · refine .inr ⟨{ after with client := { after.client with started := false } }, ?_, ?_,
      sent.log⟩
    · simp only [Session.rollback, h.started, levels, List.getLast?_nil, Bool.not_true,
        Bool.false_eq_true, if_false, run]
    · simp only [sent.client]

/-- Closing a client without levels hands its connection back. -/
theorem release_outermost (hadError : Bool) (held : s.client.connection = some k)
    (levels : s.client.savepoints = []) :
    (s.release b.logged hadError).client = ⟨none, false, []⟩ ∧
      (s.release b.logged hadError).log = s.log ++ [.returned k hadError] := by
  simp only [Session.release, levels, List.isEmpty_nil, if_true, held]
  exact ⟨trivial, rfl⟩

end Session

end TableAccess
