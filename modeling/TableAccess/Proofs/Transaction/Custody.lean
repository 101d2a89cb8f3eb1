import TableAccess.Proofs.Transaction.Exchange

/-!
The connection of a client goes back once, and nothing reaches it afterwards.

Calls on a client come in any order, and the server answers as it likes. What one call does on a
client that holds its connection is said once, as the effects that it may have; all that holds
of a row of calls follows from them. Closing a level and handing the connection back are one
call, and dropping the client is a second way back, so the levels of the client are counted
along with its connection.
-/

set_option autoImplicit false
set_option relaxedAutoImplicit false

namespace TableAccess

variable {σ κ : Type}

/-- What can be called on a client. Opening a level is one call, whether that begins the
transaction or saves a point in it. -/
inductive ClientCall
  | begin
  | commit
  | rollback
  | release (hadError : Bool)
  | execute (q : Query)

/-- The client whose connection has gone back. -/
def Client.spent : Client κ := ⟨none, false, []⟩

namespace ClientCall

def run (b : Backend σ κ) : ClientCall → Fallible (Session σ κ) Unit
  | .begin => fun s => s.begin b
  | .commit => fun s => s.commit b
  | .rollback => fun s => s.rollback b
  | .release hadError => fun s => (.ok (), s.release b hadError)
  | .execute q => fun s =>
    let (affected, s) := (Session.executor b).execute q s
    (affected.map fun _ => (), s)

/-- The session after some calls, one after another. -/
def runAll (b : Backend σ κ) : List ClientCall → Session σ κ → Session σ κ
  | [], s => s
  | call :: calls, s => runAll b calls (call.run b s).2

def isRelease : ClientCall → Bool
  | .release _ => true
  | .begin | .commit | .rollback | .execute _ => false

/-- A call sets a savepoint when it succeeds in opening a level within an open transaction. -/
def deepens (c : Client κ) (succeeded : Bool) : ClientCall → Bool
  | .begin => c.started && succeeded
  | .commit | .rollback | .release _ | .execute _ => false

/-- How many savepoints some calls set. -/
def pushes (b : Backend σ κ) : List ClientCall → Session σ κ → Nat
  | [], _ => 0
  | call :: calls, s =>
    (call.deepens s.client (call.run b s).1.isOk).toNat + pushes b calls (call.run b s).2

/-- What a call may do on a client that holds its connection: whether it succeeds, what passes
between the client and the server, and the client that it leaves. -/
inductive Effect (k : κ) (c : Client κ) :
    ClientCall → Bool → List (Exchange κ) → Client κ → Prop
  | opened (idle : c.started = false) :
      Effect k c .begin true [.ran k (.plain Statement.begin) true] c.opened
  | deepened (started : c.started = true) :
      Effect k c .begin true [.ran k (.plain (Statement.savepoint c.nextSavepoint)) true] c.deeper
  | published (started : c.started = true) (levels : c.savepoints = []) :
      Effect k c .commit true [.ran k (.plain Statement.commit) true] { c with started := false }
  | undone (started : c.started = true) (levels : c.savepoints = []) :
      Effect k c .rollback true [.ran k (.plain Statement.rollback) true]
        { c with started := false }
  | wentBack (name : String) :
      Effect k c .rollback true [.ran k (.plain (Statement.rollbackTo name)) true] c
  | answered (q : Query) : Effect k c (.execute q) true [.ran k q true] c
  | refused {call : ClientCall} (sends : call.isRelease = false) (q : Query) :
      Effect k c call false [.ran k q false] c
  | nothingToCommit : Effect k c .commit true [] c
  | nothingToUndo : Effect k c .rollback true [] c
  | closed (levels : c.savepoints ≠ []) (hadError : Bool) :
      Effect k c (.release hadError) true [] { c with savepoints := c.savepoints.dropLast }
  | returned (levels : c.savepoints = []) (hadError : Bool) :
      Effect k c (.release hadError) true [.returned k hadError] .spent

/-! ### What one call does -/

section Step

variable {b : Backend σ κ} {s : Session (Logged σ κ) κ} {k : κ}

/-- A call has run on a client that holds its connection, with one of its effects. -/
def Runs (b : Backend σ κ) (s : Session (Logged σ κ) κ) (k : κ) (call : ClientCall) : Prop :=
  ∃ trace, (call.run b.logged s).2.log = s.log ++ trace ∧
    Effect k s.client call (call.run b.logged s).1.isOk trace (call.run b.logged s).2.client

private theorem Runs.of {call : ClientCall} {result : Except Failure Unit}
    {after : Session (Logged σ κ) κ} {trace : List (Exchange κ)}
    (ran : call.run b.logged s = (result, after)) (log : after.log = s.log ++ trace)
    (effect : Effect k s.client call result.isOk trace after.client) : Runs b s k call := by
  refine ⟨trace, ?_, ?_⟩
  · rw [ran, log]
  · rw [ran]
    exact effect

private theorem Runs.refused {call : ClientCall} {f : Failure} {q : Query}
    {after : Session (Logged σ κ) κ} (sends : call.isRelease = false)
    (ran : call.run b.logged s = (.error f, after)) (sent : s.Sent k q false after) :
    Runs b s k call := by
  refine .of ran sent.log ?_
  rw [sent.client]
  exact .refused sends q

private theorem runs_begin (held : s.client.connection = some k) : Runs b s k .begin := by
  by_cases started : s.client.started = true
  · have open_client : s.Started k := ⟨held, started⟩
    rcases open_client.begin (b := b) with ⟨f, after, ran, sent⟩ | ⟨opened, ran, deeper, log⟩
    · exact .refused rfl ran sent
    · refine .of ran log ?_
      rw [deeper]
      exact .deepened started
  · have idle : s.client.started = false := Bool.eq_false_iff.mpr started
    rcases Session.begin_fresh (b := b) held idle with ⟨f, after, ran, sent⟩ |
      ⟨opened, ran, client, log⟩
    · exact .refused rfl ran sent
    · refine .of ran log ?_
      rw [client]
      exact .opened idle

private theorem runs_commit (held : s.client.connection = some k) : Runs b s k .commit := by
  by_cases outermost : s.client.started = true ∧ s.client.savepoints = []
  · obtain ⟨started, levels⟩ := outermost
    have open_client : s.Started k := ⟨held, started⟩
    rcases open_client.commit (b := b) levels with ⟨f, after, ran, sent⟩ |
      ⟨closed, ran, client, log⟩
    · exact .refused rfl ran sent
    · refine .of ran log ?_
      rw [client]
      exact .published started levels
  · have ran : s.commit b.logged = (.ok (), s) := by
      have waits : (!s.client.started || !s.client.savepoints.isEmpty) = true := by
        cases started : s.client.started with
        | false => rfl
        | true => simpa [started] using outermost
      simp only [Session.commit, waits, if_true]
    exact .of ran (List.append_nil _).symm .nothingToCommit

private theorem runs_rollback (held : s.client.connection = some k) : Runs b s k .rollback := by
  by_cases started : s.client.started = true
  · have open_client : s.Started k := ⟨held, started⟩
    cases last : s.client.savepoints.getLast? with
    | none =>
      have levels : s.client.savepoints = [] := List.getLast?_eq_none_iff.mp last
      rcases open_client.rollback (b := b) levels with ⟨f, after, ran, sent⟩ |
        ⟨closed, ran, client, log⟩
      · exact .refused rfl ran sent
      · refine .of ran log ?_
        rw [client]
        exact .undone started levels
    | some name =>
      have body : s.rollback b.logged = s.command b.logged (Statement.rollbackTo name) := by
        simp only [Session.rollback, started, Bool.not_true, Bool.false_eq_true, if_false, last]
      rcases Session.command_logged (b := b) held (Statement.rollbackTo name) with
        ⟨f, after, ran, sent⟩ | ⟨after, ran, sent⟩
      · exact .refused rfl (body.trans ran) sent
      · refine .of (body.trans ran) sent.log ?_
        rw [sent.client]
        exact .wentBack name
  · have idle : s.client.started = false := Bool.eq_false_iff.mpr started
    have ran : s.rollback b.logged = (.ok (), s) := by
      simp only [Session.rollback, idle, Bool.not_false, if_true]
    exact .of ran (List.append_nil _).symm .nothingToUndo

private theorem runs_release (held : s.client.connection = some k) (hadError : Bool) :
    Runs b s k (.release hadError) := by
  by_cases levels : s.client.savepoints = []
  · obtain ⟨client, log⟩ := Session.release_outermost (b := b) hadError held levels
    refine .of rfl log ?_
    rw [client]
    exact .returned levels hadError
  · have level := Session.release_level (b := b) hadError levels
    have log : (s.release b.logged hadError).log = s.log ++ [] := by
      rw [level, List.append_nil]
      rfl
    refine .of rfl log ?_
    rw [level]
    exact .closed levels hadError

private theorem runs_execute (held : s.client.connection = some k) (q : Query) :
    Runs b s k (.execute q) := by
  rcases Session.execute_logged (b := b) held q with ⟨f, after, ran, sent⟩ |
    ⟨n, after, ran, sent⟩
  · have called : (ClientCall.execute q).run b.logged s = (.error f, after) := by
      simp only [ClientCall.run, ran, Except.map]
    exact .refused rfl called sent
  · have called : (ClientCall.execute q).run b.logged s = (.ok (), after) := by
      simp only [ClientCall.run, ran, Except.map]
    refine .of called sent.log ?_
    rw [sent.client]
    exact .answered q

/-- Every call on a client that holds its connection has one of its effects. -/
theorem runs_held (held : s.client.connection = some k) (call : ClientCall) :
    Runs b s k call := by
  cases call with
  | begin => exact runs_begin held
  | commit => exact runs_commit held
  | rollback => exact runs_rollback held
  | release hadError => exact runs_release held hadError
  | execute q => exact runs_execute held q

end Step

/-- A call has left the connection with the client: it has only run statements on it, and a level
is gone for a release and added for a savepoint. -/
structure Kept (k : κ) (c : Client κ) (call : ClientCall) (succeeded : Bool)
    (trace : List (Exchange κ)) (after : Client κ) : Prop where
  connection : after.connection = c.connection
  runs : RunsOnly k trace
  depth : after.depth + call.isRelease.toNat = c.depth + (call.deepens c succeeded).toNat

/-- A call has handed the connection back, which only a release without levels does. -/
structure GaveBack (k : κ) (c : Client κ) (call : ClientCall) (trace : List (Exchange κ))
    (after : Client κ) : Prop where
  levels : c.savepoints = []
  returned : ∃ hadError, call = .release hadError ∧ trace = [.returned k hadError]
  spent : after = .spent

theorem Effect.kept_or_gaveBack {k : κ} {c after : Client κ} {call : ClientCall}
    {succeeded : Bool} {trace : List (Exchange κ)} (h : Effect k c call succeeded trace after) :
    Kept k c call succeeded trace after ∨ GaveBack k c call trace after := by
  cases h with
  | opened idle =>
    refine .inl ⟨rfl, by simp, ?_⟩
    simp only [deepens, idle]
    rfl
  | deepened started =>
    refine .inl ⟨rfl, by simp, ?_⟩
    simp only [deepens, started, Client.depth, Client.deeper, List.length_append]
    rfl
  | published started levels => exact .inl ⟨rfl, by simp, rfl⟩
  | undone started levels => exact .inl ⟨rfl, by simp, rfl⟩
  | wentBack name => exact .inl ⟨rfl, by simp, rfl⟩
  | answered q => exact .inl ⟨rfl, by simp, rfl⟩
  | refused sends q =>
    refine .inl ⟨rfl, by simp, ?_⟩
    have pushed : call.deepens c false = false := by
      cases call <;> simp only [deepens, Bool.and_false]
    rw [sends, pushed]
  | nothingToCommit => exact .inl ⟨rfl, runsOnly_nil k, rfl⟩
  | nothingToUndo => exact .inl ⟨rfl, runsOnly_nil k, rfl⟩
  | closed levels hadError =>
    refine .inl ⟨rfl, runsOnly_nil k, ?_⟩
    have positive : 0 < c.savepoints.length := List.length_pos_iff.mpr levels
    simp only [deepens, isRelease, Client.depth, List.length_dropLast, Bool.toNat_true,
      Bool.toNat_false]
    omega
  | returned levels hadError => exact .inr ⟨levels, ⟨hadError, rfl, rfl⟩, rfl⟩

end ClientCall

/-! ### A client without a connection -/

/-- Whatever is called on the session changes nothing but the reports: what needs a connection
fails for the want of one, and all else is done at once. -/
structure Session.Inert (b : Backend σ κ) (s : Session σ κ) : Prop where
  begin : ∃ f, s.begin b = (.error f, s.report .error f.message) ∧ f.cause = .clientReleased
  execute : ∀ q, ∃ f, (Session.executor b).execute q s = (.error f, s) ∧ f.cause = .clientReleased
  commit : s.commit b = (.ok (), s)
  rollback : s.rollback b = (.ok (), s)
  release : ∀ hadError, s.release b hadError = s.report .warning "The client was already released"

namespace Session

variable {b : Backend σ κ} {s : Session σ κ}

theorem inert_spent (spent : s.client = .spent) : s.Inert b := by
  have gone : s.client.connection = none := congrArg Client.connection spent
  have idle : s.client.started = false := congrArg Client.started spent
  have levels : s.client.savepoints = [] := congrArg Client.savepoints spent
  have refused (q : Query) :
      (executor b).execute q s = (.error (.of .clientReleased), s) := by
    simp only [Executor.execute, executor, Session.run, gone]
    rfl
  refine ⟨?_, fun q => ⟨_, refused q, rfl⟩, ?_, ?_, ?_⟩
  · let f := (Failure.of .clientReleased).within (Query.plain Statement.begin).activity
    refine ⟨f, ?_, rfl⟩
    simp only [Session.begin, idle, Bool.false_eq_true, if_false, command, refused]
    rfl
  · simp only [Session.commit, idle, Bool.not_false, Bool.true_or, if_true]
  · simp only [Session.rollback, idle, Bool.not_false, if_true]
  · intro hadError
    simp only [Session.release, levels, List.isEmpty_nil, if_true, gone]

/-- A call on an inert session leaves the client and the server as they are. -/
theorem Inert.run (h : s.Inert b) (call : ClientCall) :
    (call.run b s).2.client = s.client ∧ (call.run b s).2.world.server = s.world.server := by
  cases call with
  | begin =>
    obtain ⟨f, ran, -⟩ := h.begin
    simp only [ClientCall.run, ran]
    exact ⟨rfl, rfl⟩
  | commit => simp only [ClientCall.run, h.commit, and_self]
  | rollback => simp only [ClientCall.run, h.rollback, and_self]
  | release hadError =>
    simp only [ClientCall.run, h.release]
    exact ⟨rfl, rfl⟩
  | execute q =>
    obtain ⟨f, ran, -⟩ := h.execute q
    simp only [ClientCall.run, ran, and_self]

theorem runAll_spent (spent : s.client = .spent) (calls : List ClientCall) :
    (ClientCall.runAll b calls s).client = .spent ∧
      (ClientCall.runAll b calls s).world.server = s.world.server := by
  induction calls generalizing s with
  | nil => exact ⟨spent, rfl⟩
  | cons call calls ih =>
    obtain ⟨client, server⟩ := (inert_spent (b := b) spent).run call
    obtain ⟨still, same⟩ := ih (client.trans spent)
    exact ⟨still, same.trans server⟩

theorem drop_spent (spent : s.client = .spent) : s.drop b = s.world := by
  have gone : s.client.connection = none := congrArg Client.connection spent
  simp only [Session.drop, gone]

end Session

/-! ### What any calls do -/

namespace Session

variable {b : Backend σ κ} {s : Session (Logged σ κ) κ} {k : κ}

/-- Dropping a client hands back what it holds, with an error when a transaction is open. -/
theorem log_drop_held (held : s.client.connection = some k) :
    (s.drop b.logged).server.log = s.log ++ [.returned k s.client.started] := by
  simp only [Session.drop, held]
  cases s.client.started <;> rfl

/-- A release hands the connection back exactly when no level is open. -/
theorem release_returns_iff (held : s.client.connection = some k) (hadError : Bool) :
    (s.release b.logged hadError).log = s.log ++ [.returned k hadError] ↔
      s.client.savepoints = [] := by
  constructor
  · intro returned
    apply Decidable.byContradiction
    intro levels
    have quiet : (s.release b.logged hadError).log = s.log := by
      rw [release_level hadError levels]
      rfl
    have lengths := congrArg List.length (quiet.symm.trans returned)
    simp only [List.length_append, List.length_singleton] at lengths
    omega
  · intro levels
    exact (release_outermost hadError held levels).2

/-- Where the connection of a client is after some calls: with the client, whose levels are the
savepoints that were set less the releases; or handed back, with nothing after that. -/
inductive Custody (b : Backend σ κ) (s : Session (Logged σ κ) κ) (k : κ)
    (calls : List ClientCall) : Prop
  | held {trace : List (Exchange κ)}
      (held : (ClientCall.runAll b.logged calls s).client.connection = some k)
      (log : (ClientCall.runAll b.logged calls s).log = s.log ++ trace)
      (runs : RunsOnly k trace)
      (depth : (ClientCall.runAll b.logged calls s).client.depth +
        calls.countP ClientCall.isRelease = s.client.depth + ClientCall.pushes b.logged calls s)
  | returned {trace : List (Exchange κ)} (hadError : Bool)
      (spent : (ClientCall.runAll b.logged calls s).client = .spent)
      (log : (ClientCall.runAll b.logged calls s).log =
        s.log ++ (trace ++ [.returned k hadError]))
      (runs : RunsOnly k trace)

theorem custody (held : s.client.connection = some k) (calls : List ClientCall) :
    Custody b s k calls := by
  induction calls generalizing s with
  | nil => exact .held held (List.append_nil _).symm (runsOnly_nil k) rfl
  | cons call calls ih =>
    obtain ⟨trace, log, effect⟩ := ClientCall.runs_held (b := b) held call
    rcases effect.kept_or_gaveBack with kept | gave
    · -- The connection stays, so the rest of the calls starts from a client that holds it.
      have further := ih (kept.connection.trans held)
      cases further with
      | @held more held' log' runs' depth' =>
        have whole : (ClientCall.runAll b.logged (call :: calls) s).log =
            s.log ++ (trace ++ more) := by
          rw [ClientCall.runAll, log', log, List.append_assoc]
        refine .held held' whole ((runsOnly_append k trace more).mpr ⟨kept.runs, runs'⟩) ?_
        have depth := kept.depth
        rw [ClientCall.runAll, ClientCall.pushes, List.countP_cons]
        cases released : call.isRelease <;> simp only [released, Bool.toNat_true,
          Bool.toNat_false, if_true, Bool.false_eq_true, if_false] at depth ⊢ <;> omega
      | @returned more hadError spent log' runs' =>
        have whole : (ClientCall.runAll b.logged (call :: calls) s).log =
            s.log ++ (trace ++ more ++ [.returned k hadError]) := by
          rw [ClientCall.runAll, log', log]
          simp only [List.append_assoc]
        exact .returned hadError spent whole
          ((runsOnly_append k trace more).mpr ⟨kept.runs, runs'⟩)
    · obtain ⟨hadError, -, rfl⟩ := gave.returned
      obtain ⟨spent, server⟩ := runAll_spent (b := b.logged) gave.spent calls
      have whole : (ClientCall.runAll b.logged (call :: calls) s).log =
          s.log ++ ([] ++ [.returned k hadError]) := by
        rw [ClientCall.runAll, Session.log, server]
        exact log
      exact .returned hadError spent whole (runsOnly_nil k)

end Session

/-- After any calls on a fresh client, whatever its server answers, dropping it leaves its
connection handed back exactly once, and last of all. Once it has gone back, nothing that is
called reaches the server: opening a level and running a statement fail because the client was
released, and publishing, undoing and releasing do nothing. Until then a release hands it back
exactly when as many releases came before as savepoints were set. -/
theorem client_returns_once (b : Backend σ κ) (k : κ) (w : World (Logged σ κ))
    (calls : List ClientCall) :
    let fresh : Session (Logged σ κ) κ := ⟨.ofConnection k, w⟩
    let s := ClientCall.runAll b.logged calls fresh
    (∃ trace hadError,
      (s.drop b.logged).server.log = w.server.log ++ (trace ++ [.returned k hadError]) ∧
      RunsOnly k trace) ∧
    (s.client.connection = none → s.Inert b.logged) ∧
    (s.client.connection ≠ none → ∀ hadError,
      ((s.release b.logged hadError).log = s.log ++ [.returned k hadError] ↔
        ClientCall.pushes b.logged calls fresh = calls.countP ClientCall.isRelease)) := by
  intro fresh s
  have custody : Session.Custody b fresh k calls := Session.custody rfl calls
  cases custody with
  | @held trace held log runs depth =>
    refine ⟨⟨trace, s.client.started, ?_, runs⟩, ?_, ?_⟩
    · rw [Session.log_drop_held held, log, List.append_assoc]
      rfl
    · intro gone
      rw [held] at gone
      cases gone
    · intro _ hadError
      have counted : s.client.savepoints.length + calls.countP ClientCall.isRelease =
          ClientCall.pushes b.logged calls fresh := by
        rw [← Nat.zero_add (ClientCall.pushes b.logged calls fresh)]
        exact depth
      rw [Session.release_returns_iff (s := s) held, ← List.length_eq_zero_iff]
      omega
  | @returned trace hadError spent log runs =>
    have gone : s.client.connection = none := congrArg Client.connection spent
    refine ⟨⟨trace, hadError, ?_, runs⟩, fun _ => Session.inert_spent spent, fun held => ?_⟩
    · rw [Session.drop_spent spent]
      exact log
    · exact absurd gone held

end TableAccess
