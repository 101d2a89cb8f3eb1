import TableAccess.Proofs.Transaction.Steps

/-!
A client agrees with its server, whatever is called on it and whatever fails.

Calls on a client are taken one after another, together with the statements that set the marks
of its open levels. After any number of calls the client is idle or open, and from this follows
what the next call may send.
-/

set_option autoImplicit false
set_option relaxedAutoImplicit false

namespace TableAccess.Reference

variable {κ : Type} {o : Script κ} {s after : Session State κ} {k : κ} {t : Transaction}
  {numbers : List Nat}

/-- What can be called on a client. -/
inductive Call
  | begin
  | commit
  | rollback
  | release (hadError : Bool)
  | write (w : Write)

def Call.run (b : Backend State κ) : Call → Fallible (Session State κ) Unit
  | .begin => fun s => s.begin b
  | .commit => fun s => s.commit b
  | .rollback => fun s => s.rollback b
  | .release hadError => fun s => (.ok (), s.release b hadError)
  | .write w => fun s =>
    let (written, s) := (Session.executor b).execute w.query s
    (written.map fun _ => (), s)

/-- The statements among some events. -/
def statements (events : List Event) : List Query :=
  events.filterMap fun
    | .statement q => some q
    | .released _ | .reported _ _ => none

/-- The statements that a call sends. -/
def Call.issued (o : Script κ) (call : Call) (s : Session State κ) : List Query :=
  statements ((call.run o.server s).2.world.events.drop s.world.events.length)

/-- A client, and the numbers of the statements that opened its levels, the innermost first. -/
structure Traced (κ : Type) where
  session : Session State κ
  numbers : List Nat

namespace Traced

def fresh (k : κ) (served : Nat) (published : List Query) (events : List Event) : Traced κ :=
  ⟨⟨.ofConnection k, ⟨.idle served published, events⟩⟩, []⟩

/-- The numbers after a call: a level is opened by the statement that the call sends. -/
def numbersAfter (x : Traced κ) (call : Call) (result : Except Failure Unit) : List Nat :=
  match call, result with
  | .begin, .ok () =>
    if x.session.client.started then x.session.world.server.served :: x.numbers else x.numbers
  | .release _, _ => x.numbers.tail
  | _, _ => x.numbers

def step (o : Script κ) (x : Traced κ) (call : Call) : Traced κ :=
  let (result, s) := call.run o.server x.session
  ⟨s, x.numbersAfter call result⟩

def run (o : Script κ) (x : Traced κ) (calls : List Call) : Traced κ := calls.foldl (step o) x

/-- The client goes with the state of the server. -/
structure Matches (k : κ) (x : Traced κ) : Prop where
  savepoints : x.session.client.savepoints = levelNames x.session.client.depth
  started : x.session.client.savepoints ≠ [] → x.session.client.started = true
  held : x.session.client.started = true → x.session.client.connection = some k
  transaction : x.session.client.connection ≠ none →
    (x.session.client.started = true ↔ x.session.world.server.transaction ≠ none)

/-- What goes back to a mark of the server goes back to the one that the innermost level of the
client was opened with. -/
def Resolves (x : Traced κ) : Command → Prop
  | .rollbackTo name => ∃ t mark, x.session.world.server.transaction = some t ∧
      t.latest? name = some mark ∧ x.numbers.head? = some mark.number
  | .begin | .commit | .rollback | .savepoint _ | .write => True

/-- What the next call sends belongs where it arrives, and a call that fails leaves the client
as it is. -/
structure Sound (o : Script κ) (x : Traced κ) (call : Call) : Prop where
  one : (call.issued o x.session).length ≤ 1
  legal : ∀ q ∈ call.issued o x.session, x.session.world.server.Legal (Command.of q.sql)
  resolves : ∀ q ∈ call.issued o x.session, x.Resolves (Command.of q.sql)
  failing : ∀ q ∈ call.issued o x.session, o.Fails x.session.world.server q →
    ∃ f, (call.run o.server x.session).1 = .error f
  unchanged : ∀ f, (call.run o.server x.session).1 = .error f →
    (call.run o.server x.session).2.client = x.session.client

end Traced

/-! ### What one call sends -/

private theorem issued_of_events {call : Call} {result : Except Failure Unit}
    {reports : List Event} (ran : call.run o.server s = (result, after))
    (events : after.world.events = s.world.events ++ reports) :
    call.issued o s = statements reports := by
  simp only [Call.issued, ran, events, List.drop_left]

private theorem Traced.Sound.quiet {call : Call} {result : Except Failure Unit} {e : List Event}
    (ran : call.run o.server s = (result, after))
    (events : after.world.events = s.world.events ++ e) (silent : statements e = [])
    (unchanged : ∀ f, result = .error f → after.client = s.client) :
    Traced.Sound o ⟨s, numbers⟩ call := by
  have nothing : call.issued o s = [] := (issued_of_events ran events).trans silent
  refine ⟨?_, ?_, ?_, ?_, ?_⟩
  · exact Nat.le_trans (Nat.le_of_eq (congrArg List.length nothing)) (Nat.zero_le 1)
  all_goals simp only [nothing, ran, List.not_mem_nil, false_imp_iff, implies_true]
  exact unchanged

private theorem Traced.Sound.refused {call : Call} {q : Query} {f : Failure}
    {reports : List Event} (legal : s.world.server.Legal (Command.of q.sql))
    (resolves : Traced.Resolves ⟨s, numbers⟩ (Command.of q.sql))
    (ran : call.run o.server s = (.error f, sent s q s.world.server.passed reports))
    (silent : statements reports = []) : Traced.Sound o ⟨s, numbers⟩ call := by
  have only : call.issued o s = [q] := by
    refine (issued_of_events ran rfl).trans ?_
    exact congrArg (q :: ·) silent
  refine ⟨?_, ?_, ?_, ?_, ?_⟩
  · exact Nat.le_of_eq (congrArg List.length only)
  all_goals simp only [only, ran, List.mem_singleton, forall_eq]
  · exact legal
  · exact resolves
  · exact fun _ => ⟨f, rfl⟩
  · exact fun _ _ => rfl

private theorem Traced.Sound.served {call : Call} {q : Query}
    (legal : s.world.server.Legal (Command.of q.sql))
    (resolves : Traced.Resolves ⟨s, numbers⟩ (Command.of q.sql))
    (ran : call.run o.server s = (.ok (), after))
    (events : after.world.events = s.world.events ++ [.statement q])
    (fine : ¬ o.Fails s.world.server q) : Traced.Sound o ⟨s, numbers⟩ call := by
  have only : call.issued o s = [q] := (issued_of_events ran events).trans rfl
  refine ⟨?_, ?_, ?_, ?_, ?_⟩
  · exact Nat.le_of_eq (congrArg List.length only)
  all_goals simp only [only, ran, List.mem_singleton, forall_eq]
  · exact legal
  · exact resolves
  · exact fun failed => absurd failed fine
  · intro f impossible
    cases impossible

/-! ### What one call preserves -/

/-- The client is idle, or open with the numbers of the marks of its levels. -/
inductive Aligned (k : κ) : Traced κ → Prop
  | idle {s : Session State κ} (idle : Idle s)
      (own : s.client.connection = none ∨ s.client.connection = some k) : Aligned k ⟨s, []⟩
  | opened {s : Session State κ} {t : Transaction} {levels : List Mark}
      (opened : Open s k t levels) : Aligned k ⟨s, levels.map Mark.number⟩

/-- An idle client is still idle after a call, or has opened a transaction. -/
private theorem idle_step (call : Call) (h : Idle s)
    (own : s.client.connection = none ∨ s.client.connection = some k) :
    Traced.Sound o ⟨s, []⟩ call ∧ Aligned k (Traced.step o ⟨s, []⟩ call) := by
  cases call with
  | begin =>
    rcases own with gone | held
    · obtain ⟨f, text, ran⟩ := h.begin_released (o := o) gone
      refine ⟨.quiet ran rfl rfl fun _ _ => rfl, ?_⟩
      simp only [Traced.step, Call.run, ran, Traced.numbersAfter]
      exact .idle ⟨h.started, h.savepoints, h.transaction⟩ (.inl gone)
    · have outside : s.world.server.Legal (Command.of (Query.plain Statement.begin).sql) := by
        simp only [Query.plain, Command.of_begin, State.Legal]
        exact h.transaction (by rw [held]; exact Option.some_ne_none k)
      have resolves : Traced.Resolves ⟨s, []⟩ (Command.of (Query.plain Statement.begin).sql) := by
        simp only [Query.plain, Command.of_begin, Traced.Resolves]
      rcases h.begin_held (o := o) held with ⟨f, text, ran⟩ | ⟨opened, ran, level, -, events, fine⟩
      · refine ⟨.refused outside resolves ran rfl, ?_⟩
        simp only [Traced.step, Call.run, ran, Traced.numbersAfter]
        exact .idle (h.refused _ _) (.inr held)
      · refine ⟨.served outside resolves ran events fine, ?_⟩
        simp only [Traced.step, Call.run, ran, Traced.numbersAfter, h.started, Bool.false_eq_true,
          if_false]
        exact .opened level
  | commit =>
    have ran := h.commit (o := o)
    refine ⟨.quiet ran (List.append_nil _).symm rfl fun _ _ => rfl, ?_⟩
    simp only [Traced.step, Call.run, ran, Traced.numbersAfter]
    exact .idle h own
  | rollback =>
    have ran := h.rollback (o := o)
    refine ⟨.quiet ran (List.append_nil _).symm rfl fun _ _ => rfl, ?_⟩
    simp only [Traced.step, Call.run, ran, Traced.numbersAfter]
    exact .idle h own
  | release hadError =>
    obtain ⟨idle, gone, -, e, other, events⟩ := h.release (o := o) hadError
    have silent : statements [e] = [] := by
      cases e with
      | statement q => exact absurd rfl (other q)
      | released | reported => rfl
    refine ⟨.quiet rfl events silent fun _ impossible => ?_, .idle idle (.inl gone)⟩
    cases impossible
  | write w =>
    have legal : s.world.server.Legal (Command.of w.query.sql) := by
      simp only [w.plain, State.Legal]
    have resolves : Traced.Resolves ⟨s, []⟩ (Command.of w.query.sql) := by
      simp only [w.plain, Traced.Resolves]
    rcases own with gone | held
    · obtain ⟨f, ran⟩ := execute_released (o := o) gone w.query
      have called : (Call.write w).run o.server s = (.error f, s) := by
        simp only [Call.run, ran, Except.map]
      refine ⟨.quiet called (List.append_nil _).symm rfl fun _ _ => rfl, ?_⟩
      simp only [Traced.step, called, Traced.numbersAfter]
      exact .idle h (.inl gone)
    · rcases h.write (o := o) held w with ⟨f, ran⟩ |
        ⟨n, written, ran, idle, same, -, events, fine⟩
      · have called : (Call.write w).run o.server s =
            (.error f, sent s w.query s.world.server.passed []) := by
          simp only [Call.run, ran, Except.map]
        refine ⟨.refused legal resolves called rfl, ?_⟩
        simp only [Traced.step, called, Traced.numbersAfter]
        exact .idle (h.refused _ _) (.inr held)
      · have called : (Call.write w).run o.server s = (.ok (), written) := by
          simp only [Call.run, ran, Except.map]
        refine ⟨.served legal resolves called events fine, ?_⟩
        simp only [Traced.step, called, Traced.numbersAfter]
        exact .idle idle (.inr (by rw [same, held]))

/-- A statement that belongs inside of a transaction, and goes back to no mark. -/
private theorem inside {levels : List Mark} (h : Open s k t levels) (q : Query)
    (command : Command.of q.sql = .commit ∨ Command.of q.sql = .rollback ∨
      Command.of q.sql = .write ∨ ∃ name, Command.of q.sql = .savepoint name) :
    s.world.server.Legal (Command.of q.sql) ∧
      Traced.Resolves ⟨s, levels.map Mark.number⟩ (Command.of q.sql) := by
  have within : s.world.server.transaction ≠ none := by
    rw [h.transaction]
    exact Option.some_ne_none t
  generalize Command.of q.sql = c at command
  rcases command with rfl | rfl | rfl | ⟨name, rfl⟩
  · exact ⟨within, trivial⟩
  · exact ⟨within, trivial⟩
  · exact ⟨trivial, trivial⟩
  · exact ⟨within, trivial⟩

private theorem rollback_step {levels : List Mark} (h : Open s k t levels) :
    Traced.Sound o ⟨s, levels.map Mark.number⟩ .rollback ∧
      Aligned k (Traced.step o ⟨s, levels.map Mark.number⟩ .rollback) := by
  cases levels with
  | nil =>
    obtain ⟨legal, resolves⟩ := inside h (.plain Statement.rollback)
      (.inr (.inl Command.of_rollback))
    rcases h.rollback (o := o) with ⟨f, text, ran, -⟩ |
      ⟨closed, ran, idle, held, -, events, fine⟩
    · refine ⟨.refused legal resolves ran rfl, ?_⟩
      simp only [Traced.step, Call.run, ran, Traced.numbersAfter]
      exact .opened (h.refused _ _)
    · refine ⟨.served legal resolves ran events fine, ?_⟩
      simp only [Traced.step, Call.run, ran, Traced.numbersAfter]
      exact .idle idle (.inr held)
  | cons mark outer =>
    obtain ⟨latest, outcome⟩ := h.rollback_level (o := o)
    let q := Query.plain (Statement.rollbackTo (Client.savepointName outer.length))
    have legal : s.world.server.Legal (Command.of q.sql) := by
      simp only [q, Query.plain, Command.of_rollbackTo, State.Legal, h.transaction]
      exact Option.some_ne_none t
    have resolves : Traced.Resolves ⟨s, (mark :: outer).map Mark.number⟩ (Command.of q.sql) := by
      simp only [q, Query.plain, Command.of_rollbackTo]
      exact ⟨t, mark, h.transaction, latest, rfl⟩
    rcases outcome with ⟨f, text, ran, -⟩ | ⟨back, older, ran, opened, -, events, fine⟩
    · refine ⟨.refused legal resolves ran rfl, ?_⟩
      simp only [Traced.step, Call.run, ran, Traced.numbersAfter]
      exact .opened (h.refused _ _)
    · refine ⟨.served legal resolves ran events fine, ?_⟩
      simp only [Traced.step, Call.run, ran, Traced.numbersAfter]
      exact .opened opened

/-- An open client is still open after a call, with the levels that the call leaves it, or has
closed its transaction. -/
private theorem open_step {levels : List Mark} (call : Call) (h : Open s k t levels) :
    Traced.Sound o ⟨s, levels.map Mark.number⟩ call ∧
      Aligned k (Traced.step o ⟨s, levels.map Mark.number⟩ call) := by
  cases call with
  | begin =>
    obtain ⟨legal, resolves⟩ := inside h
      (.plain (Statement.savepoint (Client.savepointName levels.length)))
      (.inr (.inr (.inr ⟨_, Command.of_savepoint _⟩)))
    rcases h.begin (o := o) with ⟨f, text, ran⟩ | ⟨opened, ran, level, -, events, fine⟩
    · refine ⟨.refused legal resolves ran rfl, ?_⟩
      simp only [Traced.step, Call.run, ran, Traced.numbersAfter]
      exact .opened (h.refused _ _)
    · refine ⟨.served legal resolves ran events fine, ?_⟩
      simp only [Traced.step, Call.run, ran, Traced.numbersAfter, h.started, if_true]
      exact .opened level
  | commit =>
    cases levels with
    | nil =>
      obtain ⟨legal, resolves⟩ := inside h (.plain Statement.commit) (.inl Command.of_commit)
      rcases h.commit (o := o) with ⟨f, text, ran⟩ | ⟨closed, ran, idle, held, -, events, fine⟩
      · refine ⟨.refused legal resolves ran rfl, ?_⟩
        simp only [Traced.step, Call.run, ran, Traced.numbersAfter]
        exact .opened (h.refused _ _)
      · refine ⟨.served legal resolves ran events fine, ?_⟩
        simp only [Traced.step, Call.run, ran, Traced.numbersAfter]
        exact .idle idle (.inr held)
    | cons mark outer =>
      have ran := h.commit_level (o := o)
      refine ⟨.quiet ran (List.append_nil _).symm rfl fun _ _ => rfl, ?_⟩
      simp only [Traced.step, Call.run, ran, Traced.numbersAfter]
      exact .opened h
  | rollback => exact rollback_step h
  | release hadError =>
    have unfailed {f : Failure} (impossible : (.ok () : Except Failure Unit) = .error f) :
        (s.release o.server hadError).client = s.client := by
      cases impossible
    cases levels with
    | nil =>
      obtain ⟨idle, gone, -, events⟩ := h.release (o := o) hadError
      exact ⟨.quiet rfl events rfl fun _ => unfailed, .idle idle (.inl gone)⟩
    | cons mark outer =>
      obtain ⟨opened, world⟩ := h.release_level (o := o) hadError
      have events : (s.release o.server hadError).world.events = s.world.events ++ [] := by
        rw [world, List.append_nil]
      exact ⟨.quiet rfl events rfl fun _ => unfailed, .opened opened⟩
  | write w =>
    obtain ⟨legal, resolves⟩ := inside h w.query (.inr (.inr (.inl w.plain)))
    rcases h.write (o := o) w with ⟨f, ran⟩ | ⟨n, written, ran, opened, -, events, fine⟩
    · have called : (Call.write w).run o.server s =
          (.error f, sent s w.query s.world.server.passed []) := by
        simp only [Call.run, ran, Except.map]
      refine ⟨.refused legal resolves called rfl, ?_⟩
      simp only [Traced.step, called, Traced.numbersAfter]
      exact .opened (h.refused _ _)
    · have called : (Call.write w).run o.server s = (.ok (), written) := by
        simp only [Call.run, ran, Except.map]
      refine ⟨.served legal resolves called events fine, ?_⟩
      simp only [Traced.step, called, Traced.numbersAfter]
      exact .opened opened

/-! ### What any calls preserve -/

namespace Aligned

variable {x : Traced κ}

theorem step (h : Aligned k x) (call : Call) :
    Traced.Sound o x call ∧ Aligned k (x.step o call) := by
  cases h with
  | idle idle own => exact idle_step call idle own
  | opened opened => exact open_step call opened

theorem run (h : Aligned k x) (calls : List Call) : Aligned k (x.run o calls) := by
  induction calls generalizing x with
  | nil => exact h
  | cons call calls ih => exact ih (h.step call).2

theorem agrees (h : Aligned k x) : x.Matches k := by
  cases h with
  | @idle s idle own =>
    refine ⟨?_, fun levels => absurd idle.savepoints levels, ?_, ?_⟩
    · rw [Client.depth, idle.savepoints]
      rfl
    · intro started
      rw [idle.started] at started
      cases started
    · intro held
      simp only [idle.started, idle.transaction held, ne_eq, not_true_eq_false,
        Bool.false_eq_true]
  | @opened s t levels opened =>
    refine ⟨?_, fun _ => opened.started, fun _ => opened.held, ?_⟩
    · rw [Client.depth, opened.savepoints, length_levelNames]
    · intro held
      simp only [opened.started, opened.transaction, ne_eq, reduceCtorEq, not_false_eq_true]

end Aligned

/-- After any calls on a fresh client, whatever statements fail, its levels are named in order,
levels are only open in a transaction and a transaction only on the connection, the server has
one open exactly when the client does, and each further call sends at most one statement, which
is legal and goes back to the mark of the innermost level if to any; when it fails, the client
stays as it is. -/
theorem client_matches_server (o : Script κ) (k : κ) (served : Nat) (published : List Query)
    (events : List Event) (calls : List Call) :
    let x := (Traced.fresh k served published events).run o calls
    x.Matches k ∧ ∀ call, x.Sound o call := by
  intro x
  have fresh : Aligned k (Traced.fresh k served published events) := by
    exact .idle ⟨rfl, rfl, fun _ => rfl⟩ (.inr rfl)
  have aligned : Aligned k x := fresh.run calls
  exact ⟨aligned.agrees, fun call => (aligned.step call).1⟩

end TableAccess.Reference
