import TableAccess.Proofs.Transaction.Discipline

/-!
Works that note what the units within them end with.

The notes are kept beside the server, out of reach of all statements. The commands of a client
leave them alone, so a unit notes what its work does, and then what it ends with itself.
-/

set_option autoImplicit false
set_option relaxedAutoImplicit false

namespace TableAccess

open Reference (Result Work)

/-- A server with what units have ended with so far, the earliest first. -/
structure Noted (σ : Type) where
  server : σ
  results : List Result

variable {σ κ : Type}

/-- The server beside which results are noted. -/
def Backend.noting (b : Backend σ κ) : Backend (Noted σ) κ :=
  b.within Noted.server fun server n => { n with server := server }

namespace Session

def results (s : Session (Logged (Noted σ) κ) κ) : List Result := s.world.server.server.results

/-- The session with a further result. -/
def note (s : Session (Logged (Noted σ) κ) κ) (x : Result) : Session (Logged (Noted σ) κ) κ :=
  let noted := s.world.server.server
  let server := { s.world.server with server := { noted with results := noted.results ++ [x] } }
  { s with world := { s.world with server := server } }

@[simp] theorem results_note (s : Session (Logged (Noted σ) κ) κ) (x : Result) :
    (s.note x).results = s.results ++ [x] := rfl

variable (b : Backend σ κ) (s : Session (Logged (Noted σ) κ) κ)

theorem results_execute (q : Query) :
    ((executor b.noting.logged).execute q s).2.results = s.results := by
  simp only [Executor.execute, executor, run]
  split <;> rfl

private theorem results_command (sql : String) :
    (s.command b.noting.logged sql).2.results = s.results := by
  have same := results_execute b s (.plain sql)
  unfold command
  split
  · next ran => rwa [ran] at same
  · next ran =>
    rw [ran] at same
    exact same

theorem results_begin : (s.begin b.noting.logged).2.results = s.results := by
  unfold begin
  split
  · have same := results_command b s (Statement.savepoint s.client.nextSavepoint)
    dsimp only
    split <;> next ran => rwa [ran] at same
  · have same := results_command b s Statement.begin
    split <;> next ran => rwa [ran] at same

private theorem results_commit : (s.commit b.noting.logged).2.results = s.results := by
  unfold commit
  split
  · rfl
  · have same := results_command b s Statement.commit
    split <;> next ran => rwa [ran] at same

private theorem results_rollback : (s.rollback b.noting.logged).2.results = s.results := by
  unfold rollback
  split
  · rfl
  · split
    · exact results_command b s _
    · have same := results_command b s Statement.rollback
      split <;> next ran => rwa [ran] at same

private theorem results_release (hadError : Bool) :
    (s.release b.noting.logged hadError).results = s.results := by
  unfold release
  split
  · split <;> rfl
  · rfl

end Session

/-- Work that notes what it ends with. -/
def Action.noted (a : Action (Session (Logged (Noted σ) κ) κ) (List Query)) :
    Action (Session (Logged (Noted σ) κ) κ) (List Query) := fun s =>
  match a s with
  | (.done kept, s) => (.done kept, s.note (.ok kept))
  | (.failed f, s) => (.failed f, s.note (.error f))
  | (.abandoned why, s) => (.abandoned why, s)

/-- Runs a work on a client, and notes what each unit within it ends with. -/
def Reference.Work.runNoted (c : Coordinator (Logged (Noted σ) κ) κ) :
    Work → Action (Session (Logged (Noted σ) κ) κ) (List Query)
  | .finish none => .done []
  | .finish (some f) => .fail f
  | .write w tolerated rest =>
    (runWrite c.backend w).attempt.andThen (resume tolerated (runNoted c rest))
  | .unit body tolerated rest =>
    (c.transaction (runNoted c body)).noted.attempt.andThen (resume tolerated (runNoted c rest))

variable {b : Backend σ κ} {schema : Option String} {useSavepoints : Bool} {k : κ}
  {s : Session (Logged (Noted σ) κ) κ}
  {work part rest : Action (Session (Logged (Noted σ) κ) κ) (List Query)}

theorem Keeps.noted (whole : Keeps k work) : Keeps k work.noted := by
  intro s h
  have kept := whole s h
  cases ended : work s with
  | mk outcome after =>
    rw [ended] at kept
    simp only [Action.noted, ended]
    cases outcome with
    | done x => exact ⟨kept.client, kept.log, trivial⟩
    | failed f => exact ⟨kept.client, kept.log, trivial⟩
    | abandoned why => exact kept.ended.elim

theorem keeps_runNoted (b : Backend σ κ) (schema : Option String) (useSavepoints : Bool) (k : κ)
    (work : Work) :
    Keeps k (work.runNoted (Coordinator.logging b.noting schema useSavepoints)) := by
  induction work with
  | finish failure =>
    cases failure with
    | none => exact keeps_done []
    | some f => exact keeps_fail f
  | write w tolerated rest ih =>
    exact (keeps_write b.noting w).attempt.andThen (ih.resume tolerated)
  | unit body tolerated rest inner ih =>
    exact inner.transaction.noted.attempt.andThen (ih.resume tolerated)

/-- A unit that opens a level notes what its work notes. -/
theorem results_unitOn {opened : Session (Logged (Noted σ) κ) κ} (acquired : Bool)
    (opens : (Coordinator.logging b.noting schema useSavepoints).Opens s)
    (begun : s.begin b.noting.logged = (.ok (), opened)) :
    ((Coordinator.logging b.noting schema useSavepoints).unitOn acquired work s).2.results =
      (work opened).2.results := by
  have undone (f : Failure) (after : Session (Logged (Noted σ) κ) κ) :
      ((Coordinator.logging b.noting schema useSavepoints).close (α := List Query) f
        after).2.results = after.results := by
    rw [Coordinator.close, Coordinator.logging, Session.results_release, Coordinator.undo]
    have same := Session.results_rollback b after
    split <;> next ran => rwa [ran] at same
  cases ran : work opened with
  | mk outcome worked =>
    cases outcome with
    | abandoned why => rw [Coordinator.unitOn_abandoned opens acquired begun ran]
    | failed f =>
      rw [Coordinator.unitOn_failed opens acquired begun ran, undone]
    | done x =>
      have same := Session.results_commit b worked
      cases committed : worked.commit b.noting.logged with
      | mk result closed =>
        rw [committed] at same
        cases result with
        | error f => rw [Coordinator.unitOn_unkept opens acquired begun ran committed, undone, same]
        | ok done =>
          rw [Coordinator.unitOn_done opens acquired begun ran committed]
          exact (Session.results_release b closed false).trans same

end TableAccess
