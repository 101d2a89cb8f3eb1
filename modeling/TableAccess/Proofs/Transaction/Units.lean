import TableAccess.Coordinator
import TableAccess.Proofs.Transaction.Steps

/-!
Nested units of work keep what they write or lose it as a whole.

A work is a tree of writes and of units within it. Whatever statements fail, as long as undoing
succeeds, the server publishes exactly the writes that succeeded in units that all succeeded.
-/

set_option autoImplicit false
set_option relaxedAutoImplicit false

namespace TableAccess

/-! ### The ends of a unit -/

section Unit

variable {σ κ α : Type} {c : Coordinator σ κ} {s opened after closed : Session σ κ} {f : Failure}
  {x : α} {work : Action (Session σ κ) α}

/-- The unit opens a level of its own. -/
def Coordinator.Opens (c : Coordinator σ κ) (s : Session σ κ) : Prop :=
  (s.client.started && !c.useSavepoints) = false

theorem Coordinator.unitOn_unopened (opens : c.Opens s) (acquired : Bool)
    (begun : s.begin c.backend = (.error f, opened)) :
    c.unitOn acquired work s =
      (.failed f, if acquired then opened.release c.backend true else opened) := by
  rw [Opens] at opens
  simp only [unitOn, opens, Bool.false_eq_true, if_false, begun]

theorem Coordinator.unitOn_abandoned {why : Stop} (opens : c.Opens s) (acquired : Bool)
    (begun : s.begin c.backend = (.ok (), opened))
    (worked : work opened = (.abandoned why, after)) :
    c.unitOn acquired work s = (.abandoned why, after) := by
  rw [Opens] at opens
  simp only [unitOn, opens, Bool.false_eq_true, if_false, begun, worked]

theorem Coordinator.unitOn_failed (opens : c.Opens s) (acquired : Bool)
    (begun : s.begin c.backend = (.ok (), opened)) (worked : work opened = (.failed f, after)) :
    c.unitOn acquired work s = c.close f after := by
  rw [Opens] at opens
  simp only [unitOn, opens, Bool.false_eq_true, if_false, begun, worked]

theorem Coordinator.unitOn_unkept (opens : c.Opens s) (acquired : Bool)
    (begun : s.begin c.backend = (.ok (), opened)) (worked : work opened = (.done x, after))
    (committed : after.commit c.backend = (.error f, closed)) :
    c.unitOn acquired work s = c.close f closed := by
  rw [Opens] at opens
  simp only [unitOn, opens, Bool.false_eq_true, if_false, begun, worked, committed]

theorem Coordinator.unitOn_done (opens : c.Opens s) (acquired : Bool)
    (begun : s.begin c.backend = (.ok (), opened)) (worked : work opened = (.done x, after))
    (committed : after.commit c.backend = (.ok (), closed)) :
    c.unitOn acquired work s = (.done x, closed.release c.backend false) := by
  rw [Opens] at opens
  simp only [unitOn, opens, Bool.false_eq_true, if_false, begun, worked, committed]

end Unit

namespace Reference

/-- What a unit ends with: what it keeps, or its failure. -/
abbrev Result := Except Failure (List Query)

/-- A piece of work: writes and units one after another, and at the end a success or a failure.
A write or a unit that fails is either tolerated or ends the work with its failure. -/
inductive Work
  | finish (failure : Option Failure)
  | write (w : Write) (tolerated : Bool) (rest : Work)
  | unit (body : Work) (tolerated : Bool) (rest : Work)

namespace Work

variable {S σ κ : Type}

/-- The rest of a work after a part of it has given what it keeps, or has failed. -/
def resume (tolerated : Bool) (rest : Action S (List Query)) :
    Except Failure (List Query) → Action S (List Query)
  | .ok kept => rest.andThen fun more => .done (kept ++ more)
  | .error f => if tolerated then rest else .fail f

/-- Runs a write for what it keeps: the statement, once it has succeeded. -/
def runWrite (b : Backend σ κ) (w : Write) : Action (Session σ κ) (List Query) :=
  (Action.ofFallible ((Session.executor b).execute w.query)).andThen fun _ => .done [w.query]

/-- Runs a work on a client for what it keeps: the writes that succeeded in it and in the units
within it that succeeded, in order. -/
def run (c : Coordinator σ κ) : Work → Action (Session σ κ) (List Query)
  | .finish none => .done []
  | .finish (some f) => .fail f
  | .write w tolerated rest =>
    (runWrite c.backend w).attempt.andThen (resume tolerated (run c rest))
  | .unit body tolerated rest =>
    (c.transaction (run c body)).attempt.andThen (resume tolerated (run c rest))

end Work

variable {κ : Type} {o : Script κ} {s : Session State κ} {k : κ} {t : Transaction}
  {levels : List Mark}

/-- The command undoes what was written. -/
def Command.Undoes : Command → Prop
  | .rollback | .rollbackTo _ => True
  | _ => False

/-- Undoing succeeds, whatever else fails. -/
def Script.UndoingSucceeds (o : Script κ) : Prop :=
  ∀ (s : State) (q : Query), (Command.of q.sql).Undoes → ¬ o.Fails s q

/-- The coordinator of a server, whose units nest by savepoints. -/
def nesting (o : Script κ) (schema : Option String) : Coordinator State κ :=
  ⟨o.server, schema, true⟩

private theorem opens_nesting (schema : Option String) (s : Session State κ) :
    (nesting o schema).Opens s := by
  simp only [Coordinator.Opens, nesting, Bool.not_true, Bool.and_false]

/-- Something has run on an open client: what it keeps has been added to what was written, or
it has failed, and left nothing behind if it is a whole unit. Either way the levels are the ones
from before. -/
inductive Ran (s : Session State κ) (k : κ) (t : Transaction) (levels : List Mark)
    (whole : Prop) : Outcome (List Query) × Session State κ → Prop
  | kept {kept : List Query} {after : Session State κ} {t' : Transaction}
      (opened : Open after k t' levels) (writes : t'.writes = t.writes ++ kept)
      (published : after.world.server.published = s.world.server.published) :
      Ran s k t levels whole (.done kept, after)
  | failed {f : Failure} {after : Session State κ} {t' : Transaction}
      (opened : Open after k t' levels) (writes : whole → t'.writes = t.writes)
      (published : after.world.server.published = s.world.server.published) :
      Ran s k t levels whole (.failed f, after)

private theorem ran_write (h : Open s k t levels) (w : Write) :
    Ran s k t levels True (Work.runWrite o.server w s) := by
  rcases h.write (o := o) w with ⟨f, run⟩ | ⟨n, written, run, opened, published, -⟩
  · have failed : Work.runWrite o.server w s =
        (.failed f, sent s w.query s.world.server.passed []) := by
      simp only [Work.runWrite, Action.andThen, Action.ofFallible, run]
    rw [failed]
    exact .failed (h.refused w.query []) (fun _ => rfl) rfl
  · have succeeded : Work.runWrite o.server w s = (.done [w.query], written) := by
      simp only [Work.runWrite, Action.andThen, Action.ofFallible, run, Action.done]
    rw [succeeded]
    exact .kept opened rfl published

/-- What runs after a part that has kept something adds to it. -/
private theorem ran_andThen {after : Session State κ} {t' : Transaction} {kept : List Query}
    {rest : Action (Session State κ) (List Query)}
    (writes : t'.writes = t.writes ++ kept)
    (published : after.world.server.published = s.world.server.published)
    (others : Ran after k t' levels False (rest after)) :
    Ran s k t levels False ((rest.andThen fun more => .done (kept ++ more)) after) := by
  cases finished : rest after with
  | mk outcome last =>
    rw [finished] at others
    simp only [Action.andThen, finished]
    cases others with
    | kept opened' writes' published' =>
      refine .kept opened' ?_ (published'.trans published)
      rw [writes', writes, List.append_assoc]
    | failed opened' _ published' =>
      exact .failed opened' False.elim (published'.trans published)

/-- A work goes on after a part of it, unless the part fails and that is not tolerated. -/
private theorem ran_resume {part rest : Action (Session State κ) (List Query)} {tolerated : Bool}
    (first : Ran s k t levels True (part s))
    (others : ∀ {s' : Session State κ} {t' : Transaction}, Open s' k t' levels →
      Ran s' k t' levels False (rest s')) :
    Ran s k t levels False (part.attempt.andThen (Work.resume tolerated rest) s) := by
  cases ended : part s with
  | mk outcome after =>
    rw [ended] at first
    cases first with
    | kept opened writes published =>
      simp only [Action.andThen, Action.attempt, ended, Work.resume]
      exact ran_andThen writes published (others opened)
    | @failed f _ t' opened writes published =>
      simp only [Action.andThen, Action.attempt, ended, Work.resume]
      cases tolerated with
      | false => exact .failed opened False.elim published
      | true =>
        have further := others opened
        cases finished : rest after with
        | mk outcome last =>
          rw [finished] at further
          simp only [if_true, finished]
          cases further with
          | kept opened' writes' published' =>
            refine .kept opened' ?_ (published'.trans published)
            rw [writes', writes trivial]
          | failed opened' _ published' =>
            exact .failed opened' False.elim (published'.trans published)

/-- Undoing and closing a level leaves nothing of it behind. -/
private theorem close_level (undoing : o.UndoingSucceeds) (schema : Option String) {mark : Mark}
    (h : Open s k t (mark :: levels)) (f : Failure) :
    ∃ after older, (nesting o schema).close (α := List Query) f s = (.failed f, after) ∧
      Open after k ⟨mark.writes, mark :: older⟩ levels ∧
      after.world.server.published = s.world.server.published := by
  obtain ⟨-, ⟨e, text, -, failed⟩ | ⟨back, older, run, opened, published, -⟩⟩ :=
    h.rollback_level (o := o)
  · refine absurd failed (undoing _ _ ?_)
    simp only [Query.plain, Command.of_rollbackTo, Command.Undoes]
  · obtain ⟨closed, world⟩ := opened.release_level (o := o) true
    refine ⟨back.release o.server true, older, ?_, closed, by rw [world, published]⟩
    simp only [Coordinator.close, Coordinator.undo, nesting, run]

/-- A unit within a unit keeps what its work keeps, or leaves nothing behind. -/
private theorem ran_unit (undoing : o.UndoingSucceeds) (schema : Option String) {body : Work}
    (inner : ∀ {s' : Session State κ} {t' : Transaction} {levels' : List Mark},
      Open s' k t' levels' → Ran s' k t' levels' False (body.run (nesting o schema) s'))
    (h : Open s k t levels) :
    Ran s k t levels True ((nesting o schema).transaction (body.run (nesting o schema)) s) := by
  have opens := opens_nesting (o := o) schema s
  rw [Coordinator.transaction]
  rcases h.begin (o := o) with ⟨f, text, begun⟩ | ⟨opened, begun, level, published, -⟩
  · rw [Coordinator.unitOn_unopened opens false begun]
    exact .failed (h.refused _ _) (fun _ => rfl) rfl
  · have work := inner level
    cases ended : body.run (nesting o schema) opened with
    | mk outcome after =>
      rw [ended] at work
      cases work with
      | kept level' writes published' =>
        obtain ⟨closed, world⟩ := level'.release_level (o := o) false
        rw [Coordinator.unitOn_done opens false begun ended level'.commit_level]
        refine .kept closed writes ?_
        exact (congrArg (State.published ∘ World.server) world).trans (published'.trans published)
      | @failed f _ t' level' _ published' =>
        obtain ⟨last, older, undone, closed, published''⟩ := close_level undoing schema level' f
        rw [Coordinator.unitOn_failed opens false begun ended, undone]
        exact .failed closed (fun _ => rfl) (published''.trans (published'.trans published))

/-- A work on an open client adds what it keeps to what was written. -/
private theorem ran_work (undoing : o.UndoingSucceeds) (schema : Option String) (work : Work)
    (h : Open s k t levels) : Ran s k t levels False (work.run (nesting o schema) s) := by
  induction work generalizing s t levels with
  | finish failure =>
    cases failure with
    | none => exact .kept h (List.append_nil _).symm rfl
    | some f => exact .failed h False.elim rfl
  | write w tolerated rest ih => exact ran_resume (ran_write h w) ih
  | unit body tolerated rest inner ih => exact ran_resume (ran_unit undoing schema inner h) ih

/-- What an outermost unit keeps has been published when it ends, and nothing else has. -/
inductive Published (before : List Query) : Outcome (List Query) × State → Prop
  | kept {kept : List Query} {after : State} (published : after.published = before ++ kept) :
      Published before (.done kept, after)
  | failed {f : Failure} {after : State} (published : after.published = before) :
      Published before (.failed f, after)

/-- Undoing and closing an outermost unit publishes nothing. -/
private theorem close_outermost (undoing : o.UndoingSucceeds) (schema : Option String)
    (h : Open s k t []) (f : Failure) :
    ∃ after, (nesting o schema).close (α := List Query) f s = (.failed f, after) ∧
      after.world.server.published = s.world.server.published := by
  rcases h.rollback (o := o) with ⟨e, text, -, failed⟩ | ⟨closed, run, idle, -, published, -⟩
  · refine absurd failed (undoing _ _ ?_)
    simp only [Query.plain, Command.of_rollback, Command.Undoes]
  · refine ⟨closed.release o.server true, ?_, ?_⟩
    · simp only [Coordinator.close, Coordinator.undo, nesting, run]
    · rw [(idle.release (o := o) true).2.2.1, published]

/-- An outermost unit publishes what its work keeps, or nothing. -/
private theorem published_unit (undoing : o.UndoingSucceeds) (schema : Option String)
    (work : Work) (acquired : Bool) (idle : Idle s) (held : s.client.connection = some k) :
    let ended := (nesting o schema).unitOn acquired (work.run (nesting o schema)) s
    Published s.world.server.published (ended.1, ended.2.world.server) := by
  intro ended
  have opens := opens_nesting (o := o) schema s
  rcases idle.begin_held (o := o) held with ⟨f, text, begun⟩ |
    ⟨opened, begun, level, published, -⟩
  · have unopened : ended = _ := Coordinator.unitOn_unopened opens acquired begun
    rw [unopened]
    cases acquired with
    | false => exact .failed rfl
    | true =>
      have released := ((idle.refused (.plain Statement.begin)
        [.reported .error text]).release (o := o) true).2.2.1
      refine .failed ?_
      rw [if_pos rfl]
      exact (congrArg State.published released).trans rfl
  · have inner := ran_work undoing schema work level
    cases worked : work.run (nesting o schema) opened with
    | mk outcome after =>
      rw [worked] at inner
      cases inner with
      | @kept kept _ t' level' writes published' =>
        have unpublished := published'.trans published
        rcases level'.commit (o := o) with ⟨f, text, committed⟩ |
          ⟨closed, committed, shut, -, published'', -⟩
        · -- The work is done and can not be published, so it is undone as if it had failed.
          obtain ⟨last, undone, same⟩ := close_outermost undoing schema
            (level'.refused (.plain Statement.commit) [.reported .error text]) f
          have unkept : ended = _ := Coordinator.unitOn_unkept opens acquired begun worked committed
          rw [unkept, undone]
          exact .failed (same.trans unpublished)
        · have done : ended = _ := Coordinator.unitOn_done opens acquired begun worked committed
          have released := (shut.release (o := o) false).2.2.1
          rw [done]
          refine .kept ((congrArg State.published released).trans ?_)
          rw [published'', unpublished, writes, List.nil_append]
      | @failed f _ t' level' _ published' =>
        obtain ⟨last, undone, same⟩ := close_outermost undoing schema level' f
        have failed : ended = _ := Coordinator.unitOn_failed opens acquired begun worked
        rw [failed, undone]
        exact .failed (same.trans (published'.trans published))

private theorem server_drop (s : Session State κ) :
    (s.drop o.server).server = s.world.server := by
  unfold Session.drop
  split
  · rfl
  · split <;> rfl

/-- Whatever opening, marking, publishing and writing statements fail, the writes that a tree of
units has published at its end are in order those that succeeded and all of whose units
succeeded, with a client of its own and on a given one; a tree that fails has published none. -/
theorem units_publish_kept (o : Script κ) (undoing : o.UndoingSucceeds) (schema : Option String)
    (work : Work) (served : Nat) (published : List Query) (events : List Event) :
    let c := nesting o schema
    let w : World State := ⟨.idle served published, events⟩
    let own := c.ownTransaction (work.run c) w
    let on k := c.transaction (work.run c) ⟨.ofConnection k, w⟩
    Published published (own.1, own.2.server) ∧
      ∀ k, Published published ((on k).1, (on k).2.world.server) := by
  intro c w own on
  have fresh (k : κ) : Idle (⟨.ofConnection k, w⟩ : Session State κ) := ⟨rfl, rfl, fun _ => rfl⟩
  refine ⟨?_, fun k => published_unit undoing schema work false (fresh k) rfl⟩
  cases granted : o.connection with
  | error f =>
    have refused : own = (.failed f, w) := by
      simp only [own, c, Coordinator.ownTransaction, Coordinator.withClient, Coordinator.acquire,
        nesting, Backend.acquireIn, Script.server, granted]
    rw [refused]
    exact .failed rfl
  | ok k =>
    have unit := published_unit undoing schema work true (fresh k) rfl
    have owned : own =
        ((c.unitOn true (work.run c) ⟨.ofConnection k, w⟩).1,
          (c.unitOn true (work.run c) ⟨.ofConnection k, w⟩).2.drop o.server) := by
      simp only [own, c, Coordinator.ownTransaction, Coordinator.withClient, Coordinator.acquire,
        nesting, Backend.acquireIn, Script.server, granted]
    rw [owned]
    simp only [server_drop]
    exact unit

/-- A server that fails the statement of one number, unless that undoes something. -/
def flaky (number : Nat) : Script Unit where
  dialect := .generic
  connection := .ok ()
  answer n q :=
    match Command.of q.sql with
    | .rollback | .rollbackTo _ => []
    | .begin | .commit | .savepoint _ | .write => if n = number then [.error Script.refusal] else []

private theorem flaky_undoing (number : Nat) : (flaky number).UndoingSucceeds := by
  intro s q undoes
  rintro ⟨f, failed⟩
  cases command : Command.of q.sql with
  | rollback | rollbackTo name =>
    simp only [flaky, command, Answer.affected] at failed
    cases failed
  | begin | commit | savepoint name | write =>
    rw [command] at undoes
    exact undoes

def insertion (row : String) (plain : Command.of row = .write) : Write := ⟨.plain row, plain⟩

/-- Two units side by side, whose levels have the same name: the first fails after its write, and
the second tolerates the failure of its last write. -/
def siblings : Work :=
  .write (insertion "one" (by decide +kernel)) false <|
  .unit (.write (insertion "two" (by decide +kernel)) false (.finish (some Script.refusal))) true <|
  .unit (.write (insertion "three" (by decide +kernel)) false <|
    .write (insertion "four" (by decide +kernel)) true <| .finish none) false <|
  .finish none

theorem siblings_publish_kept :
    (flaky 7).UndoingSucceeds ∧
    let c := nesting (flaky 7) none
    let own := c.ownTransaction (siblings.run c) ⟨.idle 0 [], []⟩
    own.2.server.published.map Query.sql = ["one", "three"] ∧
      own.1 = .done own.2.server.published := by
  refine ⟨flaky_undoing 7, ?_⟩
  intro c own
  have texts : own.2.server.published.map Query.sql = ["one", "three"] := by
    decide +kernel
  obtain ⟨published, -⟩ := units_publish_kept (flaky 7) (flaky_undoing 7) none siblings 0 [] []
  have kept : Published [] (own.1, own.2.server) := published
  refine ⟨texts, ?_⟩
  generalize own.1 = outcome at kept
  cases kept with
  | kept published => rw [published, List.nil_append]
  | failed published =>
    rw [published] at texts
    cases texts

end Reference

end TableAccess
