import TableAccess.Proofs.Transaction.Custody
import TableAccess.Proofs.Transaction.Server
import TableAccess.Rehearsal.Server

/-!
When a connection is handed back for the next one to use, and what is open on it then.

What has passed on a connection tells whether a transaction is open on it: the statements that
began one are counted against those that published or undid one. Dropping a client never hands
back an open transaction for further use. Releasing it takes the word of its caller, so it does
so exactly when the caller reports no error while the transaction is still open.
-/

set_option autoImplicit false
set_option relaxedAutoImplicit false

namespace TableAccess

open Reference (Command)

variable {σ κ : Type}

/-- A statement has begun a transaction. -/
def Exchange.begins : Exchange κ → Bool
  | .ran _ q true => Command.of q.sql == .begin
  | .ran _ _ false | .acquired _ | .returned _ _ => false

/-- A statement has published or undone a transaction. -/
def Exchange.ends : Exchange κ → Bool
  | .ran _ q true => Command.of q.sql == .commit || Command.of q.sql == .rollback
  | .ran _ _ false | .acquired _ | .returned _ _ => false

/-- No transaction is open after what has passed: as many have ended as have begun. -/
def Settled (log : List (Exchange κ)) : Prop :=
  log.countP Exchange.begins = log.countP Exchange.ends

instance (log : List (Exchange κ)) : Decidable (Settled log) :=
  inferInstanceAs (Decidable (_ = _))

namespace ClientCall

/-- A statement that is run by itself leaves beginning and ending the transaction to the calls
that are for it. -/
def Plain : ClientCall → Prop
  | .execute q =>
    Command.of q.sql ≠ .begin ∧ Command.of q.sql ≠ .commit ∧ Command.of q.sql ≠ .rollback
  | .begin | .commit | .rollback | .release _ => True

instance : DecidablePred Plain
  | .execute _ => inferInstanceAs (Decidable (_ ∧ _))
  | .begin | .commit | .rollback | .release _ => .isTrue trivial

/-- A call abandons a transaction when it releases the client without an error while the
transaction is open and no level in it is. -/
def abandons (c : Client κ) : ClientCall → Bool
  | .release false => c.started && c.savepoints.isEmpty
  | .release true | .begin | .commit | .rollback | .execute _ => false

/-- One of some calls abandons a transaction. -/
def anyAbandons (b : Backend σ κ) : List ClientCall → Session σ κ → Bool
  | [], _ => false
  | call :: calls, s => call.abandons s.client || anyAbandons b calls (call.run b s).2

/-- Beginning and ending transactions keeps step with the client. -/
theorem Effect.balance {k : κ} {c after : Client κ} {call : ClientCall} {succeeded : Bool}
    {trace : List (Exchange κ)} (h : Effect k c call succeeded trace after) (plain : call.Plain)
    (runs : RunsOnly k trace) :
    trace.countP Exchange.begins + c.started.toNat =
      trace.countP Exchange.ends + after.started.toNat := by
  cases h with
  | opened idle =>
    simp [Exchange.begins, Exchange.ends, Query.plain, Client.opened, idle]
  | deepened started =>
    simp [Exchange.begins, Exchange.ends, Query.plain, Client.deeper]
  | published started levels =>
    simp [Exchange.begins, Exchange.ends, Query.plain, started]
  | undone started levels =>
    simp [Exchange.begins, Exchange.ends, Query.plain, started]
  | wentBack name => simp [Exchange.begins, Exchange.ends, Query.plain]
  | answered q =>
    obtain ⟨notBegin, notCommit, notRollback⟩ := plain
    simp [Exchange.begins, Exchange.ends, notBegin, notCommit, notRollback]
  | refused sends q => simp [Exchange.begins, Exchange.ends]
  | nothingToCommit => rfl
  | nothingToUndo => rfl
  | closed levels hadError => rfl
  | returned levels hadError => simp [RunsOnly, Exchange.RunsOn] at runs

/-- A call that leaves the connection with the client abandons nothing. -/
theorem Kept.abandons {k : κ} {c after : Client κ} {call : ClientCall} {succeeded : Bool}
    {trace : List (Exchange κ)} (h : Kept k c call succeeded trace after) :
    call.abandons c = false := by
  have depth := h.depth
  cases call with
  | release hadError =>
    have levels : c.savepoints.isEmpty = false := by
      rw [List.isEmpty_eq_false_iff, ← List.length_pos_iff]
      simp only [isRelease, deepens, Client.depth, Bool.toNat_true, Bool.toNat_false] at depth
      omega
    cases hadError <;> simp only [ClientCall.abandons, levels, Bool.and_false]
  | begin | commit | rollback | execute q => rfl

theorem anyAbandons_spent {b : Backend σ κ} {s : Session σ κ} (spent : s.client = .spent)
    (calls : List ClientCall) : anyAbandons b calls s = false := by
  induction calls generalizing s with
  | nil => rfl
  | cons call calls ih =>
    have here : call.abandons s.client = false := by
      rw [spent]
      cases call with
      | release hadError => cases hadError <;> rfl
      | begin | commit | rollback | execute q => rfl
    have next := ((Session.inert_spent (b := b) spent).run call).1
    rw [anyAbandons, here, ih (next.trans spent)]
    rfl

end ClientCall

/-- The log says whether the transaction of a client is open. -/
def Session.Balanced (s : Session (Logged σ κ) κ) : Prop :=
  s.log.countP Exchange.begins = s.log.countP Exchange.ends + s.client.started.toNat

theorem Session.Balanced.settled_iff {s : Session (Logged σ κ) κ} (h : s.Balanced) :
    Settled s.log ↔ s.client.started = false := by
  rw [Settled, h]
  cases s.client.started <;> simp

/-- Where the connection of a client goes when the client is dropped after some calls: back, after
nothing but statements, and for further use with a transaction open exactly if a call has
abandoned one. -/
theorem Session.handed_back {b : Backend σ κ} {s : Session (Logged σ κ) κ} {k : κ}
    (held : s.client.connection = some k) (balanced : s.Balanced) (runs : RunsOnly k s.log)
    (calls : List ClientCall) (plain : ∀ call ∈ calls, call.Plain) :
    ∃ before hadError,
      ((ClientCall.runAll b.logged calls s).drop b.logged).server.log =
        before ++ [.returned k hadError] ∧
      RunsOnly k before ∧
      (hadError = false ∧ ¬ Settled before ↔
        ClientCall.anyAbandons b.logged calls s = true) := by
  induction calls generalizing s with
  | nil =>
    refine ⟨s.log, s.client.started, Session.log_drop_held held, runs, ?_⟩
    -- A client that is dropped reports an error exactly while its transaction is open.
    rw [balanced.settled_iff]
    simp [ClientCall.anyAbandons]
  | cons call calls ih =>
    obtain ⟨here, rest⟩ := List.forall_mem_cons.mp plain
    obtain ⟨trace, log, effect⟩ := ClientCall.runs_held (b := b) held call
    rcases effect.kept_or_gaveBack with kept | gave
    · have further : (call.run b.logged s).2.Balanced := by
        have balance := effect.balance here kept.runs
        rw [Session.Balanced] at balanced ⊢
        rw [log, List.countP_append, List.countP_append]
        omega
      have only : RunsOnly k (call.run b.logged s).2.log := by
        rw [log]
        exact (runsOnly_append k s.log trace).mpr ⟨runs, kept.runs⟩
      rw [ClientCall.runAll, ClientCall.anyAbandons, kept.abandons, Bool.false_or]
      exact ih (kept.connection.trans held) further only rest
    · obtain ⟨hadError, rfl, rfl⟩ := gave.returned
      obtain ⟨spent, server⟩ := Session.runAll_spent (b := b.logged) gave.spent calls
      refine ⟨s.log, hadError, ?_, runs, ?_⟩
      · rw [ClientCall.runAll, Session.drop_spent spent, server]
        exact log
      · rw [ClientCall.anyAbandons, ClientCall.anyAbandons_spent gave.spent, Bool.or_false,
          balanced.settled_iff]
        cases hadError <;> simp [ClientCall.abandons, gave.levels]

/-- What is handed back last was handed back at no other place. -/
private theorem returned_last {k : κ} {trace before after : List (Exchange κ)}
    {hadError : Bool} (runs : RunsOnly k trace)
    (same : trace ++ [.returned k hadError] = before ++ .returned k false :: after) :
    before = trace ∧ hadError = false := by
  rcases List.append_eq_append_iff.mp same with ⟨more, rfl, ends⟩ | ⟨more, rfl, ends⟩
  · cases more with
    | nil =>
      injection ends with last
      injection last with _ reported
      exact ⟨List.append_nil trace, reported⟩
    | cons e more => simp at ends
  · cases more with
    | nil =>
      injection ends with last
      injection last with _ reported
      exact ⟨(List.append_nil before).symm, reported.symm⟩
    | cons e more =>
      -- The one that is handed back would be among the statements before the last.
      injection ends with first
      have inside : Exchange.returned k false ∈ before ++ e :: more := by simp [first]
      exact absurd (runs _ inside) id

/-- After any calls on a fresh client and dropping it, whatever its server answers, the connection
has been handed back for further use only while no transaction was open on it, exactly if none of
the calls has abandoned a transaction: released the client without an error while a transaction
was open on it and no level. -/
theorem reusable_settled_iff (b : Backend σ κ) (k : κ) (server : σ) (events : List Event)
    (calls : List ClientCall) (plain : ∀ call ∈ calls, call.Plain) :
    let fresh : Session (Logged σ κ) κ := ⟨.ofConnection k, ⟨⟨server, []⟩, events⟩⟩
    let log := ((ClientCall.runAll b.logged calls fresh).drop b.logged).server.log
    (∀ before after, log = before ++ .returned k false :: after → Settled before) ↔
      ClientCall.anyAbandons b.logged calls fresh = false := by
  intro fresh log
  obtain ⟨trace, hadError, whole, runs, open_iff⟩ :=
    Session.handed_back (b := b) (s := fresh) rfl rfl (runsOnly_nil k) calls plain
  rw [← Bool.not_eq_true, ← open_iff]
  constructor
  · rintro settled ⟨rfl, unsettled⟩
    exact unsettled (settled trace [] whole)
  · intro kept before after split
    obtain ⟨rfl, reported⟩ := returned_last runs (whole.symm.trans split)
    exact Decidable.byContradiction fun unsettled => kept ⟨reported, unsettled⟩

/-- A client whose transaction can not be published at first, and is undone in the end. -/
theorem undone_settled :
    let b := (ScriptedServer.backend .generic).logged
    let server : ScriptedServer := { failures := ["COMMIT"] }
    let fresh : Session (Logged ScriptedServer Unit) Unit :=
      ⟨.ofConnection (), ⟨⟨server, []⟩, []⟩⟩
    let calls : List ClientCall := [.begin, .begin, .release false, .commit,
      .execute (.plain "DELETE FROM shelf"), .rollback, .release false]
    let log := ((ClientCall.runAll b calls fresh).drop b).server.log
    (∀ call ∈ calls, call.Plain) ∧ log.length = 6 ∧
      ∀ before after, log = before ++ .returned () false :: after → Settled before := by
  refine ⟨by decide +kernel, by decide +kernel, ?_⟩
  exact (reusable_settled_iff (ScriptedServer.backend .generic) () _ [] _
    (by decide +kernel)).mpr (by decide +kernel)

/-- A client that is released without an error right after its transaction has been opened hands
its connection back for further use, with the transaction open. -/
theorem released_open :
    let b := (ScriptedServer.backend .generic).logged
    let fresh : Session (Logged ScriptedServer Unit) Unit :=
      ⟨.ofConnection (), ⟨⟨{}, []⟩, []⟩⟩
    let log := ((ClientCall.runAll b [.begin, .release false] fresh).drop b).server.log
    ∃ before, log = before ++ [.returned () false] ∧ ¬ Settled before := by
  intro b fresh log
  refine ⟨[.ran () (.plain Statement.begin) true], ?_, by decide +kernel⟩
  cbv

end TableAccess
