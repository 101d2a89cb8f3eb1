import TableAccess.Link.Pool
import TableAccess.Repository.Basic

/-!
Calls on a pool of connections, one connection at a time, and what comes of each.
-/

set_option autoImplicit false
set_option relaxedAutoImplicit false

namespace TableAccess.Rehearsal

open Link

/-- A call: for a connection, which takes the place of the one that is held; of the connection
back; of a statement; or of the rows of a table. -/
inductive Call
  | acquire
  | release (hadError : Bool)
  | run (q : Query)
  | find (table : Table) (clauses : Clauses)

/-- What comes of a call. -/
inductive Response
  | nothing
  | items (answer : Answer)
  | rows (found : Except Failure (List Row))

/-- The connection that is held, and the world that it belongs to. -/
structure Caller where
  held : Option Nat
  world : World Peer

namespace Caller

def release (c : Caller) (hadError : Bool) : Caller :=
  match c.held with
  | some k => ⟨none, Peer.backend.releaseOn k hadError c.world⟩
  | none => c

/-- A connection in place of the one that is held. -/
def acquire (c : Caller) : Except Failure Caller :=
  match Peer.backend.acquireIn (c.release false).world with
  | (.ok k, w) => .ok ⟨some k, w⟩
  | (.error f, _) => .error f

/-- Statements on the connection that is held. Without one no statement can be run. -/
def executor (c : Caller) : Executor (World Peer) :=
  match c.held with
  | some k => Pool.executor k
  | none =>
    { dialect := .postgres
      run := fun _ w => ([.error (.of .clientReleased)], w)
      report := fun level text w => w.report level text }

def perform (c : Caller) : Call → Except Failure (Response × Caller)
  | .acquire => c.acquire.map fun c => (.nothing, c)
  | .release hadError => .ok (.nothing, c.release hadError)
  | .run q =>
    let (answer, w) := c.executor.run q c.world
    .ok (.items answer, { c with world := w })
  | .find table clauses =>
    let (found, w) := (Repository.mk table : Repository Row).find c.executor clauses c.world
    .ok (.rows found, { c with world := w })

/-- Makes calls in turn, up to the first one that fails: what comes of each with what is observed
during it, that failure if there is one, and the caller after that. -/
def performAll (c : Caller) : List Call →
    List (Response × List Event) × Option Failure × Caller
  | [] => ([], none, c)
  | call :: calls =>
    match c.perform call with
    | .error f => ([], some f, c)
    | .ok (response, c) =>
      let (rest, f, last) := performAll ⟨c.held, .start c.world.server⟩ calls
      ((response, c.world.events) :: rest, f, last)

end Caller

/-- What comes of a visit: the calls with what is observed during each, the failure that ended it
if there is one, and the world after that. -/
structure Visit where
  responses : List (Response × List Event)
  failure : Option Failure
  world : World Peer

/-- Connects to the server that a text names and makes calls in turn. -/
def visit (s : Surroundings) (text : String) (calls : List Call) (peer : Peer) : Visit :=
  match Pool.connect s text (.start peer) with
  | (.error f, w) => ⟨[], some f, w⟩
  | (.ok _, w) =>
    let (responses, f, c) := Caller.performAll ⟨none, w⟩ calls
    ⟨responses, f, c.world⟩

end TableAccess.Rehearsal
