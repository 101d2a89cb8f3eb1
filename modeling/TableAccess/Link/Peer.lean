import TableAccess.Link.Prepared
import TableAccess.World

/-!
Connections to a server that prepares statements. A connection keeps the statements that it has
prepared, and one that was handed back without an error serves again.
-/

set_option autoImplicit false
set_option relaxedAutoImplicit false

namespace TableAccess.Link

open Wire (Images)

/-- What a connection tells the server. -/
inductive Message
  | prepare (sql : String)
  | bind (params : Images)
  deriving DecidableEq, Repr

/-- A server at the other end of connections: what it does with the statements that are still to
be prepared, in order, and with the statement that checks the connection; what it was told; and
its connections, of which it has opened a number, some idle, and the statements each has
prepared. -/
structure Peer where
  script : List Prepared
  check : Prepared
  received : List Message := []
  opened : Nat := 0
  idle : List Nat := []
  known : List ((Nat × String) × Prepared) := []

namespace Peer

def checkSql : String := "SELECT NOW()"

def receive (p : Peer) (m : Message) : Peer := { p with received := p.received ++ [m] }

/-- What the server does with a new statement, and the server after that. -/
def next (sql : String) (p : Peer) : Prepared × Peer :=
  if sql = checkSql then (p.check, p)
  else
    match p.script with
    | [] => ({}, p)
    | s :: rest => (s, { p with script := rest })

def prepare (sql : String) (p : Peer) : Except Failure Prepared × Peer :=
  let (s, p) := (p.receive (.prepare sql)).next sql
  match s.prepareError with
  | some text => (.error (Prepared.serverFailure text), p)
  | none => (.ok s, p)

/-- A statement as the connection `k` knows it, prepared if it does not know it yet. -/
def prepareOn (k : Nat) (sql : String) (p : Peer) : Except Failure Prepared × Peer :=
  match p.known.lookup (k, sql) with
  | some s => (.ok s, p)
  | none =>
    match p.prepare sql with
    | (.error f, p) => (.error f, p)
    | (.ok s, p) => (.ok s, { p with known := ((k, sql), s) :: p.known })

def bind (s : Prepared) (params : List Value) (p : Peer) : Except Failure Unit × Peer :=
  match s.bindParams params with
  | .error f => (.error f, p)
  | .ok images =>
    let p := p.receive (.bind images)
    match s.bindError with
    | some text => (.error (Prepared.serverFailure text), p)
    | none => (.ok (), p)

/-- Runs a statement on the connection `k`. -/
def run (k : Nat) (q : Query) (p : Peer) : Answer × Peer :=
  match p.prepareOn k q.sql with
  | (.error f, p) => ([.error f], p)
  | (.ok s, p) =>
    match p.bind s q.params with
    | (.error f, p) => ([.error f], p)
    | (.ok _, p) => (s.answer, p)

/-- Gives the connection that has been idle for the longest time, or opens one. -/
def acquire (p : Peer) : Except Failure Nat × Peer :=
  match p.idle with
  | k :: rest => (.ok k, { p with idle := rest })
  | [] => (.ok p.opened, { p with opened := p.opened + 1 })

/-- Takes a connection back. One with an error is not used again. -/
def release (k : Nat) (hadError : Bool) (p : Peer) : Peer :=
  if hadError then p else { p with idle := p.idle ++ [k] }

def backend : Backend Peer Nat where
  dialect := .postgres
  acquire := acquire
  run := run
  release := release
  drain p := (.ok (), p)

end Peer

end TableAccess.Link
