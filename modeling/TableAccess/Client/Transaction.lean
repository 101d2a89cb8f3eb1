import TableAccess.Client.Basic
import TableAccess.Statement.Write

/-!
The transaction commands of a client, and the two ways in which its connection goes back: by
closing the last level of work, and by dropping the client.
-/

set_option autoImplicit false
set_option relaxedAutoImplicit false

namespace TableAccess.Session

variable {σ κ : Type}

/-- Opens the transaction, or a savepoint when it is open. -/
def begin (b : Backend σ κ) : Fallible (Session σ κ) Unit := fun s =>
  if s.client.started then
    let name := s.client.nextSavepoint
    match command b (Statement.savepoint name) s with
    | (.ok _, s) =>
      (.ok (), { s with client := { s.client with savepoints := s.client.savepoints ++ [name] } })
    | (.error f, s) => (.error f, s)
  else
    match command b Statement.begin s with
    | (.ok _, s) => (.ok (), { s with client := { s.client with started := true } })
    | (.error f, s) => (.error f, s)

/-- Closes the transaction and keeps what it wrote. Nothing is done while savepoints are open,
or when no transaction is. -/
def commit (b : Backend σ κ) : Fallible (Session σ κ) Unit := fun s =>
  if !s.client.started || !s.client.savepoints.isEmpty then (.ok (), s)
  else
    match command b Statement.commit s with
    | (.ok _, s) => (.ok (), { s with client := { s.client with started := false } })
    | (.error f, s) => (.error f, s)

/-- Undoes the innermost level: what was written since the latest savepoint, which stays open,
or the whole transaction. -/
def rollback (b : Backend σ κ) : Fallible (Session σ κ) Unit := fun s =>
  if !s.client.started then (.ok (), s)
  else match s.client.savepoints.getLast? with
    | some name => command b (Statement.rollbackTo name) s
    | none =>
      match command b Statement.rollback s with
      | (.ok _, s) => (.ok (), { s with client := { s.client with started := false } })
      | (.error f, s) => (.error f, s)

/-- Closes the innermost level: the latest savepoint is forgotten or, without one, the
connection is handed back. -/
def release (b : Backend σ κ) (hadError : Bool) (s : Session σ κ) : Session σ κ :=
  if s.client.savepoints.isEmpty then
    match s.client.connection with
    | some k => ⟨⟨none, false, []⟩, b.releaseOn k hadError s.world⟩
    | none => s.report .warning "The client was already released"
  else { s with client := { s.client with savepoints := s.client.savepoints.dropLast } }

/-- Drops the client. A connection that it still holds is handed back, with an error when a
transaction is open on it, so that no one else gets it. -/
def drop (b : Backend σ κ) (s : Session σ κ) : World σ :=
  match s.client.connection with
  | none => s.world
  | some k =>
    let world :=
      if s.client.started then
        s.world.report .warning
          "Dropped a client with an open transaction, discarding its connection"
      else s.world
    b.releaseOn k s.client.started world

end TableAccess.Session
