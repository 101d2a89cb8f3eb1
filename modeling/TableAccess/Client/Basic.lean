import TableAccess.Text.Digits
import TableAccess.World

/-!
Clients: owners of one connection and of the state of its transaction.

Opening a level of work on a client opens a transaction first and savepoints after that, and
closing a level pops a savepoint first and hands the connection back after that. A command
that fails leaves the client as it was.
-/

set_option autoImplicit false
set_option relaxedAutoImplicit false

namespace TableAccess

/-- The connection that a client holds, whether a transaction is open on it, and the names of
its open savepoints, the outermost first. -/
structure Client (κ : Type) where
  connection : Option κ
  started : Bool
  savepoints : List String
  deriving DecidableEq, Repr

namespace Client

variable {κ : Type}

/-- The client of a connection on which nothing is open. -/
def ofConnection (k : κ) : Client κ := ⟨some k, false, []⟩

def depth (c : Client κ) : Nat := c.savepoints.length

def released (c : Client κ) : Bool := c.connection.isNone

/-- The name of the savepoint at a depth. -/
def savepointName (depth : Nat) : String := "savepoint_" ++ Text.natText depth

def nextSavepoint (c : Client κ) : String := savepointName c.depth

end Client

/-- A client, and the world that it acts in. -/
structure Session (σ κ : Type) where
  client : Client κ
  world : World σ

namespace Session

variable {σ κ : Type}

def report (s : Session σ κ) (level : Level) (text : String) : Session σ κ :=
  { s with world := s.world.report level text }

/-- Runs a statement on the connection. A client without one answers with a failure. -/
def run (b : Backend σ κ) (q : Query) (s : Session σ κ) : Answer × Session σ κ :=
  match s.client.connection with
  | some k =>
    let (answer, world) := b.runOn k q s.world
    (answer, { s with world := world })
  | none => ([.error (.of .clientReleased)], s)

def executor (b : Backend σ κ) : Executor (Session σ κ) where
  dialect := b.dialect
  run := run b
  report level text s := s.report level text

/-- Runs a command whose rows do not matter. A failure is reported. -/
def command (b : Backend σ κ) (sql : String) : Fallible (Session σ κ) Unit := fun s =>
  match (executor b).execute (.plain sql) s with
  | (.ok _, s) => (.ok (), s)
  | (.error f, s) => (executor b).fail (.plain sql) f s

end Session

end TableAccess
