import TableAccess.Action
import TableAccess.Client.Transaction
import TableAccess.Table

/-!
The coordinator runs pieces of work as units: what a unit writes is kept when its work is done
and undone when it fails. Units nest, by savepoints or by joining the unit around them.
-/

set_option autoImplicit false
set_option relaxedAutoImplicit false

namespace TableAccess

/-- A server, the schema of the tables that are named without one, and whether a unit within a
unit gets a savepoint of its own or joins the unit around it. -/
structure Coordinator (σ κ : Type) where
  backend : Backend σ κ
  defaultSchema : Option String := none
  useSavepoints : Bool := true

namespace Coordinator

variable {σ κ α : Type}

/-- The table of a name, in a schema or in the default one. -/
def table (k : Coordinator σ κ) (name : String) (schema : Option String) : Table :=
  Table.resolve name schema k.defaultSchema

def acquire (k : Coordinator σ κ) : Fallible (World σ) (Client κ) := fun w =>
  match k.backend.acquireIn w with
  | (.ok c, w) => (.ok (.ofConnection c), w)
  | (.error f, w) => (.error f, w)

def drain (k : Coordinator σ κ) : Fallible (World σ) Unit := k.backend.drainIn

/-- Undoes a unit that failed. A failure of this is only reported. -/
def undo (k : Coordinator σ κ) (s : Session σ κ) : Session σ κ :=
  match s.rollback k.backend with
  | (.ok _, s) => s
  | (.error f, s) =>
    s.report .warning ("Could not roll back the failed unit of work: " ++ f.message)

/-- The end of a unit that failed. -/
def close (k : Coordinator σ κ) (f : Failure) (s : Session σ κ) : Outcome α × Session σ κ :=
  (.failed f, (k.undo s).release k.backend true)

/-- Runs work as one unit of a client: opens a level, and closes it when the work has ended. A
client that was acquired for the unit is released also when no level can be opened. -/
def unitOn (k : Coordinator σ κ) (acquired : Bool) (work : Action (Session σ κ) α) :
    Action (Session σ κ) α := fun s =>
  if s.client.started && !k.useSavepoints then work s
  else match s.begin k.backend with
    | (.error f, s) => (.failed f, if acquired then s.release k.backend true else s)
    | (.ok _, s) =>
      match work s with
      | (.abandoned why, s) => (.abandoned why, s)
      | (.failed f, s) => k.close f s
      | (.done x, s) =>
        match s.commit k.backend with
        | (.error f, s) => k.close f s
        | (.ok _, s) => (.done x, s.release k.backend false)

/-- Runs work as one unit of the client of a session. -/
def transaction (k : Coordinator σ κ) (work : Action (Session σ κ) α) :
    Action (Session σ κ) α := k.unitOn false work

/-- Runs work with a client of its own, which is dropped after it. -/
def withClient (k : Coordinator σ κ) (work : Action (Session σ κ) α) : Action (World σ) α :=
  fun w =>
    match k.acquire w with
    | (.error f, w) => (.failed f, w)
    | (.ok c, w) =>
      let (outcome, s) := work ⟨c, w⟩
      (outcome, s.drop k.backend)

/-- Runs work as one unit of a client of its own. -/
def ownTransaction (k : Coordinator σ κ) (work : Action (Session σ κ) α) :
    Action (World σ) α := k.withClient (k.unitOn true work)

end Coordinator

end TableAccess
