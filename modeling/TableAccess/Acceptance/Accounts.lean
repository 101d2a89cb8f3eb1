import TableAccess.Acceptance.Check

/-!
The tests of accounts: units of work that fail leave nothing behind, and units within a unit
are undone to their own savepoints.
-/

set_option autoImplicit false
set_option relaxedAutoImplicit false

namespace TableAccess.Acceptance

abbrev accountShape : Shape :=
  ⟨"Account",
    [sparse "id" (.optional (.scalar .int64)), sparse "owner" (.scalar .varchar),
      sparse "balance" (.scalar .int64)]⟩

abbrev Account := Record accountShape

namespace Account

/-- An account without an identifier. -/
def new (owner : String) (balance : Int64) : Account := ⟨(none, owner, balance, ())⟩

def owner (a : Account) : String := a.members.2.1

/-- The columns of an account without an owner, which the table refuses. -/
def nobody : Fields := Fields.empty.set "owner" (.nullOf .varchar)

end Account

def accountStatements : List String :=
  ["DROP TABLE IF EXISTS public.accounts",
    "CREATE TABLE public.accounts (\n" ++
    "                id BIGSERIAL PRIMARY KEY,\n" ++
    "                owner TEXT NOT NULL,\n" ++
    "                balance BIGINT NOT NULL\n" ++
    "            )"]

variable {σ κ : Type}

def resetAccounts (k : Coordinator σ κ) : Action (World σ) (Repository Account) := do
  setup k accountStatements
  return ⟨k.table "accounts" none⟩

section

variable (k : Coordinator σ κ) (accounts : Repository Account)

def openAccount (fields : Fields) : Action (Session σ κ) Account :=
  onTable k (accounts.create · (some fields) none)

def owners : Action (World σ) (List String) :=
  holding k do
    let found ← expect "Failed to find the accounts" (onTable k (accounts.find · {}))
    releaseClean k
    return found.map Account.owner

/-- A unit within a unit that fails on its second account. -/
def failingUnit : Action (Session σ κ) Unit := do
  verify ((← Action.observe fun s => s.client.depth) == 1)
  let _ ← openAccount k accounts (Account.new "erin" 20).fields
  let _ ← openAccount k accounts Account.nobody
  return ()

/-- A unit with a unit within it that fails and one that does not. -/
def outerUnit : Action (Session σ κ) Unit := do
  let _ ← openAccount k accounts (Account.new "dave" 10).fields
  verify (← Action.observe fun s => s.client.started)
  let inner ← (k.transaction (failingUnit k accounts)).attempt
  verify (match inner with
    | .ok _ => false
    | .error _ => true)
  verify ((← Action.observe fun s => s.client.depth) == 0)
  let _ ← k.transaction (openAccount k accounts (Account.new "frank" 30).fields)
  verify (← Action.observe fun s => !s.client.released)

end

/-- A unit that fails leaves nothing behind, one that does not is kept. -/
def testRollback (k : Coordinator σ κ) : Action (World σ) Unit := do
  let accounts ← resetAccounts k
  let failed : Except Failure Unit ← (k.ownTransaction do
    let _ ← openAccount k accounts (Account.new "alice" 100).fields
    Action.fail (.reported "Something went wrong")).attempt
  verify (match failed with
    | .ok _ => false
    | .error _ => true)
  verify ((← owners k accounts).isEmpty)
  let _ ← expect "Failed to create bob"
    (k.ownTransaction (openAccount k accounts (Account.new "bob" 50).fields))
  verify ((← owners k accounts) == ["bob"])
  let aborted ← (k.ownTransaction do
    let _ ← openAccount k accounts (Account.new "carol" 10).fields
    openAccount k accounts Account.nobody).attempt
  verify (match aborted with
    | .ok _ => false
    | .error _ => true)
  verify ((← owners k accounts) == ["bob"])

/-- Units within a unit are undone to their own savepoints. -/
def testNesting (k : Coordinator σ κ) : Action (World σ) Unit := do
  let accounts ← resetAccounts k
  holding k do
    expect "The outer unit of work failed" (k.transaction (outerUnit k accounts))
    verify (← Action.observe fun s => s.client.released)
    verify ((← inWorld (owners k accounts)) == ["dave", "frank"])

end TableAccess.Acceptance
