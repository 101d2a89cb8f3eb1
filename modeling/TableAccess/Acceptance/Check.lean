import TableAccess.Coordinator
import TableAccess.Repository.Basic

/-!
Checks: steps of a test against a server that abandon the test when what they expect does not
come. The text of a check that fails names it, with the first line of the failure that it met.
-/

set_option autoImplicit false
set_option relaxedAutoImplicit false

namespace TableAccess.Acceptance

variable {σ κ S α : Type}

/-- A text up to its first line break. -/
def firstLine (s : String) : String := String.ofList (s.toList.takeWhile (· != '\n'))

def giveUp (text : String) : Action S α := .abandon (.check text)

def verify (holds : Bool) : Action S Unit := if holds then pure () else giveUp "assertion"

/-- Work that must not fail. -/
def expect (text : String) (a : Action S α) : Action S α := do
  match ← a.attempt with
  | .ok x => pure x
  | .error f => giveUp (text ++ ": " ++ firstLine f.outermost)

def expectFailure (text : String) (a : Action S α) : Action S Failure := do
  match ← a.attempt with
  | .ok _ => giveUp text
  | .error f => pure f

def expectSome (text : String) : Option α → Action S α
  | some x => pure x
  | none => giveUp text

def isRefusal (f : Failure) : Bool :=
  match f.cause with
  | .invalidArguments _ => true
  | _ => false

/-- Work in a world, for a session of it. -/
def inWorld (a : Action (World σ) α) : Action (Session σ κ) α :=
  Action.focus Session.world (fun w s => { s with world := w }) a

/-- An operation of a repository on the client at hand. -/
def onTable (k : Coordinator σ κ)
    (run : Executor (Session σ κ) → Fallible (Session σ κ) α) : Action (Session σ κ) α :=
  .ofFallible (run (Session.executor k.backend))

/-- A test on a client of its own, every failure within which is expected or gives up. -/
def holding (k : Coordinator σ κ) (test : Action (Session σ κ) α) : Action (World σ) α :=
  expect "Could not acquire a client" (k.withClient test)

def releaseClean (k : Coordinator σ κ) : Action (Session σ κ) Unit :=
  .change (Session.release k.backend false)

/-- Statements in order, each of which must succeed. -/
def runAll (k : Coordinator σ κ) : List String → Action (Session σ κ) Unit
  | [] => pure ()
  | sql :: rest => do
    match ← (onTable k (·.execute (.plain sql))).attempt with
    | .ok _ => runAll k rest
    | .error _ => giveUp "Failed to run the setup statement:"

/-- Runs statements on a client of their own, outside of any transaction. -/
def setup (k : Coordinator σ κ) (statements : List String) : Action (World σ) Unit :=
  holding k do
    runAll k statements
    releaseClean k

def increasing (less : α → α → Bool) : List α → Bool
  | [] => true
  | [_] => true
  | a :: b :: rest => less a b && increasing less (b :: rest)

/-- A field that is left out of what is written when it is optional and holds nothing. -/
abbrev sparse (name : String) (type : FieldType) : Field := ⟨name, name, type, .sparse⟩

def int32 (n : Int32) : Value := .scalar .int32 (some n)

def double (x : Binary .double) : Value := .scalar .float64 (some x)

end TableAccess.Acceptance
