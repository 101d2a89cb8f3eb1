import TableAccess.Text.Split
import TableAccess.World

/-!
A scripted server: it answers statements from a queue of prepared answers, and fails where it is
told to. Transaction commands never use up an answer.
-/

set_option autoImplicit false
set_option relaxedAutoImplicit false

namespace TableAccess

/-- What a scripted server is told to do, and what it has done. -/
structure ScriptedServer where
  answers : List Answer := []
  failures : List String := []
  unavailable : Bool := false
  acquireLimit : Option Nat := none
  answersDefinitions : Bool := false
  drainFails : Bool := false
  acquired : Nat := 0
  drained : Bool := false

namespace ScriptedServer

def beginsWith (start s : String) : Bool := (Text.dropLead? start.toList s.toList).isSome

def occursIn (fragment s : List Char) : Bool :=
  (Text.dropLead? fragment s).isSome ||
    match s with
    | [] => false
    | _ :: rest => occursIn fragment rest

def isTransactionCommand (sql : String) : Bool :=
  sql == "BEGIN" || sql == "COMMIT" || sql == "ROLLBACK" || beginsWith "SAVEPOINT " sql ||
    beginsWith "ROLLBACK TO SAVEPOINT " sql

def isDefinition (sql : String) : Bool := beginsWith "DROP " sql || beginsWith "CREATE " sql

/-- The statement is answered without a prepared answer. -/
def answersItself (s : ScriptedServer) (sql : String) : Bool :=
  isTransactionCommand sql || s.answersDefinitions && isDefinition sql

def nothingAffected : Answer := [.ok (.affected 0)]

/-- Answers a statement: by a failure when it holds a failing fragment, else by the next
prepared answer. -/
def run (q : Query) (s : ScriptedServer) : Answer × ScriptedServer :=
  match s.failures.find? fun f => occursIn f.toList q.sql.toList with
  | some f => ([.error (.reported ("Mock failure on `" ++ f ++ "`"))], s)
  | none =>
    if s.answersItself q.sql then (nothingAffected, s)
    else match s.answers with
      | [] => (nothingAffected, s)
      | a :: rest => (a, { s with answers := rest })

def exhausted (s : ScriptedServer) : Bool :=
  s.unavailable || s.acquireLimit.any (· ≤ s.acquired)

/-- Gives a connection, unless there are none to be had. -/
def acquire (s : ScriptedServer) : Except Failure Unit × ScriptedServer :=
  if s.exhausted then
    (.error (.of (.connectionUnavailable ["The mock pool is exhausted"])), s)
  else (.ok (), { s with acquired := s.acquired + 1 })

/-- Closes the server, and fails after that when it is told to. -/
def drain (s : ScriptedServer) : Except Failure Unit × ScriptedServer :=
  (if s.drainFails then .error (.reported "Mock drain failure") else .ok (),
    { s with drained := true })

/-- The scripted server as a backend. All its connections are alike. -/
def backend (d : Dialect) : Backend ScriptedServer Unit where
  dialect := d
  acquire := acquire
  run _ q := run q
  release _ _ s := s
  drain := drain

end ScriptedServer

end TableAccess
