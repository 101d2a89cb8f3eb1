import TableAccess.Query
import TableAccess.Statement.Dialect

/-!
The world that statements run in: the state of a server, and the events that can be observed.

A backend says how a server of any kind answers; nothing else of the library depends on what
its state is made of.
-/

set_option autoImplicit false
set_option relaxedAutoImplicit false

namespace TableAccess

/-- How grave a report is. -/
inductive Level
  | warning
  | error
  deriving DecidableEq, Repr

/-- The name of a level. -/
def Level.name : Level → String
  | .warning => "WARN"
  | .error => "ERROR"

/-- What can be observed: a statement that reaches a connection, a connection that is handed
back, with or without an error, and a report. -/
inductive Event
  | statement (q : Query)
  | released (hadError : Bool)
  | reported (level : Level) (text : String)

/-- The state of a server, and the events so far, the earliest first. -/
structure World (σ : Type) where
  server : σ
  events : List Event

namespace World

variable {σ : Type}

/-- A world in which nothing has happened. -/
def start (server : σ) : World σ := ⟨server, []⟩

/-- The world after a further event. -/
def record (w : World σ) (e : Event) : World σ := { w with events := w.events ++ [e] }

/-- The world after a further report. -/
def report (w : World σ) (level : Level) (text : String) : World σ :=
  w.record (.reported level text)

@[simp] theorem server_record (w : World σ) (e : Event) : (w.record e).server = w.server := rfl

@[simp] theorem events_record (w : World σ) (e : Event) :
    (w.record e).events = w.events ++ [e] := rfl

end World

/-- A server with states `σ` and connections `κ`: the dialect of its statements, and what comes
of asking for a connection, running a statement, handing a connection back, and closing. -/
structure Backend (σ κ : Type) where
  dialect : Dialect
  acquire : σ → Except Failure κ × σ
  run : κ → Query → σ → Answer × σ
  release : κ → Bool → σ → σ
  drain : σ → Except Failure Unit × σ

/-- A computation on a state that gives a value or fails. -/
abbrev Fallible (S α : Type) := S → Except Failure α × S

/-- What statements can be run on: a connection, or a client that holds one. -/
structure Executor (S : Type) where
  dialect : Dialect
  run : Query → S → Answer × S
  report : Level → String → S → S

namespace Backend

variable {σ κ : Type}

/-- A server as a part of a larger state. -/
def within {τ : Type} (b : Backend σ κ) (get : τ → σ) (set : σ → τ → τ) : Backend τ κ where
  dialect := b.dialect
  acquire t :=
    let (k, s) := b.acquire (get t)
    (k, set s t)
  run k q t :=
    let (answer, s) := b.run k q (get t)
    (answer, set s t)
  release k hadError t := set (b.release k hadError (get t)) t
  drain t :=
    let (r, s) := b.drain (get t)
    (r, set s t)

/-- Runs a statement on a connection. -/
def runOn (b : Backend σ κ) (k : κ) (q : Query) (w : World σ) : Answer × World σ :=
  let (answer, server) := b.run k q w.server
  (answer, { w with server := server }.record (.statement q))

/-- Hands a connection back. -/
def releaseOn (b : Backend σ κ) (k : κ) (hadError : Bool) (w : World σ) : World σ :=
  { w with server := b.release k hadError w.server }.record (.released hadError)

/-- Asks for a connection. -/
def acquireIn (b : Backend σ κ) : Fallible (World σ) κ := fun w =>
  let (k, server) := b.acquire w.server
  (k, { w with server := server })

/-- Closes the server to further use. -/
def drainIn (b : Backend σ κ) : Fallible (World σ) Unit := fun w =>
  let (r, server) := b.drain w.server
  (r, { w with server := server })

/-- Statements on a connection that no client holds. -/
def executor (b : Backend σ κ) (k : κ) : Executor (World σ) where
  dialect := b.dialect
  run := b.runOn k
  report level text w := w.report level text

end Backend

namespace Executor

variable {S : Type}

/-- A failure of a statement, reported and given back with the statement. -/
def fail {α : Type} (x : Executor S) (q : Query) (f : Failure) : Fallible S α := fun s =>
  let f := f.within q.activity
  (.error f, x.report .error f.message s)

/-- Runs a statement for the number of rows that it affects. -/
def execute (x : Executor S) (q : Query) : Fallible S UInt64 := fun s =>
  let (answer, s) := x.run q s
  (answer.affected, s)

/-- Statements whose failures are reported, and given back with the statement. -/
def reporting (x : Executor S) : Executor S where
  dialect := x.dialect
  run q s :=
    let (answer, s) := x.run q s
    let answer := answer.within q.activity
    (answer, answer.failures.foldl (fun s f => x.report .error f.message s) s)
  report := x.report

end Executor

end TableAccess
