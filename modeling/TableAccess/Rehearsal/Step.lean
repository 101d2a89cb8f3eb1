import TableAccess.Client.Basic
import TableAccess.Record
import TableAccess.Repository.Search
import TableAccess.Statement.Clauses

/-!
The steps of a rehearsal: what the scripted server is told, what a client does, units of work
made of steps, and operations on repositories.
-/

set_option autoImplicit false
set_option relaxedAutoImplicit false

namespace TableAccess.Rehearsal

/-- The entities that a repository is about: plain rows, or records of a shape. -/
inductive Subject
  | row
  | record (s : Shape)

@[reducible] def Subject.Carrier : Subject → Type
  | .row => Row
  | .record s => Record s

instance : (s : Subject) → Entity s.Carrier
  | .row => inferInstanceAs (Entity Row)
  | .record s => inferInstanceAs (Entity (Record s))

/-- An entity as it is shown: its identifier, and its members by name. -/
structure Portrait where
  id : Option Int64
  members : List (String × Value)

def Subject.portrait : (s : Subject) → s.Carrier → Portrait
  | .row, r => ⟨r.id?, r.cells⟩
  | .record _, r => ⟨r.id?, r.toList⟩

/-- What is written to a table: nothing, columns with values, a row, or a record that is read
from a row. -/
inductive Datum
  | missing
  | fields (f : Fields)
  | row (r : Row)
  | record (s : Shape) (r : Row)

def Datum.toFields : Datum → Except Failure (Option Fields)
  | .missing => .ok none
  | .fields f => .ok (some f)
  | .row r => .ok (some r.fields)
  | .record s r => (Record.ofRow s r).map fun e => some e.fields

/-- The table of a repository, by name and schema, and the entities that it is about. -/
structure Place where
  name : String
  schema : Option String
  subject : Subject

/-- An act of a rehearsal: something told to the scripted server, a command of a client, an
operation on a repository, or an act that never ends. -/
inductive Act
  | respond (a : Answer)
  | failOn (fragment : String)
  | clearFailures
  | setUnavailable (unavailable : Bool)
  | acquire
  | drop
  | drain
  | begin
  | beginOrSave
  | commit
  | rollback
  | release (hadError : Bool)
  | execute (q : Query)
  | run (q : Query)
  | fetch (q : Query)
  | hang
  | find (place : Place) (o : Clauses)
  | findOne (place : Place) (o : Clauses)
  | findById (place : Place) (id : Int64) (o : Clauses)
  | create (place : Place) (data : Datum) (o : Clauses)
  | update (place : Place) (data : Datum) (o : Clauses)
  | updateById (place : Place) (id : Int64) (data : Datum) (o : Clauses)
  | createMany (place : Place) (sequence : List String) (data : Datum) (count : UInt64)
      (o : Clauses)
  | search (place : Place) (columns : List String) (strict : Bool) (strategy : SearchStrategy)
      (query : String) (override : Option (List String)) (o : Clauses)

def Act.name : Act → String
  | .respond _ => "respond"
  | .failOn _ => "fail_on"
  | .clearFailures => "clear_failures"
  | .setUnavailable _ => "unavailable"
  | .acquire => "acquire"
  | .drop => "drop"
  | .drain => "drain"
  | .begin => "begin"
  | .beginOrSave => "begin_or_save"
  | .commit => "commit"
  | .rollback => "rollback_to_latest"
  | .release _ => "release"
  | .execute _ => "execute"
  | .run _ => "run"
  | .fetch _ => "fetch"
  | .hang => "hang"
  | .find _ _ => "find"
  | .findOne _ _ => "find_one"
  | .findById _ _ _ => "find_by_id"
  | .create _ _ _ => "create"
  | .update _ _ _ => "update"
  | .updateById _ _ _ _ => "update_by_id"
  | .createMany _ _ _ _ _ => "create_multiple"
  | .search _ _ _ _ _ _ _ => "search"

/-- A step of a rehearsal: an act, or a unit of work on the client at hand or on a client of its
own. The steps of a unit come with whether their failures are caught; after them the work fails
with a text, or gives one. -/
inductive Step
  | act (a : Act)
  | transaction (own : Bool) (steps : List (Step × Bool)) (ending : Except String String)

def Step.name : Step → String
  | .act a => a.name
  | .transaction _ _ _ => "transaction"

/-- What a step comes to. -/
inductive Finding
  | nothing
  | count (n : UInt64)
  | items (a : Answer)
  | entity (p : Option Portrait)
  | entities (ps : List Portrait)
  | ids (ns : List Int64)
  | given (text : String)

/-- How a step ended: with a finding, with a failure, or not at all; or that work has begun. -/
inductive Ending
  | ok (f : Finding)
  | failed (f : Failure)
  | cancelled
  | entered

/-- An entry of the record: a step, how it ended, the client that it ran on as it was then, and
the events since the entry before. -/
structure Entry where
  step : String
  ending : Ending
  client : Option (Client Unit)
  events : List Event

end TableAccess.Rehearsal
