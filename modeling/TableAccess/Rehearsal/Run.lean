import TableAccess.Coordinator
import TableAccess.Rehearsal.Server
import TableAccess.Rehearsal.Step
import TableAccess.Repository.Batch

/-!
The run of a rehearsal: steps are run one after another on the client at hand, and an entry is
made for each one that ends. A step that is cancelled ends the outermost step around it.
-/

set_option autoImplicit false
set_option relaxedAutoImplicit false

namespace TableAccess.Rehearsal

/-- A scripted server, and the entries made so far. -/
structure Stage where
  server : ScriptedServer
  entries : List Entry

def Stage.backend (d : Dialect) : Backend Stage Unit :=
  (ScriptedServer.backend d).within Stage.server fun server s => { s with server := server }

/-- The client at hand, if there is one, and the world. -/
structure Situation where
  client : Option (Client Unit)
  world : World Stage

namespace Situation

/-- The situation with an entry for what has happened since the last one. -/
def note (step : String) (ending : Ending) (s : Situation) : Situation :=
  let entry : Entry := ⟨step, ending, s.client, s.world.events⟩
  let stage := { s.world.server with entries := s.world.server.entries ++ [entry] }
  { s with world := ⟨stage, []⟩ }

/-- The situation after something is told to the scripted server. -/
def tell (f : ScriptedServer → ScriptedServer) (s : Situation) : Situation :=
  let stage := s.world.server
  { s with world := { s.world with server := { stage with server := f stage.server } } }

def onClient {α : Type} (a : Action (Session Stage Unit) α) : Action Situation α := fun s =>
  match s.client with
  | none => (.failed (.of .clientReleased), s)
  | some c =>
    let (outcome, t) := a ⟨c, s.world⟩
    (outcome, ⟨some t.client, t.world⟩)

def onWorld {α : Type} (a : Action (World Stage) α) : Action Situation α :=
  Action.focus Situation.world (fun w s => { s with world := w }) a

def ofClient {α : Type} (a : Action Situation α) : Action (Session Stage Unit) α := fun s =>
  let (outcome, t) := a ⟨some s.client, s.world⟩
  (outcome, ⟨t.client.getD s.client, t.world⟩)

def dropClient (b : Backend Stage Unit) (s : Situation) : Situation :=
  match s.client with
  | none => s
  | some c => ⟨none, Session.drop b ⟨c, s.world⟩⟩

end Situation

open Situation (onClient onWorld ofClient)

abbrev Director := Coordinator Stage Unit

namespace Director

def plain (run : Fallible (Session Stage Unit) Unit) : Action Situation Finding :=
  onClient (.ofFallible run) >>= fun _ => pure .nothing

def told (f : ScriptedServer → ScriptedServer) : Action Situation Finding :=
  .change (Situation.tell f) >>= fun _ => pure .nothing

/-- Puts a client of its own in the place of the client at hand. -/
def acquireSlot (k : Director) : Action Situation Finding := do
  .change (Situation.dropClient k.backend)
  let c ← onWorld (.ofFallible k.acquire)
  .change fun s => { s with client := some c }
  return .nothing

def onExecutor {α : Type} (k : Director)
    (run : Executor (Session Stage Unit) → Fallible (Session Stage Unit) α) :
    Action Situation α :=
  onClient (.ofFallible (run (Session.executor k.backend)))

/-- The columns of a datum, or the failure to read them. -/
def columnsOf (d : Datum) : Action Situation (Option Fields) :=
  .ofFallible fun s => (d.toFields, s)

def repository (k : Director) (p : Place) : Repository p.subject.Carrier :=
  ⟨k.table p.name p.schema⟩

/-- Shows one entity or none. -/
def shownOne (p : Place) (e : Option p.subject.Carrier) : Finding :=
  .entity (e.map p.subject.portrait)

def shown (p : Place) (es : List p.subject.Carrier) : Finding :=
  .entities (es.map p.subject.portrait)

def perform (k : Director) : Act → Action Situation Finding
  | .respond a => told fun s => { s with answers := s.answers ++ [a] }
  | .failOn fragment => told fun s => { s with failures := s.failures ++ [fragment] }
  | .clearFailures => told fun s => { s with failures := [] }
  | .setUnavailable b => told fun s => { s with unavailable := b }
  | .acquire => k.acquireSlot
  | .drop => .change (Situation.dropClient k.backend) >>= fun _ => pure .nothing
  | .drain => onWorld (.ofFallible k.drain) >>= fun _ => pure .nothing
  | .begin | .beginOrSave => plain (Session.begin k.backend)
  | .commit => plain (Session.commit k.backend)
  | .rollback => plain (Session.rollback k.backend)
  | .release hadError =>
    onClient (.change (Session.release k.backend hadError)) >>= fun _ => pure .nothing
  | .execute q => Finding.count <$> k.onExecutor (·.execute q)
  | .run q => Finding.items <$> onClient (fun s =>
      let (answer, s) := Session.run k.backend q s
      (.done answer, s))
  | .fetch q => Finding.items <$> onClient (fun s =>
      let (answer, s) := Session.run k.backend q s
      (.done (answer.rows.map fun item => item.map Reply.row), s))
  | .hang => .abandon .cancelled
  | .find p o => shown p <$> k.onExecutor ((k.repository p).find · o)
  | .findOne p o => shownOne p <$> k.onExecutor ((k.repository p).findOne · o)
  | .findById p id o => shownOne p <$> k.onExecutor ((k.repository p).findById · id o.select)
  | .create p data o => do
    let fields ← columnsOf data
    let e ← k.onExecutor ((k.repository p).create · fields o.returning)
    return shownOne p (some e)
  | .update p data o => do
    let fields ← columnsOf data
    shown p <$> k.onExecutor ((k.repository p).update · o.filter fields o.returning)
  | .updateById p id data o => do
    let fields ← columnsOf data
    shownOne p <$> k.onExecutor ((k.repository p).updateById · id fields o.returning)
  | .createMany p sequence data count o => do
    let fields ← columnsOf data
    let r : BatchRepository p.subject.Carrier := { k.repository p with sequence := sequence }
    Finding.ids <$> k.onExecutor (r.createMany · fields count o.select)
  | .search p columns strict strategy query override o =>
    let r : SearchRepository p.subject.Carrier :=
      { k.repository p with columns := columns, strict := strict, strategy := strategy }
    shown p <$> k.onExecutor (r.search · query override o)

/-- Makes an entry for a step that has ended. A step that is abandoned makes none. -/
def noted (name : String) (a : Action Situation Finding) : Action Situation Finding := fun s =>
  match a s with
  | (.done f, s) => (.done f, s.note name (.ok f))
  | (.failed f, s) => (.failed f, s.note name (.failed f))
  | (.abandoned why, s) => (.abandoned why, s)

/-- Runs work as a unit of the client at hand, or of a client of its own. -/
def unit (k : Director) (own : Bool) (work : Action Situation Finding) :
    Action Situation Finding := fun s =>
  if own || s.client.isNone then onWorld (k.ownTransaction (ofClient work)) s
  else onClient (k.transaction (ofClient work)) s

/-- How the work of a unit ends after its steps. -/
def finish : Except String String → Action Situation Finding
  | .error text => .fail (.reported text)
  | .ok text => pure (.given text)

mutual
def runStep (k : Director) : Step → Action Situation Finding
  | .act a => noted a.name (k.perform a)
  | .transaction own steps ending =>
    noted (Step.name (.transaction own steps ending)) <|
      k.unit own <| do
        .change (Situation.note "enter" .entered)
        runSteps k steps
        finish ending

/-- Runs steps in order, up to the first failure that is not caught. -/
def runSteps (k : Director) : List (Step × Bool) → Action Situation Unit
  | [] => pure ()
  | (step, caught) :: steps => do
    if caught then
      let _ ← (runStep k step).attempt
    else
      let _ ← runStep k step
    runSteps k steps
end

/-- Runs an outermost step. A cancelled one has its entry here. -/
def runOutermost (k : Director) (s : Situation) (step : Step) : Situation :=
  match k.runStep step s with
  | (.abandoned _, s) => s.note step.name .cancelled
  | (_, s) => s

/-- Runs a rehearsal from its start, and drops the client at hand at its end. The events of the
end are those of the last world. -/
def rehearse (k : Director) (steps : List Step) : World Stage :=
  let start : Situation := ⟨none, .start ⟨{}, []⟩⟩
  ((steps.foldl k.runOutermost start).dropClient k.backend).world

end Director

def director (d : Dialect) (defaultSchema : Option String) (useSavepoints : Bool) : Director :=
  ⟨Stage.backend d, defaultSchema, useSavepoints⟩

end TableAccess.Rehearsal
