import TableAccess.Link.Peer
import TableAccess.Link.Settings

/-!
Pools of connections: reading the settings of one, and asking the server for an answer before the
pool is used.
-/

set_option autoImplicit false
set_option relaxedAutoImplicit false

namespace TableAccess.Link.Pool

/-- The failure of a check that does not give exactly one row. -/
def rowCountFailure : Failure := .reported "query returned an unexpected number of rows"

/-- The outcome of a check by the rows that the statement gives. -/
def checkRows (s : Prepared) : Except Failure Unit :=
  match s.visibleRows with
  | _ :: _ :: _ => .error rowCountFailure
  | rows =>
    match s.ending with
    | .error f => .error f
    | .ok _ => if rows.isEmpty then .error rowCountFailure else .ok ()

/-- Asks a server for exactly one row. The statement is prepared for this only. -/
def ask (p : Peer) : Except Failure Unit × Peer :=
  match p.prepare Peer.checkSql with
  | (.error f, p) => (.error f, p)
  | (.ok s, p) =>
    match p.bind s [] with
    | (.error f, p) => (.error f, p)
    | (.ok _, p) => (checkRows s, p)

/-- Asks a server for an answer on a connection that is handed back after that. -/
def check (p : Peer) : Except Failure Unit × Peer :=
  match p.acquire with
  | (.error f, p) => (.error f, p)
  | (.ok k, p) =>
    let (outcome, p) := ask p
    (outcome, p.release k false)

/-- The failure that a text gives no settings. Only a text of another scheme is reported. -/
def refuse (text : String) (e : SettingsError) : Fallible (World Peer) Settings := fun w =>
  let f := Settings.failure text e
  (.error f, if e = .scheme then w.report .error f.message else w)

/-- Makes a pool for the server that a text names. A failure of the check is reported. -/
def connect (s : Surroundings) (text : String) : Fallible (World Peer) Settings := fun w =>
  match Settings.read s text with
  | .error e => refuse text e w
  | .ok settings =>
    if settings.checked then
      match check w.server with
      | (.ok _, p) => (.ok settings, { w with server := p })
      | (.error f, p) =>
        let f := f.within (.connecting text)
        (.error f, { w with server := p }.report .error f.message)
    else (.ok settings, w)

def executor (k : Nat) : Executor (World Peer) := (Peer.backend.executor k).reporting

end TableAccess.Link.Pool
