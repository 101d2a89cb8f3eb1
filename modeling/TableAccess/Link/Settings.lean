import TableAccess.Failure
import TableAccess.Link.Target
import TableAccess.Link.Url

/-!
The settings of a pool of connections: from the URL of the server, and from the surroundings for
what the URL does not say. What the library takes for itself does not reach the server.
-/

set_option autoImplicit false
set_option relaxedAutoImplicit false

namespace TableAccess.Link

/-- The values of the variables around a program, and the files that are there for it. -/
structure Surroundings where
  values : List (String × String) := []
  files : List String := []
  deriving DecidableEq, Repr

/-- Why a URL gives no settings. -/
inductive SettingsError
  | scheme
  | url (cause : UrlError)
  | poolSize (cause : IntegerError)
  | target (cause : TargetError)
  | certificate (path : String)
  deriving DecidableEq, Repr

/-- The texts of the error that a URL gives no settings, the outermost first. -/
def SettingsError.chain : SettingsError → List String
  | .scheme => ["Postgres connection url must start with `postgres://`"]
  | .url cause => [cause.message]
  | .poolSize cause => [cause.message]
  | .target cause => ["invalid connection string", cause.message]
  | .certificate path => ["`" ++ path ++ "` holds nothing that can be used"]

/-- The settings of a pool: how many connections it may hold, whether the server is asked for an
answer first, and what the server is told. -/
structure Settings where
  poolSize : Option Nat
  checked : Bool
  target : List (String × String)
  deriving DecidableEq, Repr

namespace Settings

/-- The parameters of a URL that do not reach the server: how connections are secured, the files
with the certificates of authorities and with the certificate and the key of the client, the
number of connections, and whether the server is asked for an answer first. -/
inductive Parameter
  | sslMode
  | rootCertificate
  | certificate
  | certificateKey
  | poolSize
  | connectionCheck
  deriving DecidableEq, Repr

namespace Parameter

def key : Parameter → String
  | .sslMode => "sslmode"
  | .rootCertificate => "sslrootcert"
  | .certificate => "sslcert"
  | .certificateKey => "sslkey"
  | .poolSize => "pool_size"
  | .connectionCheck => "connection_check"

/-- The variable that counts when a URL has no such parameter. -/
def fallback : Parameter → String
  | .sslMode => "PGSSLMODE"
  | .rootCertificate => "PGSSLROOTCERT"
  | .certificate => "PGSSLCERT"
  | .certificateKey => "PGSSLKEY"
  | .poolSize => "PGPOOLSIZE"
  | .connectionCheck => "PGCONNECTIONCHECK"

def take (p : Parameter) (s : Surroundings) (u : Url) : Option String × Url :=
  let (value, u) := u.takeParameter p.key
  (value.orElse fun _ => s.values.lookup p.fallback, u)

end Parameter

def schemes : List String := ["postgres", "postgresql"]

/-- The scheme of a URL, and what follows its two slashes. -/
def splitScheme (s : List Char) : Option (List Char × List Char) :=
  schemes.findSome? fun scheme =>
    (Text.dropLead? (scheme ++ "://").toList s).map fun rest => (scheme.toList, rest)

def readUrl (s : String) : Except SettingsError Url :=
  match splitScheme s.toList with
  | none => .error .scheme
  | some (scheme, rest) => (Url.read scheme rest).mapError .url

def refuses (s : String) : Bool := ["false", "0", "no", "off"].contains s

def readPoolSize : Option String → Except SettingsError (Option Nat)
  | none => .ok none
  | some s =>
    match (IntegerRange.unsigned 64).read s.toList with
    | .ok n => .ok (some n.toNat)
    | .error e => .error (.poolSize e)

/-- The options of the user, unless the target names one. -/
def withUser (target : List (String × String)) : List (String × String) :=
  if (target.lookup "user").isSome then target else ("user", "postgres") :: target

/-- What the server is told by a URL. -/
def readTarget (u : Url) : Except SettingsError (List (String × String)) :=
  match Target.read (u.text.drop (u.scheme.length + 3)) with
  | .ok target => .ok (withUser target)
  | .error e => .error (.target e)

/-- Refuses the first file of a secured pool that is there. No file holds anything that can be
used, and files that are not there are passed over. -/
def refuseFiles (s : Surroundings) (mode : String) (paths : List (Option String)) :
    Except SettingsError Unit :=
  if mode = "disable" then .ok ()
  else
    match (paths.filterMap id).find? s.files.contains with
    | some path => .error (.certificate path)
    | none => .ok ()

def ofUrl (s : Surroundings) (u : Url) : Except SettingsError Settings :=
  let (mode, u) := Parameter.sslMode.take s u
  let (root, u) := Parameter.rootCertificate.take s u
  let (own, u) := Parameter.certificate.take s u
  let (key, u) := Parameter.certificateKey.take s u
  let (size, u) := Parameter.poolSize.take s u
  let (check, u) := Parameter.connectionCheck.take s u
  match readPoolSize size with
  | .error e => .error e
  | .ok size =>
    match readTarget u with
    | .error e => .error e
    | .ok target =>
      match refuseFiles s (mode.getD "disable") [root, own, key] with
      | .error e => .error e
      | .ok _ => .ok ⟨size, !check.any refuses, target⟩

def read (s : Surroundings) (text : String) : Except SettingsError Settings :=
  match readUrl text with
  | .error e => .error e
  | .ok u => ofUrl s u

/-- The failure to connect to the server that a text names. -/
def failure (text : String) (e : SettingsError) : Failure :=
  ⟨[.connecting text], .reported e.chain⟩

end Settings

end TableAccess.Link
