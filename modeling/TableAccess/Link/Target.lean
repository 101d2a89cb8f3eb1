import TableAccess.Link.Address
import TableAccess.Number.Integer
import TableAccess.Text.Percent
import TableAccess.Text.Split
import TableAccess.Text.Utf8

/-!
What a connection text says about the server to connect to, as options in order: the name of the
user, each host with its port, the name of the database, and the parameters. Names and values are
percent encoded; a plus sign stands for itself.
-/

set_option autoImplicit false
set_option relaxedAutoImplicit false

namespace TableAccess.Link

/-- Why a connection text is refused. -/
inductive TargetError
  | unknown (option : String)
  | invalid (option : String)
  | unterminated
  | characters (cause : Text.Utf8Error)
  deriving DecidableEq, Repr

/-- The text of the error that a connection text is refused. -/
def TargetError.message : TargetError → String
  | .unknown option => "unknown option `" ++ option ++ "`"
  | .invalid option => "invalid value for option `" ++ option ++ "`"
  | .unterminated => "unterminated parameter"
  | .characters cause => cause.message

/-- What one part of a connection text says, or why it is refused. -/
abbrev Item := Except TargetError (String × String)

namespace Target

/-- The bytes that a part of a connection text stands for. -/
def decodeBytes (s : List Char) : List UInt8 := Text.percentDecode (Text.utf8Bytes s)

def ofBytes (bytes : List UInt8) : Except TargetError String :=
  match Text.ofUtf8 bytes with
  | .ok cs => .ok (String.ofList cs)
  | .error e => .error (.characters e)

/-- The text that a part of a connection text stands for. -/
def decode (s : List Char) : Except TargetError String := ofBytes (decodeBytes s)

def item (key : String) (value : List Char) : Item := (decode value).map (key, ·)

/-- A host, or the directory of a socket, whose name may be any bytes. -/
def hostItem (s : List Char) : Item :=
  let bytes := decodeBytes s
  if bytes.head? = some 0x2F then .ok ("host", String.ofList (Text.lossy bytes))
  else (ofBytes bytes).map ("host", ·)

/-- The port of a host that names none. -/
def defaultPort : List Char := ['5', '4', '3', '2']

/-- A host in brackets or not, with its port. -/
def hostItems : List Char → List Item
  | '[' :: s =>
    match Text.cutFirst (· == ']') s with
    | some (host, []) => [hostItem host, item "port" defaultPort]
    | some (host, ':' :: port) => [hostItem host, item "port" port]
    | _ => [.error (.invalid "host")]
  | s =>
    let (host, port) := (Text.cutFirst (· == ':') s).getD (s, defaultPort)
    [hostItem host, item "port" port]

def parameterItem (key value : List Char) : Item :=
  match decode key with
  | .error e => .error e
  | .ok key => if key = "host" then hostItem value else item key value

def parameterItems (s : List Char) : List Item :=
  if s.isEmpty then []
  else
    match _ : Text.cutFirst (· == '=') s with
    | none => [.error .unterminated]
    | some (key, rest) =>
      match _ : Text.cutFirst (· == '&') rest with
      | none => [parameterItem key rest]
      | some (value, rest') => parameterItem key value :: parameterItems rest'
termination_by s.length
decreasing_by
  rename_i hkey hvalue
  exact Nat.lt_trans (Text.length_lt_of_cutFirst hvalue) (Text.length_lt_of_cutFirst hkey)

def databaseItems (s : List Char) : List Item :=
  let (database, s) := match s with
    | '/' :: s => (s.takeWhile (· != '?'), s.dropWhile (· != '?'))
    | s => ([], s)
  (if database.isEmpty then [] else [item "dbname" database]) ++
    match s with
    | '?' :: s => parameterItems s
    | _ => []

/-- The items of a connection text without its scheme. The password of the user, which may be any
bytes, is passed over. -/
def items (s : List Char) : List Item :=
  let (user, s) := match Text.cutFirst (· == '@') s with
    | some (user, s) => ([item "user" (user.takeWhile (· != ':'))], s)
    | none => ([], s)
  let hosts := s.takeWhile fun c => !(c == '/' || c == '?')
  let rest := s.dropWhile fun c => !(c == '/' || c == '?')
  user ++ (if hosts.isEmpty then [] else (Text.pieces (· == ',') hosts).flatMap hostItems) ++
    databaseItems rest

/-! ### Options -/

def isInteger (range : IntegerRange) (s : List Char) : Bool := (range.read s).isOk

/-- What the value of an option has to be. -/
def options : List (String × (List Char → Bool)) :=
  let any : List Char → Bool := fun _ => true
  let oneOf (names : List String) : List Char → Bool := fun s => names.contains (String.ofList s)
  let each (p : List Char → Bool) : List Char → Bool := fun s =>
    (Text.pieces (· == ',') s).all p
  [("user", any), ("password", any), ("dbname", any), ("options", any),
    ("application_name", any), ("host", any),
    ("sslmode", oneOf ["disable", "prefer", "require"]),
    ("sslnegotiation", oneOf ["postgres", "direct"]),
    ("hostaddr", each fun s => Address.isV4 s || Address.isV6 s),
    ("port", each fun s => s.isEmpty || isInteger (.unsigned 16) s),
    ("connect_timeout", isInteger (.signed 64)),
    ("tcp_user_timeout", isInteger (.signed 64)),
    ("keepalives", isInteger (.unsigned 64)),
    ("keepalives_idle", isInteger (.signed 64)),
    ("keepalives_interval", isInteger (.signed 64)),
    ("keepalives_retries", isInteger (.unsigned 32)),
    ("target_session_attrs", oneOf ["any", "read-write", "read-only"]),
    ("channel_binding", oneOf ["disable", "prefer", "require"]),
    ("load_balance_hosts", oneOf ["disable", "random"])]

/-- An option that is known, with a value that it may have. -/
def check (option : String × String) : Except TargetError (String × String) :=
  match options.lookup option.1 with
  | none => .error (.unknown option.1)
  | some suits => if suits option.2.toList then .ok option else .error (.invalid option.1)

/-- The options of items, up to the first one that is refused. -/
def checkAll : List Item → Except TargetError (List (String × String))
  | [] => .ok []
  | .error e :: _ => .error e
  | .ok option :: rest =>
    match check option with
    | .error e => .error e
    | .ok option =>
      match checkAll rest with
      | .error e => .error e
      | .ok options => .ok (option :: options)

/-- The options of a connection text without its scheme. -/
def read (s : List Char) : Except TargetError (List (String × String)) := checkAll (items s)

end Target

end TableAccess.Link
