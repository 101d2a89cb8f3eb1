import TableAccess.Link.Address
import TableAccess.Link.Form

/-!
URLs of servers: a scheme, a user, a host, a port, a path, a query and a fragment. What may not
stand in a part is percent encoded there.
-/

set_option autoImplicit false
set_option relaxedAutoImplicit false

namespace TableAccess.Link

/-- Why a text is no URL of a server. -/
inductive UrlError
  | emptyHost
  | port
  | address
  | hostCharacter
  deriving DecidableEq, Repr

def UrlError.message : UrlError → String
  | .emptyHost => "empty host"
  | .port => "invalid port number"
  | .address => "invalid IPv6 address"
  | .hostCharacter => "invalid domain character"

/-- The parts of a URL as they are written. The user comes with its password, and with the sign
that separates it from the host. -/
structure Url where
  scheme : List Char
  user : List Char
  host : List Char
  port : Option Nat
  path : List Char
  query : Option (List Char)
  fragment : Option (List Char)
  deriving DecidableEq, Repr

namespace Url

/-- The characters that are encoded in a fragment. -/
def fragmentReserved : List Char := [' ', '"', '<', '>', '\x60']

/-- The characters that are encoded in a path. -/
def pathReserved : List Char := fragmentReserved ++ ['#', '?', '\x7b', '\x7d']

/-- The characters that are encoded in the name and the password of a user. -/
def userReserved : List Char :=
  pathReserved ++ ['/', ':', ';', '=', '@', '[', '\\', ']', '^', '|']

/-- The characters that no host contains. -/
def hostForbidden : List Char :=
  ['\x00', '\t', '\n', '\r', ' ', '#', '/', ':', '<', '>', '?', '@', '[', '\\', ']', '^', '|']

/-- A part with the reserved characters and all that is not printable ASCII encoded. -/
def encode (reserved : List Char) (s : List Char) : List Char :=
  Text.percentEncode (fun c => 32 ≤ c.toNat && c.toNat < 127 && !reserved.contains c) s

def text (u : Url) : List Char :=
  u.scheme ++ ':' :: '/' :: '/' :: u.user ++ u.host ++
    (match u.port with | some n => ':' :: Text.numeral n | none => []) ++ u.path ++
    (match u.query with | some q => '?' :: q | none => []) ++
    (match u.fragment with | some f => '#' :: f | none => [])

/-! ### Reading -/

def endsHost (c : Char) : Bool := c == '/' || c == '?' || c == '#'

def endsPath (c : Char) : Bool := c == '?' || c == '#'

/-- The name and the password of a user as they are written, with the sign after them. -/
def writeUser (s : List Char) : List Char :=
  let (name, password) := (Text.cutFirst (· == ':') s).getD (s, [])
  encode userReserved name ++
    (if password.isEmpty then [] else ':' :: encode userReserved password) ++
    (if name.isEmpty && password.isEmpty then [] else ['@'])

/-- The user in front of the last sign that separates one from the host, and what follows. -/
def readUser (s : List Char) : Except UrlError (List Char × List Char) :=
  let authority := s.takeWhile fun c => !endsHost c
  let rest := s.dropWhile fun c => !endsHost c
  match Text.cutLast (· == '@') authority with
  | none => .ok ([], s)
  | some ([], _, after) =>
    if after.isEmpty && !rest.isEmpty then .error .emptyHost else .ok ([], after ++ rest)
  | some (user, _, after) => .ok (writeUser user, after ++ rest)

/-- The characters of the host and what follows them. A colon in brackets belongs to the host. -/
def splitHost (bracketed : Bool) : List Char → List Char × List Char
  | [] => ([], [])
  | c :: s =>
    if endsHost c || c == ':' && !bracketed then ([], c :: s)
    else
      let bracketed := if c == '[' then true else if c == ']' then false else bracketed
      let (host, rest) := splitHost bracketed s
      (c :: host, rest)

def readHost : List Char → Except UrlError (List Char)
  | '[' :: s =>
    match s.reverse with
    | ']' :: inner =>
      if Address.isV6 inner.reverse then .ok ('[' :: s) else .error .address
    | _ => .error .address
  | s =>
    if s.any hostForbidden.contains then .error .hostCharacter
    else .ok (Text.percentEncode (fun c => 32 ≤ c.toNat && c.toNat < 127) s)

/-- A port after its colon, if there is one, and what follows. -/
def readPort : List Char → Except UrlError (Option Nat × List Char)
  | ':' :: s =>
    let digits := s.takeWhile Text.isDigit
    let rest := s.dropWhile Text.isDigit
    let ended := match rest with
      | [] => true
      | c :: _ => endsHost c || c == '\\'
    if !ended || 65535 < Text.valueOf digits then .error .port
    else .ok (if digits.isEmpty then none else some (Text.valueOf digits), rest)
  | s => .ok (none, s)

/-- How many points a segment of a path is, if it is points only. -/
def points : List Char → Option Nat
  | [] => some 0
  | '.' :: s => (points s).map (· + 1)
  | '%' :: '2' :: 'e' :: s => (points s).map (· + 1)
  | '%' :: '2' :: 'E' :: s => (points s).map (· + 1)
  | _ => none

/-- Segments after others, which come last first, with one point standing for the segment
itself and two points for the one before it. -/
def settle (before : List (List Char)) : List (List Char) → List (List Char)
  | [] => before.reverse
  | [s] =>
    match points s with
    | some 1 => ([] :: before).reverse
    | some 2 => ([] :: before.tail).reverse
    | _ => (s :: before).reverse
  | s :: rest =>
    match points s with
    | some 1 => settle before rest
    | some 2 => settle before.tail rest
    | _ => settle (s :: before) rest

def readPath : List Char → List Char
  | [] => []
  | c :: s =>
    let segments := Text.pieces (· == '/') (encode pathReserved (if c == '/' then s else c :: s))
    '/' :: ['/'].intercalate (settle [] segments)

def readEnd : List Char → Option (List Char) × Option (List Char)
  | '?' :: s =>
    match Text.cutFirst (· == '#') s with
    | some (query, fragment) => (some query, some (encode fragmentReserved fragment))
    | none => (some s, none)
  | '#' :: s => (none, some (encode fragmentReserved s))
  | _ => (none, none)

/-- What follows the scheme, without line breaks and the blanks at the end. -/
def clean (s : List Char) : List Char :=
  let kept := (s.reverse.dropWhile fun c => c.toNat ≤ 32).reverse
  kept.filter fun c => !(c == '\t' || c == '\n' || c == '\r')

/-- The URL of a scheme and what follows its two slashes. -/
def read (scheme s : List Char) : Except UrlError Url :=
  match readUser (clean s) with
  | .error e => .error e
  | .ok (user, s) =>
    let (hostChars, s) := splitHost false s
    match readHost hostChars with
    | .error e => .error e
    | .ok host =>
      if host.isEmpty && s.head? == some ':' then .error .emptyHost
      else
        match readPort s with
        | .error e => .error e
        | .ok (port, s) =>
          if host.isEmpty && !user.isEmpty then .error .emptyHost
          else
            let (query, fragment) := readEnd (s.dropWhile fun c => !endsPath c)
            .ok ⟨scheme, user, host, port, readPath (s.takeWhile fun c => !endsPath c), query,
              fragment⟩

/-! ### Parameters -/

def parameters (u : Url) : Form := Form.read (u.query.getD [])

def withParameters (u : Url) (f : Form) : Url :=
  { u with query := if f.isEmpty then none else some f.write }

/-- The value of the first parameter with a key, and the URL without that parameter. -/
def takeParameter (u : Url) (key : String) : Option String × Url :=
  let (value, rest) := Form.take key u.parameters
  (value, u.withParameters rest)

end Url

end TableAccess.Link
