import TableAccess.Text.Percent
import TableAccess.Text.Split
import TableAccess.Text.Utf8

/-!
The query of a URL as pairs of keys and values: ampersands stand between the pairs, an equals sign
between key and value, and a plus sign for a blank.
-/

set_option autoImplicit false
set_option relaxedAutoImplicit false

namespace TableAccess.Link

/-- Pairs of keys and values in order. Keys may repeat. -/
abbrev Form := List (String × String)

namespace Form

/-- The text that a key or a value stands for. -/
def decode (s : List Char) : String :=
  let s := s.map fun c => if c == '+' then ' ' else c
  String.ofList (Text.lossy (Text.percentDecode (Text.utf8Bytes s)))

def encode (s : String) : List Char :=
  let harmless (c : Char) : Bool :=
    Text.isAsciiAlphanumeric c || c == '*' || c == '-' || c == '.' || c == '_'
  s.toList.flatMap fun c => if c == ' ' then ['+'] else Text.percentEncode harmless [c]

/-- The pair that a part of a query stands for. A part without an equals sign is a key with an
empty value. -/
def readPair (s : List Char) : String × String :=
  let (key, value) := (Text.cutFirst (· == '=') s).getD (s, [])
  (decode key, decode value)

/-- The pairs of a query. Empty parts stand for nothing. -/
def read (query : List Char) : Form :=
  ((Text.pieces (· == '&') query).filter fun s => !s.isEmpty).map readPair

def writePair (pair : String × String) : List Char := encode pair.1 ++ '=' :: encode pair.2

def write (f : Form) : List Char := ['&'].intercalate (f.map writePair)

/-- The value of the first pair with a key, and the other pairs. -/
def take (key : String) : Form → Option String × Form
  | [] => (none, [])
  | pair :: rest =>
    if pair.1 == key then (some pair.2, rest)
    else
      let (value, rest) := take key rest
      (value, pair :: rest)

end Form

end TableAccess.Link
