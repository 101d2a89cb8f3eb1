import TableAccess.Text.Blank
import TableAccess.Text.Digits

/-!
The tokens of declarations: words, signs, literals and brackets. Blanks and comments stand between
tokens and are none themselves.
-/

set_option autoImplicit false
set_option relaxedAutoImplicit false

namespace TableAccess.Schema

/-- A token. A literal is kept as it is written. -/
inductive Token
  | word (s : String)
  | sign (c : Char)
  | literal (source : List Char)
  | opening (c : Char)
  | closing (c : Char)
  deriving DecidableEq, Repr

namespace Token

def isWordStart (c : Char) : Bool :=
  c == '_' || (65 ≤ c.toNat && c.toNat ≤ 90) || (97 ≤ c.toNat && c.toNat ≤ 122) ||
    128 ≤ c.toNat

def isWordChar (c : Char) : Bool := isWordStart c || Text.isDigit c

/-- The characters of a text literal after its first quote, and what follows the literal. -/
def closeText : List Char → Option (List Char × List Char)
  | [] => none
  | '"' :: s => some (['"'], s)
  | '\\' :: c :: s => (closeText s).map fun (a, b) => ('\\' :: c :: a, b)
  | c :: s => (closeText s).map fun (a, b) => (c :: a, b)

/-- The characters of a raw text literal after its first quote, up to a quote with the given number
of hash signs, and what follows the literal. -/
def closeRaw (hashes : Nat) : List Char → Option (List Char × List Char)
  | [] => none
  | c :: s =>
    let marks := List.replicate hashes '#'
    if c = '"' ∧ s.take hashes = marks then some ('"' :: marks, s.drop hashes)
    else (closeRaw hashes s).map fun (a, b) => (c :: a, b)

/-- A raw text literal after the letter in front of it, and what follows the literal. -/
def readRaw (s : List Char) : Option (List Char × List Char) :=
  let hashes := s.takeWhile (· == '#')
  match s.dropWhile (· == '#') with
  | '"' :: rest => (closeRaw hashes.length rest).map fun (a, b) => (hashes ++ '"' :: a, b)
  | _ => none

/-- A text literal of any form, and what follows it. -/
def readText : List Char → Option (List Char × List Char)
  | '"' :: s => (closeText s).map fun (a, b) => ('"' :: a, b)
  | 'b' :: '"' :: s => (closeText s).map fun (a, b) => ('b' :: '"' :: a, b)
  | 'c' :: '"' :: s => (closeText s).map fun (a, b) => ('c' :: '"' :: a, b)
  | 'b' :: 'r' :: s => (readRaw s).map fun (a, b) => ('b' :: 'r' :: a, b)
  | 'c' :: 'r' :: s => (readRaw s).map fun (a, b) => ('c' :: 'r' :: a, b)
  | 'r' :: s => (readRaw s).map fun (a, b) => ('r' :: a, b)
  | _ => none

/-- A character literal after its first quote, and what follows it. -/
def readChar : List Char → Option (List Char × List Char)
  | '\\' :: c :: s =>
    match s.dropWhile (· != '\'') with
    | '\'' :: rest => some ('\\' :: c :: s.takeWhile (· != '\'') ++ ['\''], rest)
    | _ => none
  | c :: '\'' :: s => some ([c, '\''], s)
  | _ => none

/-- A number, and what follows it. -/
def readNumber (s : List Char) : List Char × List Char :=
  let whole := s.takeWhile isWordChar
  match s.dropWhile isWordChar with
  | '.' :: c :: rest =>
    if Text.isDigit c then
      (whole ++ '.' :: c :: rest.takeWhile isWordChar, rest.dropWhile isWordChar)
    else (whole, '.' :: c :: rest)
  | rest => (whole, rest)

/-- What follows a comment that may hold others, of which `depth` are open around it. -/
def skipComment (depth : Nat) : List Char → List Char
  | [] => []
  | '*' :: '/' :: s => if depth = 0 then s else skipComment (depth - 1) s
  | '/' :: '*' :: s => skipComment (depth + 1) s
  | _ :: s => skipComment depth s

def ofChar (c : Char) : Token :=
  if ['(', '[', '\x7b'].contains c then .opening c
  else if [')', ']', '\x7d'].contains c then .closing c
  else .sign c

/-- A word, which may be marked as no keyword, a number, or a sign, and what follows it. -/
def readPlain : List Char → Token × List Char
  | 'r' :: '#' :: s =>
    (.word (String.ofList ('r' :: '#' :: s.takeWhile isWordChar)), s.dropWhile isWordChar)
  | c :: s =>
    if isWordStart c then
      (.word (String.ofList (c :: s.takeWhile isWordChar)), s.dropWhile isWordChar)
    else if Text.isDigit c then
      let (number, rest) := readNumber (c :: s)
      (.literal number, rest)
    else (ofChar c, s)
  | [] => (.sign ' ', [])

/-- The token at the start of a text, unless there is a blank or a comment, and what follows. -/
def next (s : List Char) : Option Token × List Char :=
  match s with
  | '/' :: '/' :: s => (none, s.dropWhile (· != '\n'))
  | '/' :: '*' :: s => (none, skipComment 0 s)
  | s =>
    match readText s with
    | some (source, rest) =>
      (some (.literal (source ++ rest.takeWhile isWordChar)), rest.dropWhile isWordChar)
    | none =>
      match s with
      | [] => (none, [])
      | '\'' :: rest =>
        match readChar rest with
        | some (source, rest) => (some (.literal ('\'' :: source)), rest)
        | none => (some (.sign '\''), rest)
      | c :: rest =>
        if Text.isBlank c then (none, rest)
        else
          let (token, rest) := readPlain (c :: rest)
          (some token, rest)

/-- The tokens of a text of at most `fuel` characters. -/
def lexFrom : Nat → List Char → List Token
  | 0, _ => []
  | _, [] => []
  | fuel + 1, s =>
    let (token, rest) := next s
    token.toList ++ lexFrom fuel rest

def lex (s : String) : List Token := lexFrom s.length s.toList

end Token

/-! ### The texts that literals stand for -/

/-- Where the reading of a text literal is: among its characters, within the code of one, or at the
blanks after a line end that is left out. -/
inductive Spot
  | plain
  | code (n : Nat)
  | gap
  deriving DecidableEq, Repr

/-- The character that a letter after a backslash stands for. -/
def escaped? : Char → Option Char
  | 'n' => some '\n'
  | 'r' => some '\r'
  | 't' => some '\t'
  | '0' => some '\x00'
  | '\\' => some '\\'
  | '\'' => some '\''
  | '"' => some '"'
  | _ => none

/-- The characters that a text literal stands for, up to its last quote. -/
def unescape : Spot → List Char → Option (List Char)
  | _, [] => none
  | .code n, c :: s =>
    if c = '\x7d' then (unescape .plain s).map (Char.ofNat n :: ·)
    else if c = '_' then unescape (.code n) s
    else (Text.hexValue? c).bind fun v => unescape (.code (16 * n + v)) s
  | spot, c :: s =>
    if spot = .gap ∧ [' ', '\n', '\r', '\t'].contains c then unescape .gap s
    else
      match c, s with
      | '"', _ => some []
      | '\\', '\n' :: s => unescape .gap s
      | '\\', 'u' :: '\x7b' :: s => unescape (.code 0) s
      | '\\', 'x' :: a :: b :: s =>
        (Text.hexNumber? [a, b]).bind fun n => (unescape .plain s).map (Char.ofNat n :: ·)
      | '\\', e :: s => (escaped? e).bind fun c => (unescape .plain s).map (c :: ·)
      | c, s => (unescape .plain s).map (c :: ·)

/-- The text that a literal stands for, if it is one of a text. -/
def textOf? : List Char → Option String
  | '"' :: s => (unescape .plain s).map String.ofList
  | 'r' :: s =>
    let hashes := s.takeWhile (· == '#')
    match s.dropWhile (· == '#') with
    | '"' :: rest =>
      (Token.closeRaw hashes.length rest).map fun (inner, _) =>
        String.ofList (inner.take (inner.length - hashes.length - 1))
    | _ => none
  | _ => none

end TableAccess.Schema
