import TableAccess.Number.Power
import TableAccess.Text.Digits

/-!
Texts from bytes in UTF-8. A character of several bytes starts with one that tells their number;
the second one has a range of its own, so that every character has one form only.
-/

set_option autoImplicit false
set_option relaxedAutoImplicit false

namespace TableAccess.Text

/-- Why bytes are no text: some of them make up no character, or the last ones make up the start
of one. The index is that of the first of these bytes. -/
inductive Utf8Error
  | invalid (count index : Nat)
  | incomplete (index : Nat)
  deriving DecidableEq, Repr

def Utf8Error.message : Utf8Error → String
  | .invalid count index =>
    "invalid utf-8 sequence of " ++ natText count ++ " bytes from index " ++ natText index
  | .incomplete index => "incomplete utf-8 byte sequence from index " ++ natText index

/-- The bytes that a first byte of several may have as its second one. -/
def secondRange (first : UInt8) : UInt8 × UInt8 :=
  if first = 0xE0 then (0xA0, 0xBF)
  else if first = 0xED then (0x80, 0x9F)
  else if first = 0xF0 then (0x90, 0xBF)
  else if first = 0xF4 then (0x80, 0x8F)
  else (0x80, 0xBF)

/-- How many bytes a character with the given first byte has, if there are such characters. -/
def utf8Width (first : UInt8) : Option Nat :=
  if first < 0x80 then some 1
  else if first < 0xC2 then none
  else if first < 0xE0 then some 2
  else if first < 0xF0 then some 3
  else if first < 0xF5 then some 4
  else none

/-- The part of a first byte that belongs to the number of the character. -/
def leadBits (width : Nat) (first : UInt8) : Nat :=
  if width = 1 then first.toNat else first.toNat % 2 ^ (7 - width)

/-- The character at the start of bytes that follow `index` others, and how many bytes it has. -/
def utf8Char (index : Nat) (first : UInt8) (rest : List UInt8) : Except Utf8Error (Char × Nat) :=
  match utf8Width first with
  | none => .error (.invalid 1 index)
  | some width => go width (leadBits width first) 1 rest
where
  /-- The bytes of the character after the first `count` ones, with its number so far. -/
  go (width n count : Nat) : List UInt8 → Except Utf8Error (Char × Nat)
    | bytes =>
      if width ≤ count then .ok (Char.ofNat n, count)
      else match bytes with
        | [] => .error (.incomplete index)
        | b :: bytes =>
          let (low, high) := if count = 1 then secondRange first else (0x80, 0xBF)
          if low ≤ b && b ≤ high then go width (n * 64 + b.toNat % 64) (count + 1) bytes
          else .error (.invalid count index)

/-- The characters of bytes that follow `index` others; `fuel` bounds their number. -/
def utf8Chars : Nat → Nat → List UInt8 → Except Utf8Error (List Char)
  | _, _, [] => .ok []
  | 0, index, _ :: _ => .error (.incomplete index)
  | fuel + 1, index, b :: bytes =>
    match utf8Char index b bytes with
    | .error e => .error e
    | .ok (c, width) =>
      match utf8Chars fuel (index + width) (bytes.drop (width - 1)) with
      | .error e => .error e
      | .ok cs => .ok (c :: cs)

/-- The text of bytes in UTF-8. -/
def ofUtf8 (bytes : List UInt8) : Except Utf8Error (List Char) := utf8Chars bytes.length 0 bytes

def replacement : Char := Char.ofNat 0xFFFD

/-- The characters of bytes, with the replacement character for bytes that make up none; `fuel`
bounds the number of characters. -/
def lossyChars : Nat → List UInt8 → List Char
  | _, [] => []
  | 0, _ :: _ => []
  | fuel + 1, b :: bytes =>
    match utf8Char 0 b bytes with
    | .ok (c, width) => c :: lossyChars fuel (bytes.drop (width - 1))
    | .error (.invalid count _) => replacement :: lossyChars fuel (bytes.drop (count - 1))
    | .error (.incomplete _) => [replacement]

/-- The text that bytes come closest to. -/
def lossy (bytes : List UInt8) : List Char := lossyChars bytes.length bytes

end TableAccess.Text
