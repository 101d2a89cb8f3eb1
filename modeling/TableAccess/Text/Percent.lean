import TableAccess.Text.Digits

/-!
Percent encoding: a character outside a set of harmless ones is written as the bytes of its
UTF-8 form, each as a percent sign and two hexadecimal digits.
-/

set_option autoImplicit false
set_option relaxedAutoImplicit false

namespace TableAccess.Text

/-- The letters and digits of ASCII. -/
def isAsciiAlphanumeric (c : Char) : Bool :=
  isDigit c || (65 ≤ c.toNat && c.toNat ≤ 90) || (97 ≤ c.toNat && c.toNat ≤ 122)

/-- The bytes of a character in UTF-8. -/
def utf8 (c : Char) : List UInt8 := String.utf8EncodeChar c

/-- The bytes of a text in UTF-8. -/
def utf8Bytes (s : List Char) : List UInt8 := s.flatMap utf8

/-- A byte as a percent sign and two upper case hexadecimal digits. -/
def percentByte (b : UInt8) : List Char :=
  ['%', upperHexDigit (b.toNat / 16), upperHexDigit b.toNat]

/-- A text with every character outside `harmless` percent encoded. -/
def percentEncode (harmless : Char → Bool) (s : List Char) : List Char :=
  s.flatMap fun c => if harmless c then [c] else (utf8 c).flatMap percentByte

/-- The bytes that a percent encoded text stands for. A percent sign that no two hexadecimal
digits follow stands for itself. -/
def percentDecode : List UInt8 → List UInt8
  | 0x25 :: a :: b :: rest =>
    match hexValue? (Char.ofNat a.toNat), hexValue? (Char.ofNat b.toNat) with
    | some high, some low => UInt8.ofNat (16 * high + low) :: percentDecode rest
    | _, _ => 0x25 :: percentDecode (a :: b :: rest)
  | c :: rest => c :: percentDecode rest
  | [] => []

end TableAccess.Text
