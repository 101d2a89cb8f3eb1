/-!
Numerals: decimal and hexadecimal digits, numbers written with them, and the padding of
decimal numerals with zeros.

The decimal numeral of a number is read back by `valueOf`, whatever zeros stand in front.
-/

set_option autoImplicit false
set_option relaxedAutoImplicit false

namespace TableAccess.Text

/-- The ASCII digits. -/
def isDigit (c : Char) : Bool := 48 ≤ c.toNat && c.toNat ≤ 57

/-- The digit of a number below ten. -/
def digit (n : Nat) : Char := Char.ofNat (48 + n % 10)

def digitValue (c : Char) : Nat := c.toNat - 48

/-- The decimal numeral of a number, without zeros in front. -/
def numeral (n : Nat) : List Char :=
  if n < 10 then [digit n] else numeral (n / 10) ++ [digit n]

def valueOf (ds : List Char) : Nat := ds.foldl (fun n c => 10 * n + digitValue c) 0

/-- A decimal numeral with zeros in front of it up to `width` characters. -/
def padded (width n : Nat) : List Char :=
  let ds := numeral n
  List.replicate (width - ds.length) '0' ++ ds

/-- The last `width` decimal digits of a number. -/
def fixedDigits : Nat → Nat → List Char
  | 0, _ => []
  | width + 1, n => fixedDigits width (n / 10) ++ [digit n]

/-- The numeral of an integer, a negative one after a minus sign. -/
def signedNumeral (n : Int) : List Char :=
  if n < 0 then '-' :: numeral n.natAbs else numeral n.natAbs

def natText (n : Nat) : String := String.ofList (numeral n)

def intText (n : Int) : String := String.ofList (signedNumeral n)

/-- The lower case hexadecimal digit of a number below sixteen. -/
def hexDigit (n : Nat) : Char :=
  if n % 16 < 10 then Char.ofNat (48 + n % 16) else Char.ofNat (87 + n % 16)

/-- The upper case hexadecimal digit of a number below sixteen. -/
def upperHexDigit (n : Nat) : Char :=
  if n % 16 < 10 then Char.ofNat (48 + n % 16) else Char.ofNat (55 + n % 16)

/-- The number that a hexadecimal digit of either case stands for. -/
def hexValue? (c : Char) : Option Nat :=
  let n := c.toNat
  if 48 ≤ n ∧ n ≤ 57 then some (n - 48)
  else if 97 ≤ n ∧ n ≤ 102 then some (n - 87)
  else if 65 ≤ n ∧ n ≤ 70 then some (n - 55)
  else none

/-- The hexadecimal numeral of a number, lower case and without zeros in front. -/
def hexNumeral (n : Nat) : List Char :=
  if n < 16 then [hexDigit n] else hexNumeral (n / 16) ++ [hexDigit n]

/-- The last `width` hexadecimal digits of a number, lower case. -/
def hexDigits : Nat → Nat → List Char
  | 0, _ => []
  | width + 1, n => hexDigits width (n / 16) ++ [hexDigit n]

def hexText (bytes : List UInt8) : String :=
  String.ofList (bytes.flatMap fun b => hexDigits 2 b.toNat)

/-- The number that hexadecimal digits stand for, if all characters are such digits. -/
def hexNumber? (s : List Char) : Option Nat :=
  s.foldl (fun acc c => acc.bind fun n => (hexValue? c).map (16 * n + ·)) (some 0)

def hexBytes? : List Char → Option (List UInt8)
  | [] => some []
  | [_] => none
  | a :: b :: rest => do
    let high ← hexValue? a
    let low ← hexValue? b
    let tail ← hexBytes? rest
    return UInt8.ofNat (16 * high + low) :: tail

end TableAccess.Text
