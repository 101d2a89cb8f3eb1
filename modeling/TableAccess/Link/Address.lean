import TableAccess.Text.Digits
import TableAccess.Text.Split

/-!
The numeric addresses of hosts: four numbers of a byte with points between them, or eight groups
of hexadecimal digits with colons between them, of which a row of zeros may be left out once.
-/

set_option autoImplicit false
set_option relaxedAutoImplicit false

namespace TableAccess.Link.Address

/-- A number of a byte, without zeros in front. -/
def isByte (s : List Char) : Bool :=
  !s.isEmpty && s.all Text.isDigit && (s.length == 1 || s.head? != some '0') && s.length ≤ 3 &&
    Text.valueOf s ≤ 255

/-- Four numbers of a byte. -/
def isV4 (s : List Char) : Bool :=
  let parts := Text.pieces (· == '.') s
  parts.length == 4 && parts.all isByte

/-- One to four hexadecimal digits. -/
def isGroup (s : List Char) : Bool :=
  !s.isEmpty && s.length ≤ 4 && s.all fun c => (Text.hexValue? c).isSome

/-- How many groups parts make up. The last part may be an address of four bytes, which counts
for two groups. -/
def countGroups : List (List Char) → Option Nat
  | [] => some 0
  | [s] => if isGroup s then some 1 else if isV4 s then some 2 else none
  | s :: rest => if isGroup s then (countGroups rest).map (· + 1) else none

/-- How many groups a text makes up. -/
def groups (s : List Char) : Option Nat :=
  if s.isEmpty then some 0 else countGroups (Text.pieces (· == ':') s)

/-- What stands before and after the first two colons in a row. -/
def cutColons : List Char → Option (List Char × List Char)
  | ':' :: ':' :: rest => some ([], rest)
  | c :: rest => (cutColons rest).map fun (a, b) => (c :: a, b)
  | [] => none

/-- Eight groups, or fewer with a row of zeros left out. -/
def isV6 (s : List Char) : Bool :=
  match cutColons s with
  | none => groups s == some 8
  | some (before, after) =>
    before.all (· != '.') &&
      match groups before, groups after with
      | some m, some n => m + n ≤ 7
      | _, _ => false

end TableAccess.Link.Address
