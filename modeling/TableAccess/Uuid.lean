import TableAccess.Number.Power
import TableAccess.Text.Digits
import TableAccess.Text.Percent
import TableAccess.Text.Split

/-!
Universally unique identifiers: 128 bits, written as 32 hexadecimal digits in five groups.
-/

set_option autoImplicit false
set_option relaxedAutoImplicit false

namespace TableAccess

/-- An identifier of 128 bits. -/
structure Uuid where
  bits : Nat
  bits_lt : bits < 2 ^ 128
  deriving DecidableEq

/-- Why a text is no identifier. -/
inductive UuidError
  | character (c : Char) (position : Nat)
  | length (found : Nat)
  | groups (found : Nat)
  | groupLength (group expected found : Nat)
  deriving DecidableEq, Repr

def UuidError.message : UuidError → String
  | .character c position =>
    "invalid character: found `" ++ String.ofList [c] ++ "` at " ++ Text.natText position
  | .length found =>
    "invalid length: expected length 32 for simple format, found " ++ Text.natText found
  | .groups found => "invalid group count: expected 5, found " ++ Text.natText found
  | .groupLength group expected found =>
    "invalid group length in group " ++ Text.natText group ++ ": expected " ++
      Text.natText expected ++ ", found " ++ Text.natText found

namespace Uuid

/-- The identifier of the low 128 bits of a number. -/
def ofNat (n : Nat) : Uuid := ⟨n % 2 ^ 128, Nat.mod_lt _ (Nat.two_pow_pos _)⟩

instance : Inhabited Uuid := ⟨ofNat 0⟩

def text (u : Uuid) : String :=
  let ds := Text.hexDigits 32 u.bits
  String.ofList
    (ds.take 8 ++ '-' :: (ds.drop 8).take 4 ++ '-' :: (ds.drop 12).take 4 ++
      '-' :: (ds.drop 16).take 4 ++ '-' :: ds.drop 20)

/-- The lengths of the five groups of digits. -/
def groupLengths : List Nat := [8, 4, 4, 4, 12]

def readGroups? (s : List Char) : Option Uuid :=
  let groups := Text.pieces (· == '-') s
  if groups.map List.length = groupLengths then
    (Text.hexNumber? groups.flatten).map ofNat
  else none

/-- The first character that is neither a hexadecimal digit nor a hyphen, with the number of
bytes before it. -/
def strayCharacter? : Nat → List Char → Option (Char × Nat)
  | _, [] => none
  | n, c :: cs =>
    if c = '-' ∨ (Text.hexValue? c).isSome then strayCharacter? (n + (Text.utf8 c).length) cs
    else some (c, n)

/-- The first group of a wrong length, by its number, the right and the found length. -/
def wrongGroup? : Nat → List Nat → List Nat → Option (Nat × Nat × Nat)
  | group, expected :: rest, found :: more =>
    if expected = found then wrongGroup? (group + 1) rest more else some (group, expected, found)
  | _, _, _ => none

/-- Why a text, without what encloses it, is no identifier. -/
def explain (simple : Bool) (offset : Nat) (s : List Char) : UuidError :=
  match strayCharacter? offset s with
  | some (c, n) => .character c n
  | none =>
    let groups := Text.pieces (· == '-') s
    if groups.length = 1 && simple then .length s.length
    else if groups.length ≠ 5 then .groups groups.length
    else match wrongGroup? 0 groupLengths (groups.map List.length) with
      | some (group, expected, found) => .groupLength group expected found
      | none => .length s.length

/-- An identifier from text: 32 digits, five groups of digits with hyphens between them, the
same in braces, or after `urn:uuid:`. -/
def read (s : List Char) : Except UuidError Uuid :=
  let bytes := (Text.utf8Bytes s).length
  let (simple, offset, inner) := match s with
    | '\x7b' :: rest =>
      if rest.getLast? = some '\x7d' then (false, 1, rest.dropLast) else (true, 0, s)
    | s =>
      match Text.dropLead? "urn:uuid:".toList s with
      | some rest => (false, 9, rest)
      | none => (true, 0, s)
  let found := if simple && bytes = 32 then (Text.hexNumber? inner).map ofNat
    else readGroups? inner
  match found with
  | some u => .ok u
  | none => .error (explain simple offset inner)

end Uuid

end TableAccess
