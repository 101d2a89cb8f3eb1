import TableAccess.Number.Power
import TableAccess.Text.Digits

/-!
Integers of a bounded range, and their reading from text: an optional sign and decimal digits.
The first character that is no digit, or that takes the number out of its range, decides the
error.
-/

set_option autoImplicit false
set_option relaxedAutoImplicit false

namespace TableAccess

/-- The integers from `low` to `high`. -/
structure IntegerRange where
  low : Int
  high : Int
  deriving DecidableEq, Repr

/-- Why a text is no integer of a range. -/
inductive IntegerError
  | empty
  | invalidDigit
  | tooLarge
  | tooSmall
  deriving DecidableEq, Repr

def IntegerError.message : IntegerError → String
  | .empty => "cannot parse integer from empty string"
  | .invalidDigit => "invalid digit found in string"
  | .tooLarge => "number too large to fit in target type"
  | .tooSmall => "number too small to fit in target type"

namespace IntegerRange

def signed (bits : Nat) : IntegerRange := ⟨-(2 ^ (bits - 1)), 2 ^ (bits - 1) - 1⟩

def unsigned (bits : Nat) : IntegerRange := ⟨0, 2 ^ bits - 1⟩

/-- An integer within the range, or why it lies outside of it. -/
def check (r : IntegerRange) (n : Int) : Except IntegerError Int :=
  if r.high < n then .error .tooLarge
  else if n < r.low then .error .tooSmall
  else .ok n

/-- Digits after the number `n`, each appended to it with the sign of the whole. -/
def readDigits (r : IntegerRange) (negative : Bool) : Int → List Char → Except IntegerError Int
  | n, [] => .ok n
  | n, c :: cs =>
    if Text.isDigit c then
      let d : Int := Text.digitValue c
      let next := if negative then 10 * n - d else 10 * n + d
      match r.check next with
      | .error e => .error e
      | .ok next => readDigits r negative next cs
    else .error .invalidDigit

/-- An integer of the range from text. Only a range with negative numbers takes a minus sign. -/
def read (r : IntegerRange) : List Char → Except IntegerError Int
  | [] => .error .empty
  | ['+'] | ['-'] => .error .invalidDigit
  | '+' :: cs => r.readDigits false 0 cs
  | '-' :: cs => if r.low < 0 then r.readDigits true 0 cs else .error .invalidDigit
  | cs => r.readDigits false 0 cs

end IntegerRange

end TableAccess
