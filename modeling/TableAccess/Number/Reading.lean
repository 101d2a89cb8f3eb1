import TableAccess.Number.Binary
import TableAccess.Text.Digits

/-!
Floating-point numbers from text: a sign, then the name of an infinity or of what is no number,
or decimal digits with a point and an exponent. The number nearest to the decimal is taken.
-/

set_option autoImplicit false
set_option relaxedAutoImplicit false

namespace TableAccess.Binary

/-- Why a text is no floating-point number. -/
inductive ReadError
  | empty
  | invalid
  deriving DecidableEq, Repr

def ReadError.message : ReadError → String
  | .empty => "cannot parse float from empty string"
  | .invalid => "invalid float literal"

/-- The number nearest to `n * 10 ^ exponent`. Powers far beyond the range of the width are
not computed. -/
def ofDecimal (p : Precision) (negative : Bool) (n : Nat) (exponent : Int) : Binary p :=
  let top := exponent + (Text.numeral n).length
  if n = 0 ∨ top < -400 then ofRatio p negative 0 1
  else if 400 < top then infinity p negative
  else if 0 ≤ exponent then ofRatio p negative (n * 10 ^ exponent.toNat) 1
  else ofRatio p negative n (10 ^ (-exponent).toNat)

/-- The exponent that follows the digits of a number, zero when nothing follows. -/
def readExponent : List Char → Option Int
  | [] => some 0
  | c :: cs =>
    if c = 'e' ∨ c = 'E' then
      let (negative, ds) := match cs with
        | '-' :: ds => (true, ds)
        | '+' :: ds => (false, ds)
        | ds => (false, ds)
      if ds.isEmpty || !ds.all Text.isDigit then none
      else
        let n : Int := Text.valueOf ds
        some (if negative then -n else n)
    else none

/-- A number without its sign. -/
def readUnsigned (p : Precision) (negative : Bool) (cs : List Char) :
    Except ReadError (Binary p) :=
  let name := cs.map Char.toLower
  if name = "inf".toList ∨ name = "infinity".toList then .ok (infinity p negative)
  else if name = "nan".toList then
    .ok (ofMagnitude p negative (notNumber p).magnitude)
  else
    let whole := cs.takeWhile Text.isDigit
    let rest := cs.dropWhile Text.isDigit
    let (fraction, rest) := match rest with
      | '.' :: more => (more.takeWhile Text.isDigit, more.dropWhile Text.isDigit)
      | rest => ([], rest)
    if whole.isEmpty && fraction.isEmpty then .error .invalid
    else match readExponent rest with
      | none => .error .invalid
      | some e =>
        .ok (ofDecimal p negative (Text.valueOf (whole ++ fraction)) (e - fraction.length))

def read (p : Precision) : List Char → Except ReadError (Binary p)
  | [] => .error .empty
  | '-' :: cs => readUnsigned p true cs
  | '+' :: cs => readUnsigned p false cs
  | cs => readUnsigned p false cs

end TableAccess.Binary
