import TableAccess.Text.Digits
import TableAccess.Number.Integer
import TableAccess.Number.Rounding

/-!
Exact decimals: a sign, a coefficient of at most 96 bits and a scale of at most 28 decimals.

A decimal keeps the scale that it was written with, so `1.50` and `1.5` are equal in value and
differ in text.
-/

set_option autoImplicit false
set_option relaxedAutoImplicit false

namespace TableAccess

/-- The number `coefficient / 10 ^ scale`, or its opposite. -/
structure Decimal where
  negative : Bool
  coefficient : Nat
  scale : Nat
  coefficient_lt : coefficient < 2 ^ 96
  scale_le : scale ≤ 28
  deriving DecidableEq

namespace Decimal

/-- The most decimals that a number can have. -/
def maxScale : Nat := 28

/-- The least natural number that is no coefficient. -/
def coefficientLimit : Nat := 2 ^ 96

/-- A decimal from its parts, if they are within their limits. -/
def ofParts? (negative : Bool) (coefficient scale : Nat) : Option Decimal :=
  if h : coefficient < 2 ^ 96 ∧ scale ≤ 28 then
    some ⟨negative, coefficient, scale, h.1, h.2⟩
  else none

/-- A non-negative zero without decimals. -/
def zero : Decimal := ⟨false, 0, 0, by decide, by decide⟩

instance : Inhabited Decimal := ⟨zero⟩

def signedCoefficient (d : Decimal) : Int :=
  if d.negative then -(d.coefficient : Int) else d.coefficient

/-- Two decimals of the same value, whatever their scales and the signs of zeros. -/
def sameValue (a b : Decimal) : Bool :=
  a.signedCoefficient * 10 ^ b.scale == b.signedCoefficient * 10 ^ a.scale

/-- A decimal without a fractional part. -/
def isInteger (d : Decimal) : Bool := d.coefficient % 10 ^ d.scale == 0

def integralPart (d : Decimal) : Int :=
  let n : Int := (d.coefficient / 10 ^ d.scale : Nat)
  if d.negative then -n else n

/-- An integer of at most 96 bits as a decimal; larger ones do not arise and give zero. -/
def ofInt (n : Int) : Decimal :=
  (ofParts? (n < 0) n.natAbs 0).getD zero

/-- The text of a decimal: all its decimals, and a minus sign also for a negative zero. -/
def text (d : Decimal) : String :=
  let digits := Text.padded (d.scale + 1) d.coefficient
  let (whole, fraction) := digits.splitAt (digits.length - d.scale)
  let sign := if d.negative then ['-'] else []
  String.ofList (sign ++ whole ++ (if d.scale = 0 then [] else '.' :: fraction))

/-! ### Rounding -/

/-- A number without its last `count` digits, half rounded up by the first of them. -/
def dropDigits (coefficient count : Nat) : Nat :=
  match count with
  | 0 => coefficient
  | count + 1 =>
    let kept := coefficient / 10 ^ count
    kept / 10 + (if 5 ≤ kept % 10 then 1 else 0)

/-- The greatest number of further digits, at most `room`, that a coefficient can take. -/
def roomFor (coefficient : Nat) : Nat → Nat
  | 0 => 0
  | room + 1 =>
    if coefficient * 10 ^ (room + 1) < coefficientLimit then room + 1
    else roomFor coefficient room

/-- The decimal rounded to fewer decimals or padded with zeros as far as there is room. -/
def rescale (d : Decimal) (scale : Nat) : Decimal :=
  let scale := min scale maxScale
  if scale ≤ d.scale then
    (ofParts? d.negative (dropDigits d.coefficient (d.scale - scale)) scale).getD d
  else
    let room := roomFor d.coefficient (scale - d.scale)
    (ofParts? d.negative (d.coefficient * 10 ^ room) (d.scale + room)).getD d

/-- The number `coefficient / 10 ^ scale` with as many of its decimals as fit, at least `dropped`
of them left out and the rest rounded, a half to even. -/
def fitFrom (coefficient scale : Nat) (dropped : Nat) : Nat → Option Decimal
  | 0 => none
  | fuel + 1 =>
    match ofParts? false (roundHalfEven coefficient (10 ^ dropped)) (scale - dropped) with
    | some d => some d
    | none => fitFrom coefficient scale (dropped + 1) fuel

/-- The number `coefficient / 10 ^ scale` with as many of its decimals as fit, a half rounded to
even. A number whose integral part does not fit has none. -/
def fit (coefficient scale : Nat) : Option Decimal := fitFrom coefficient scale 0 (scale + 1)

/-! ### Reading -/

/-- Why a text is no decimal. -/
inductive ReadError
  | empty
  | noDigits
  | unknownCharacter
  | secondPoint
  | leadingUnderscore
  | tooManyDigits
  | roundingOverflow
  deriving DecidableEq, Repr

def ReadError.message : ReadError → String
  | .empty => "Invalid decimal: empty"
  | .noDigits => "Invalid decimal: no digits found"
  | .unknownCharacter => "Invalid decimal: unknown character"
  | .secondPoint => "Invalid decimal: two decimal points"
  | .leadingUnderscore => "Invalid decimal: must start lead with a number"
  | .tooManyDigits => "Invalid decimal: overflow from too many digits"
  | .roundingOverflow => "Invalid decimal: overflow from mantissa after rounding"

/-- What has been read of a numeral: whether the point and a digit have come, and the number. -/
structure Progress where
  point : Bool
  digits : Bool
  coefficient : Nat
  scale : Nat

def Progress.finish (negative : Bool) (p : Progress) : Except ReadError Decimal :=
  if p.digits then
    match ofParts? (negative && p.coefficient != 0) p.coefficient p.scale with
    | some d => .ok d
    | none => .error .tooManyDigits
  else .error .noDigits

/-- The numeral ends where no further digit fits, rounded by that digit. -/
def Progress.round (negative : Bool) (p : Progress) (d : Nat) : Except ReadError Decimal :=
  if d < 5 then p.finish negative
  else if p.coefficient + 1 < coefficientLimit then
    { p with coefficient := p.coefficient + 1 }.finish negative
  else if p.scale = 0 then .error .roundingOverflow
  else { p with coefficient := (p.coefficient + 5) / 10, scale := p.scale - 1 }.finish negative

/-- The numeral is multiplied by the power of ten that its exponent gives. -/
def Progress.shift (negative : Bool) (p : Progress) (exponent : List Char) :
    Except ReadError Decimal :=
  match (IntegerRange.signed 32).read exponent with
  | .error _ => .error .unknownCharacter
  | .ok e =>
    if e ≤ p.scale then
      let scale := ((p.scale : Int) - e).toNat
      if scale ≤ maxScale then { p with scale := scale }.finish negative
      else
        { p with
          coefficient := dropDigits p.coefficient (min (scale - maxScale) 40)
          scale := maxScale }.finish negative
    else if p.coefficient = 0 then { p with scale := 0 }.finish negative
    else
      let more := (e - p.scale).toNat
      if more ≤ maxScale then
        { p with coefficient := p.coefficient * 10 ^ more, scale := 0 }.finish negative
      else .error .tooManyDigits

def strayCharacter : Char → ReadError
  | '.' => .secondPoint
  | '_' => .leadingUnderscore
  | _ => .unknownCharacter

/-- A numeral from the characters that follow what has been read. -/
def readFrom (negative : Bool) (p : Progress) : List Char → Except ReadError Decimal
  | [] => p.finish negative
  | c :: cs =>
    if (c = 'e' ∨ c = 'E') ∧ p.digits then p.shift negative cs
    else if p.point ∧ maxScale ≤ p.scale then
      if Text.isDigit c then p.round negative (Text.digitValue c)
      else if c = '_' then p.finish negative
      else .error (strayCharacter c)
    else if Text.isDigit c then
      let next := 10 * p.coefficient + Text.digitValue c
      if next < coefficientLimit then
        readFrom negative
          { p with digits := true, coefficient := next, scale := p.scale + p.point.toNat } cs
      else if p.point then p.round negative (Text.digitValue c)
      else .error .tooManyDigits
    else if c = '.' ∧ ¬ p.point then readFrom negative { p with point := true } cs
    else if c = '_' ∧ p.digits then readFrom negative p cs
    else .error (strayCharacter c)

/-- A decimal from text: a sign, digits with underscores between them, a point, an exponent. -/
def read : List Char → Except ReadError Decimal
  | [] => .error .empty
  | '-' :: cs => readFrom true ⟨false, false, 0, 0⟩ cs
  | '+' :: cs => readFrom false ⟨false, false, 0, 0⟩ cs
  | cs => readFrom false ⟨false, false, 0, 0⟩ cs

end Decimal

end TableAccess
