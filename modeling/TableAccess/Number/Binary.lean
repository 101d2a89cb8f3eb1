import TableAccess.Number.Power
import TableAccess.Number.Rounding

/-!
Binary floating-point numbers of two widths, held by their bits and read as exact rationals.

Every arithmetic step rounds the exact result to the nearest number of the width, a tie to the
one with an even last bit.
-/

set_option autoImplicit false
set_option relaxedAutoImplicit false

namespace TableAccess

/-- The two widths of floating-point numbers. -/
inductive Precision
  | single
  | double
  deriving DecidableEq, Repr

namespace Precision

def fractionBits : Precision → Nat
  | .single => 23
  | .double => 52

def exponentBits : Precision → Nat
  | .single => 8
  | .double => 11

def width (p : Precision) : Nat := p.fractionBits + p.exponentBits + 1

/-- What is added to the exponent of a number when it is stored. -/
def bias (p : Precision) : Nat := 2 ^ (p.exponentBits - 1) - 1

/-- The exponent of the least positive number. -/
def leastExponent (p : Precision) : Int := 1 - (p.bias : Int) - p.fractionBits

end Precision

/-- A floating-point number by its bits. -/
structure Binary (p : Precision) where
  bits : Nat
  bits_lt : bits < 2 ^ p.width
  deriving DecidableEq

namespace Binary

/-- What the bits of a number stand for. -/
inductive Meaning
  | finite (negative : Bool) (mantissa : Nat) (exponent : Int)
  | infinite (negative : Bool)
  | notNumber

variable {p : Precision}

/-- The number with the given bits; bits beyond its width are dropped. -/
def ofBits (p : Precision) (n : Nat) : Binary p :=
  ⟨n % 2 ^ p.width, Nat.mod_lt _ (Nat.two_pow_pos _)⟩

instance : Inhabited (Binary p) := ⟨ofBits p 0⟩

/-- The bits below the sign. -/
def magnitude (x : Binary p) : Nat := x.bits % 2 ^ (p.width - 1)

def negative (x : Binary p) : Bool := 2 ^ (p.width - 1) ≤ x.bits

def exponentField (x : Binary p) : Nat := x.magnitude / 2 ^ p.fractionBits

def fraction (x : Binary p) : Nat := x.magnitude % 2 ^ p.fractionBits

def infinityMagnitude (p : Precision) : Nat := (2 ^ p.exponentBits - 1) * 2 ^ p.fractionBits

def ofMagnitude (p : Precision) (negative : Bool) (magnitude : Nat) : Binary p :=
  ofBits p (magnitude + if negative then 2 ^ (p.width - 1) else 0)

/-- The number that the bits stand for, as a mantissa and a power of two. -/
def meaning (x : Binary p) : Meaning :=
  if x.exponentField = 2 ^ p.exponentBits - 1 then
    if x.fraction = 0 then .infinite x.negative else .notNumber
  else if x.exponentField = 0 then .finite x.negative x.fraction p.leastExponent
  else
    .finite x.negative (2 ^ p.fractionBits + x.fraction)
      (p.leastExponent + (x.exponentField - 1 : Nat))

/-- A number that is none. -/
def isNotNumber (x : Binary p) : Bool :=
  x.exponentField == 2 ^ p.exponentBits - 1 && x.fraction != 0

def isInfinite (x : Binary p) : Bool :=
  x.exponentField == 2 ^ p.exponentBits - 1 && x.fraction == 0

/-- Equality of numbers: zeros of both signs are equal, and what is no number equals nothing. -/
def sameValue (x y : Binary p) : Bool :=
  !x.isNotNumber && !y.isNotNumber &&
    (x.bits == y.bits || (x.magnitude == 0 && y.magnitude == 0))

def infinity (p : Precision) (negative : Bool) : Binary p :=
  ofMagnitude p negative (infinityMagnitude p)

/-- The usual bits of what is no number. -/
def notNumber (p : Precision) : Binary p :=
  ofMagnitude p false (infinityMagnitude p + 2 ^ (p.fractionBits - 1))

/-! ### Rounding -/

/-- The pair that stands for `num / den * 2 ^ e`. -/
def scaledByTwo (num den : Nat) (e : Int) : Nat × Nat :=
  if 0 ≤ e then (num * 2 ^ e.toNat, den) else (num, den * 2 ^ (-e).toNat)

/-- The number nearest to `num / den`, with the given sign. -/
def ofRatio (p : Precision) (negative : Bool) (num den : Nat) : Binary p :=
  if num = 0 then ofMagnitude p negative 0
  else
    let guess : Int := (num.log2 : Int) - den.log2
    let (a, b) := scaledByTwo num den (-guess)
    let top := if a < b then guess - 1 else guess
    let e := max (top - p.fractionBits) p.leastExponent
    let (a, b) := scaledByTwo num den (-e)
    let magnitude := (e - p.leastExponent).toNat * 2 ^ p.fractionBits + roundHalfEven a b
    ofMagnitude p negative (min magnitude (infinityMagnitude p))

/-- The number nearest to an integer. -/
def ofInt (p : Precision) (n : Int) : Binary p := ofRatio p (n < 0) n.natAbs 1

/-- The exact value of a finite number without its sign, as a quotient. -/
def ratio (mantissa : Nat) (exponent : Int) : Nat × Nat := scaledByTwo mantissa 1 exponent

/-- The number of another width nearest to a number. What is no number keeps its sign and the
leading bits of its fraction. -/
def convert (q : Precision) (x : Binary p) : Binary q :=
  match x.meaning with
  | .finite negative m e =>
    let (num, den) := ratio m e
    ofRatio q negative num den
  | .infinite negative => infinity q negative
  | .notNumber =>
    let quiet := 2 ^ (q.fractionBits - 1)
    let fraction := x.fraction * 2 ^ q.fractionBits / 2 ^ p.fractionBits % quiet
    ofMagnitude q x.negative (infinityMagnitude q + quiet + fraction)

end Binary

end TableAccess
