import TableAccess.Number.Binary
import TableAccess.Number.Decimal

/-!
The floating-point number that stands for a decimal. Its whole and fractional parts are taken
apart and added, and the sum is rounded at the decimals that the number has.
-/

set_option autoImplicit false
set_option relaxedAutoImplicit false

namespace TableAccess.Binary

/-- The exact quotient of a finite number that is not negative. -/
def quotient (x : Binary .double) : Nat × Nat :=
  match x.meaning with
  | .finite _ m e => ratio m e
  | _ => (0, 1)

/-- The sum of two numbers that are not negative, rounded. -/
def plus (x y : Binary .double) : Binary .double :=
  let (a, b) := x.quotient
  let (c, d) := y.quotient
  ofRatio .double false (a * d + c * b) (b * d)

/-- The product of two numbers that are not negative, rounded. -/
def times (x y : Binary .double) : Binary .double :=
  let (a, b) := x.quotient
  let (c, d) := y.quotient
  ofRatio .double false (a * c) (b * d)

/-- The quotient of two numbers that are not negative, rounded. -/
def dividedBy (x y : Binary .double) : Binary .double :=
  let (a, b) := x.quotient
  let (c, d) := y.quotient
  ofRatio .double false (a * d) (b * c)

/-- The nearest integer to a number that is not negative, a half away from zero. -/
def wholeNearest (x : Binary .double) : Binary .double :=
  let (a, b) := x.quotient
  ofRatio .double false (roundHalfUp a b) 1

/-- Ten to a power by repeated squaring, every product rounded. -/
def tenTo (n : Nat) : Binary .double :=
  go n 5 (ofInt .double 1) (ofInt .double 10)
where
  /-- The powers of two of the exponent that are left, with the product so far. -/
  go : Nat → Nat → Binary .double → Binary .double → Binary .double
    | _, 0, r, _ => r
    | n, fuel + 1, r, a =>
      let r := if n % 2 = 1 then times r a else r
      if n / 2 = 0 then r else go (n / 2) fuel r (times a a)

end TableAccess.Binary

namespace TableAccess.Decimal

open Binary (ofRatio plus times dividedBy wholeNearest tenTo)

/-- The number of double width that stands for a decimal. -/
def toDouble (d : Decimal) : Binary .double :=
  if d.scale = 0 then ofRatio .double (d.negative && d.coefficient != 0) d.coefficient 1
  else
    let unit := 10 ^ d.scale
    let fraction := dividedBy (ofRatio .double false (d.coefficient % unit) 1)
      (ofRatio .double false unit 1)
    let whole := ofRatio .double false (d.coefficient / unit) 1
    let result :=
      if fraction.magnitude = 0 then whole
      else
        let roundTo := tenTo d.scale
        dividedBy (wholeNearest (times (plus whole fraction) roundTo)) roundTo
    Binary.ofMagnitude .double d.negative result.magnitude

/-- The number of single width that stands for a decimal, by way of double width. -/
def toSingle (d : Decimal) : Binary .single := d.toDouble.convert .single

end TableAccess.Decimal
