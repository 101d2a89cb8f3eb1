import TableAccess.Number.Binary
import TableAccess.Text.Digits

/-!
The shortest decimal that reads back as a given floating-point number: the coarsest decimal
grid with a point in the interval of reals that round to the number, and on it the point
nearest to the number.
-/

set_option autoImplicit false
set_option relaxedAutoImplicit false

namespace TableAccess.Binary

/-- A positive decimal: a row of digits, and the power of ten of the first one. -/
structure Digits where
  digits : List Char
  exponent : Int
  deriving DecidableEq, Repr

/-- The power of ten of the first digit of the positive quotient `num / den`. -/
def leadingPower (num den : Nat) : Int :=
  if den ≤ num then ((Text.numeral (num / den)).length : Int) - 1
  else -((Text.numeral ((den + num - 1) / num - 1)).length : Int)

/-- The point of the grid of multiples of `10 ^ grid` in the interval around `value` that is
nearest to it. All three quotients have the denominator `den`. -/
def nearestOnGrid (low value high den : Nat) (closed : Bool) (grid : Int) : Option Nat :=
  let up := 10 ^ (-grid).toNat
  let unit := den * 10 ^ grid.toNat
  let inside (n : Nat) : Bool :=
    let m := n * unit
    if closed then low * up ≤ m && m ≤ high * up else low * up < m && m < high * up
  let below := value * up / unit
  let above := below + 1
  match inside below, inside above with
  | true, true =>
    if value * up - below * unit ≤ above * unit - value * up then some below else some above
  | true, false => some below
  | false, true => some above
  | false, false => none

/-- The first grid with a point, from `digits` digits on, for at most `fuel` grids. -/
def searchGrids (low value high den : Nat) (closed : Bool) (first : Int) :
    Nat → Nat → Nat × Int
  | 0, digits => (value * 10 ^ (digits - 1 - first).toNat / den, first - digits + 1)
  | fuel + 1, digits =>
    let grid := first - digits + 1
    match nearestOnGrid low value high den closed grid with
    | some n => (n, grid)
    | none => searchGrids low value high den closed first fuel (digits + 1)

/-- The shortest decimal of the positive number `mantissa * 2 ^ exponent`. -/
def shortestOf (p : Precision) (mantissa : Nat) (exponent : Int) : Digits :=
  let (scale, den) := ratio 1 (exponent - 2)
  let lowest := mantissa = 2 ^ p.fractionBits ∧ p.leastExponent < exponent
  let low := (4 * mantissa - if lowest then 1 else 2) * scale
  let value := 4 * mantissa * scale
  let high := (4 * mantissa + 2) * scale
  let first := leadingPower value den
  let (n, grid) := searchGrids low value high den (mantissa % 2 == 0) first 17 1
  let ds := Text.numeral n
  let kept := (ds.reverse.dropWhile (· == '0')).reverse
  ⟨kept, grid + (ds.length - 1 : Nat)⟩

end TableAccess.Binary
