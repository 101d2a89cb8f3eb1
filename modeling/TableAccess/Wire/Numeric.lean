import TableAccess.Number.Decimal
import TableAccess.Wire.Bytes

/-!
Decimals as groups of four decimal digits: the weight is the power of ten thousand of the first
group, and the display scale is the number of decimals to show.
-/

set_option autoImplicit false
set_option relaxedAutoImplicit false

namespace TableAccess.Wire

/-- A decimal in groups. -/
structure Groups where
  negative : Bool
  weight : Int
  displayScale : Nat
  digits : List Nat
  deriving DecidableEq, Repr

namespace Groups

def base : Nat := 10000

/-- The integer that leading groups stand for, with `missing` groups of zeros after them. -/
def integralPart (groups : List Nat) (missing : Nat) : Nat :=
  groups.foldl (fun n g => base * n + g) 0 * base ^ missing

/-- The sum of a decimal and of `n / 10 ^ scale`, rounded to even where it has too many digits. -/
def addFraction (d : Decimal) (n scale : Nat) : Option Decimal :=
  let top := max d.scale scale
  Decimal.fit (d.coefficient * 10 ^ (top - d.scale) + n * 10 ^ (top - scale)) top

/-- A decimal with the groups after the point added one by one, the first of them at the given
number of decimals. The group after the last decimals that there are rounds these. -/
def addGroups (d : Decimal) (decimals : Nat) : List Nat → Option Decimal
  | [] => some d
  | g :: groups =>
    let next :=
      if decimals ≤ Decimal.maxScale then addFraction d g decimals
      else if decimals = Decimal.maxScale + 4 ∧ 5000 ≤ g then
        addFraction d 1 Decimal.maxScale
      else some d
    next.bind fun d => addGroups d (decimals + 4) groups

/-- The number that groups stand for, without its sign. -/
def magnitude? (g : Groups) : Option Decimal := do
  let whole := (g.weight + 1).toNat
  let integers := g.digits.take whole
  let d ← Decimal.ofParts? false (integralPart integers (whole - integers.length)) 0
  addGroups d (4 * ((-g.weight - 1).toNat + 1)) (g.digits.drop whole)

/-- The decimal that groups stand for, rounded or padded to the display scale. -/
def toDecimal? (g : Groups) : Option Decimal :=
  g.magnitude?.map fun d => { d with negative := g.negative }.rescale g.displayScale

/-- The groups of a number, the last one first. -/
def split (n : Nat) : List Nat :=
  if n = 0 then [] else n % base :: split (n / base)
termination_by n
decreasing_by exact Nat.div_lt_self (Nat.pos_of_ne_zero ‹_›) (by decide)

/-- The groups of a decimal. Groups of zeros at its end are left out after the point, unless the
number is less than one; zero has no groups. -/
def ofDecimal (d : Decimal) : Groups :=
  if d.coefficient = 0 then ⟨false, 0, 0, []⟩
  else
    let decimals := (d.scale + 3) / 4
    let groups := split (d.coefficient * 10 ^ (4 * decimals - d.scale))
    let weight := (groups.length : Int) - decimals - 1
    let kept :=
      if 0 ≤ weight then
        let fraction := (groups.take decimals).dropWhile (· == 0)
        fraction ++ groups.drop decimals
      else groups
    ⟨d.negative, weight, d.scale, kept.reverse⟩

def negativeMark : Nat := 0x4000

/-- Groups as bytes: their number, the weight, the sign, the display scale and the groups. -/
def bytes (g : Groups) : List UInt8 :=
  bytesOfNat 2 g.digits.length ++ bytesOfInt 2 g.weight ++
    bytesOfNat 2 (if g.negative then negativeMark else 0) ++ bytesOfNat 2 g.displayScale ++
    g.digits.flatMap (bytesOfNat 2)

/-- A number of words of two bytes from the front of bytes. -/
def readWords : Nat → List UInt8 → Option (List Nat)
  | 0, _ => some []
  | n + 1, bytes => do
    let (word, bytes) ← take? 2 bytes
    let words ← readWords n bytes
    return natOfBytes word :: words

/-- Groups from the front of bytes, if these are long enough. -/
def read? (bytes : List UInt8) : Option Groups := do
  let (count, bytes) ← take? 2 bytes
  let (weight, bytes) ← take? 2 bytes
  let (sign, bytes) ← take? 2 bytes
  let (scale, bytes) ← take? 2 bytes
  let digits ← readWords (natOfBytes count) bytes
  return ⟨natOfBytes sign == negativeMark, intOfBytes weight, natOfBytes scale, digits⟩

end Groups

end TableAccess.Wire
