import TableAccess.Number.Shortest

/-!
The layouts of floating-point numbers: which powers of ten are written in positional form and
which with an exponent. The digits are the shortest that read back.
-/

set_option autoImplicit false
set_option relaxedAutoImplicit false

namespace TableAccess.Binary

/-- The powers of ten of the first digit for which a number is written in positional form. -/
structure Layout where
  least : Int
  greatest : Int
  deriving DecidableEq, Repr

/-- Messages write numbers from `0.0001` to below `1e16` in positional form. -/
def Layout.message : Layout := ⟨-4, 15⟩

/-- Statements write numbers of double width in positional form from `0.00001`. -/
def Layout.statement : Precision → Layout
  | .double => ⟨-5, 15⟩
  | .single => ⟨-6, 12⟩

/-- Digits in positional form, with at least one digit on each side of the point. -/
def positional (d : Digits) : List Char :=
  if d.exponent < 0 then
    "0.".toList ++ List.replicate ((-d.exponent).toNat - 1) '0' ++ d.digits
  else
    let whole := d.exponent.toNat + 1
    let padded := d.digits ++ List.replicate (whole - d.digits.length) '0'
    let fraction := padded.drop whole
    padded.take whole ++ '.' :: (if fraction.isEmpty then ['0'] else fraction)

/-- Digits with an exponent, the point after the first of them when there are more. -/
def scientific (d : Digits) : List Char :=
  let mantissa := match d.digits with
    | c :: rest => if rest.isEmpty then [c] else c :: '.' :: rest
    | [] => []
  mantissa ++ 'e' :: Text.signedNumeral d.exponent

def Layout.write (l : Layout) (d : Digits) : List Char :=
  if l.least ≤ d.exponent ∧ d.exponent ≤ l.greatest then positional d else scientific d

def Layout.finite (l : Layout) (p : Precision) (negative : Bool) (mantissa : Nat)
    (exponent : Int) : String :=
  let sign := if negative then ['-'] else []
  let body := if mantissa = 0 then "0.0".toList else l.write (shortestOf p mantissa exponent)
  String.ofList (sign ++ body)

def messageText {p : Precision} (x : Binary p) : String :=
  match x.meaning with
  | .finite negative m e => Layout.message.finite p negative m e
  | .infinite negative => if negative then "-inf" else "inf"
  | .notNumber => "NaN"

end TableAccess.Binary
