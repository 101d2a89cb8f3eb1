/-!
Quotients of natural numbers rounded to the nearest integer, with two rules for a half.
-/

set_option autoImplicit false
set_option relaxedAutoImplicit false

namespace TableAccess

/-- `num / den` rounded to the nearest integer, a half to the even neighbour. -/
def roundHalfEven (num den : Nat) : Nat :=
  let q := num / den
  let r := num % den
  if 2 * r < den then q
  else if den < 2 * r then q + 1
  else if q % 2 = 0 then q else q + 1

/-- `num / den` rounded to the nearest integer, a half away from zero. -/
def roundHalfUp (num den : Nat) : Nat := (2 * num + den) / (2 * den)

end TableAccess
