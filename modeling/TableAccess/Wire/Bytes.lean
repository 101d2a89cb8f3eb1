import TableAccess.Number.Power

/-!
Numbers as bytes, the most significant one first, and the taking of a number of bytes from the
front of others.
-/

set_option autoImplicit false
set_option relaxedAutoImplicit false

namespace TableAccess.Wire

/-- The low `width` bytes of a number. -/
def bytesOfNat : Nat → Nat → List UInt8
  | 0, _ => []
  | width + 1, n => bytesOfNat width (n / 256) ++ [UInt8.ofNat n]

def natOfBytes (bytes : List UInt8) : Nat := bytes.foldl (fun n b => 256 * n + b.toNat) 0

/-- An integer as a two's complement word of `width` bytes. -/
def bytesOfInt (width : Nat) (n : Int) : List UInt8 :=
  bytesOfNat width (n % (256 ^ width : Nat)).toNat

/-- The integer that bytes stand for as a two's complement word. -/
def intOfBytes (bytes : List UInt8) : Int := Int.bmod (natOfBytes bytes) (256 ^ bytes.length)

/-- The first `n` bytes, if there are as many, and the others. -/
def take? (n : Nat) (bytes : List UInt8) : Option (List UInt8 × List UInt8) :=
  if n ≤ bytes.length then some (bytes.take n, bytes.drop n) else none

/-- A number takes up its width. -/
@[simp] theorem length_bytesOfNat (width n : Nat) : (bytesOfNat width n).length = width := by
  induction width generalizing n with
  | zero => rfl
  | succ width ih => simp [bytesOfNat, ih]

@[simp] theorem length_bytesOfInt (width : Nat) (n : Int) :
    (bytesOfInt width n).length = width := length_bytesOfNat ..

/-- A further byte is the lowest digit of the number. -/
theorem natOfBytes_append_singleton (bytes : List UInt8) (b : UInt8) :
    natOfBytes (bytes ++ [b]) = 256 * natOfBytes bytes + b.toNat := by
  simp [natOfBytes, List.foldl_append]

/-- The bytes of a number stand for what the number is within their width. -/
theorem natOfBytes_bytesOfNat (width n : Nat) :
    natOfBytes (bytesOfNat width n) = n % 256 ^ width := by
  induction width generalizing n with
  | zero => simp [bytesOfNat, natOfBytes, Nat.mod_one]
  | succ width ih =>
    rw [bytesOfNat, natOfBytes_append_singleton, ih, Nat.pow_succ, Nat.mul_comm (256 ^ width) 256,
      Nat.mod_mul]
    have h : (UInt8.ofNat n).toNat = n % 256 := by simp
    omega

end TableAccess.Wire
