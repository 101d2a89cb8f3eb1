import TableAccess.Wire.Instant

/-!
Words of bytes. A word stands for one integer of its width, and is the only one that does.
-/

set_option autoImplicit false
set_option relaxedAutoImplicit false

namespace TableAccess.Wire

/-! ### Numbers -/

variable {width : Nat} {bytes : List UInt8}

/-- Some bytes are others and a last one. -/
private theorem exists_last (length : bytes.length = width + 1) :
    ∃ front last, bytes = front ++ [last] ∧ front.length = width := by
  rcases List.eq_nil_or_concat bytes with rfl | ⟨front, last, rfl⟩
  · cases length
  · refine ⟨front, last, List.concat_eq_append, ?_⟩
    rw [List.length_concat] at length
    exact Nat.succ.inj length

theorem natOfBytes_lt (length : bytes.length = width) : natOfBytes bytes < 256 ^ width := by
  induction width generalizing bytes with
  | zero =>
    rw [List.length_eq_zero_iff.mp length]
    decide
  | succ width ih =>
    obtain ⟨front, last, rfl, shorter⟩ := exists_last length
    have number := ih shorter
    have byte : last.toNat < 256 := last.toNat_lt
    rw [natOfBytes_append_singleton, Nat.pow_succ]
    omega

theorem bytesOfNat_natOfBytes (length : bytes.length = width) :
    bytesOfNat width (natOfBytes bytes) = bytes := by
  induction width generalizing bytes with
  | zero =>
    rw [List.length_eq_zero_iff.mp length]
    rfl
  | succ width ih =>
    obtain ⟨front, last, rfl, shorter⟩ := exists_last length
    have byte : last.toNat < 256 := last.toNat_lt
    have others : (256 * natOfBytes front + last.toNat) / 256 = natOfBytes front := by omega
    have lowest : UInt8.ofNat (256 * natOfBytes front + last.toNat) = last := by
      rw [← UInt8.toNat_inj, UInt8.toNat_ofNat']
      omega
    rw [natOfBytes_append_singleton, bytesOfNat, others, lowest, ih shorter]

/-! ### Integers -/

/-- The integer has a two's complement word of some bits. -/
def Fits (bits : Nat) (n : Int) : Prop := -(2 ^ (bits - 1)) ≤ n ∧ n < 2 ^ (bits - 1)

theorem clamp_of_fits {bits : Nat} {n : Int} (h : Fits bits n) : clamp bits n = n := by
  obtain ⟨low, high⟩ := h
  rw [clamp]
  omega

theorem fits_clamp (bits : Nat) (n : Int) : Fits bits (clamp bits n) := by
  have power : (0 : Int) < 2 ^ (bits - 1) := Int.pow_pos (by decide)
  rw [Fits, clamp]
  omega

theorem toInt_ofInt_of_fits {n : Int} (h : Fits 32 n) : (Int64.ofInt n).toInt = n := by
  obtain ⟨low, high⟩ := h
  exact Int64.toInt_ofInt_of_le (by omega) (by omega)

/-- A word of at least one byte has an even number of states. -/
private theorem states_eq (positive : 0 < width) :
    ((256 ^ width : Nat) : Int) = 2 * 2 ^ (8 * width - 1) := by
  have exponent : 8 * width = 8 * width - 1 + 1 := by omega
  have states : (256 ^ width : Nat) = 2 * 2 ^ (8 * width - 1) := by
    calc 256 ^ width = (2 ^ 8) ^ width := rfl
      _ = 2 ^ (8 * width) := (Nat.pow_mul 2 8 width).symm
      _ = 2 ^ (8 * width - 1 + 1) := congrArg _ exponent
      _ = 2 * 2 ^ (8 * width - 1) := by rw [Nat.pow_succ, Nat.mul_comm]
  rw [states, Int.natCast_mul, Int.natCast_pow]
  rfl

theorem fits_intOfBytes (positive : 0 < width) (length : bytes.length = width) :
    Fits (8 * width) (intOfBytes bytes) := by
  have states := states_eq positive
  have some_state : 0 < 256 ^ width := Nat.pow_pos (by decide)
  have low := Int.le_bmod (x := natOfBytes bytes) some_state
  have high := Int.bmod_lt (x := natOfBytes bytes) some_state
  rw [intOfBytes, length, Fits]
  omega

theorem intOfBytes_bytesOfInt {n : Int} (positive : 0 < width) (fits : Fits (8 * width) n) :
    intOfBytes (bytesOfInt width n) = n := by
  have states := states_eq positive
  have some_state : 0 < 256 ^ width := Nat.pow_pos (by decide)
  obtain ⟨low, high⟩ := fits
  have word : (((n % (256 ^ width : Nat)).toNat : Nat) : Int) = n % (256 ^ width : Nat) :=
    Int.toNat_of_nonneg (Int.emod_nonneg n (by omega))
  calc intOfBytes (bytesOfInt width n)
      = Int.bmod (((n % (256 ^ width : Nat)).toNat % 256 ^ width : Nat)) (256 ^ width) := by
        rw [intOfBytes, bytesOfInt, natOfBytes_bytesOfNat, length_bytesOfNat]
    _ = Int.bmod (n % (256 ^ width : Nat)) (256 ^ width) := by
        rw [Int.natCast_emod, word, Int.emod_emod]
    _ = Int.bmod n (256 ^ width) := Int.emod_bmod n (256 ^ width)
    _ = n := Int.bmod_eq_of_le (by omega) (by omega)

theorem bytesOfInt_intOfBytes (length : bytes.length = width) :
    bytesOfInt width (intOfBytes bytes) = bytes := by
  have number := natOfBytes_lt length
  have word : (intOfBytes bytes % (256 ^ width : Nat)).toNat = natOfBytes bytes := by
    rw [intOfBytes, length, Int.bmod_emod, ← Int.natCast_emod, Nat.mod_eq_of_lt number,
      Int.toNat_natCast]
  rw [bytesOfInt, word, bytesOfNat_natOfBytes length]

/-- A number below half the states of its word is the integer that the word stands for. -/
theorem intOfBytes_bytesOfNat {n : Nat} (half : 2 * n < 256 ^ width) :
    intOfBytes (bytesOfNat width n) = n := by
  rw [intOfBytes, natOfBytes_bytesOfNat, length_bytesOfNat, Nat.mod_eq_of_lt (by omega)]
  exact Int.bmod_eq_of_le (by omega) (by omega)

/-! ### Words in front of others -/

theorem take?_append (length : bytes.length = width) (rest : List UInt8) :
    take? width (bytes ++ rest) = some (bytes, rest) := by
  subst length
  simp [take?]

theorem takeInt_append (length : bytes.length = width) (rest : List UInt8) :
    takeInt width (bytes ++ rest) = .ok (intOfBytes bytes, rest) := by
  rw [takeInt, take?_append length]

/-- The integer of a word that nothing follows. -/
theorem takeInt_word (length : bytes.length = width) :
    takeInt width bytes = .ok (intOfBytes bytes, []) := by
  simpa only [List.append_nil] using takeInt_append length []

theorem exactly_word (length : bytes.length = width) (longer : DecodeError) :
    exactly width longer bytes = .ok bytes := by
  rw [exactly, if_neg (by omega), if_neg (by omega)]

theorem wholeInt_word (length : bytes.length = width) (longer : DecodeError) :
    wholeInt width longer bytes = .ok (intOfBytes bytes) := by
  rw [wholeInt, exactly_word length longer]
  rfl

/-- The bytes are those of an integer as a two's complement word, the most significant one first. -/
structure IsWord (width : Nat) (n : Int) (bytes : List UInt8) : Prop where
  length : bytes.length = width
  number : (natOfBytes bytes : Int) = n % (256 ^ width : Nat)

theorem isWord_bytesOfInt (width : Nat) (n : Int) : IsWord width n (bytesOfInt width n) where
  length := length_bytesOfInt width n
  number := by
    have some_state : 0 < 256 ^ width := Nat.pow_pos (by decide)
    have word : (((n % (256 ^ width : Nat)).toNat : Nat) : Int) = n % (256 ^ width : Nat) :=
      Int.toNat_of_nonneg (Int.emod_nonneg n (by omega))
    rw [bytesOfInt, natOfBytes_bytesOfNat, Int.natCast_emod, word, Int.emod_emod]

/-- Bytes are a word and others. -/
theorem exists_word (width rest : Nat) (length : bytes.length = width + rest) :
    ∃ word others, bytes = word ++ others ∧ word.length = width ∧ others.length = rest := by
  refine ⟨bytes.take width, bytes.drop width, (List.take_append_drop width bytes).symm, ?_, ?_⟩
  · rw [List.length_take, length]
    omega
  · rw [List.length_drop, length]
    omega

end TableAccess.Wire
