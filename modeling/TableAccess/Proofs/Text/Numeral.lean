import TableAccess.Text.Digits

/-!
Numerals read back: the numeral of a number consists of digits and stands for that number, so
no two numbers share a numeral. Zeros in front of it do not change what it stands for, and a fixed
number of digits stands for what the number is within them.
-/

set_option autoImplicit false
set_option relaxedAutoImplicit false

namespace TableAccess.Text

/-- What holds at all code points below some number holds of the characters there. -/
theorem forall_char_lt {n : Nat} {P : Char → Prop} (table : ∀ m < n, P (Char.ofNat m)) {c : Char}
    (small : c.toNat < n) : P c := by
  have point := table c.toNat small
  rwa [Char.ofNat_toNat] at point

private theorem toNat_digit (n : Nat) : (digit n).toNat = 48 + n % 10 := by
  have hn : n % 10 < 10 := Nat.mod_lt n (by omega)
  have table : ∀ m < 10, (Char.ofNat (48 + m)).toNat = 48 + m := by decide
  exact table (n % 10) hn

@[simp] theorem digitValue_digit (n : Nat) : digitValue (digit n) = n % 10 := by
  simp only [digitValue, toNat_digit]
  omega

@[simp] theorem isDigit_digit (n : Nat) : isDigit (digit n) = true := by
  simp only [isDigit, toNat_digit, Bool.and_eq_true, decide_eq_true_eq]
  omega

/-- A further digit shifts what the digits before it stand for. -/
theorem valueOf_append_singleton (ds : List Char) (c : Char) :
    valueOf (ds ++ [c]) = 10 * valueOf ds + digitValue c := by
  simp only [valueOf, List.foldl_append, List.foldl_cons, List.foldl_nil]

@[simp] theorem valueOf_numeral (n : Nat) : valueOf (numeral n) = n := by
  induction n using Nat.strongRecOn with
  | ind n ih =>
    rw [numeral]
    split
    · next small =>
      have single : valueOf [digit n] = 10 * valueOf [] + digitValue (digit n) :=
        valueOf_append_singleton [] (digit n)
      rw [single, digitValue_digit]
      simp only [valueOf, List.foldl_nil]
      omega
    · next large =>
      rw [valueOf_append_singleton, ih (n / 10) (by omega), digitValue_digit]
      omega

theorem isDigit_of_mem_numeral {n : Nat} {c : Char} (h : c ∈ numeral n) : isDigit c = true := by
  induction n using Nat.strongRecOn with
  | ind n ih =>
    rw [numeral] at h
    split at h
    · next small =>
      obtain rfl := List.mem_singleton.mp h
      exact isDigit_digit n
    · next large =>
      rcases List.mem_append.mp h with front | last
      · exact ih (n / 10) (by omega) front
      · obtain rfl := List.mem_singleton.mp last
        exact isDigit_digit n

theorem numeral_ne_nil (n : Nat) : numeral n ≠ [] := by
  rw [numeral]
  split <;> simp

theorem numeral_injective {m n : Nat} (h : numeral m = numeral n) : m = n := by
  have values := congrArg valueOf h
  rwa [valueOf_numeral, valueOf_numeral] at values

theorem natText_injective {m n : Nat} (h : natText m = natText n) : m = n :=
  numeral_injective (String.ofList_injective h)

/-! ### Fixed widths -/

theorem valueOf_padded (width n : Nat) : valueOf (padded width n) = n := by
  have zeros (k : Nat) (ds : List Char) : valueOf (List.replicate k '0' ++ ds) = valueOf ds := by
    induction k with
    | zero => rfl
    | succ k ih => exact ih
  rw [padded, zeros, valueOf_numeral]

theorem isDigit_of_mem_padded {width n : Nat} {c : Char} (h : c ∈ padded width n) :
    isDigit c = true := by
  rcases List.mem_append.mp h with zero | digit
  · rw [List.eq_of_mem_replicate zero]
    rfl
  · exact isDigit_of_mem_numeral digit

theorem padded_ne_nil (width n : Nat) : padded width n ≠ [] :=
  List.append_ne_nil_of_right_ne_nil _ (numeral_ne_nil n)

/-- A number has no more digits than a power of ten above it has zeros. -/
theorem length_numeral_le {width n : Nat} (some_width : 0 < width) (below : n < 10 ^ width) :
    (numeral n).length ≤ width := by
  induction width generalizing n with
  | zero => cases some_width
  | succ width ih =>
    rw [numeral]
    split
    · exact Nat.succ_le_succ (Nat.zero_le width)
    · next large =>
      have some_width : 0 < width := by
        rcases Nat.eq_zero_or_pos width with rfl | positive
        · exact absurd below large
        · exact positive
      have front := ih some_width (Nat.div_lt_of_lt_mul (by rwa [← Nat.pow_succ']))
      rw [List.length_append, List.length_singleton]
      exact Nat.succ_le_succ front

theorem length_padded {width n : Nat} (some_width : 0 < width) (below : n < 10 ^ width) :
    (padded width n).length = width := by
  have short := length_numeral_le some_width below
  rw [padded, List.length_append, List.length_replicate, Nat.sub_add_cancel short]

@[simp] theorem length_fixedDigits (width n : Nat) : (fixedDigits width n).length = width := by
  induction width generalizing n with
  | zero => rfl
  | succ width ih => rw [fixedDigits, List.length_append, ih]; rfl

theorem isDigit_of_mem_fixedDigits {width n : Nat} {c : Char} (h : c ∈ fixedDigits width n) :
    isDigit c = true := by
  induction width generalizing n with
  | zero => cases h
  | succ width ih =>
    rcases List.mem_append.mp h with front | last
    · exact ih front
    · obtain rfl := List.mem_singleton.mp last
      exact isDigit_digit n

theorem valueOf_fixedDigits (width n : Nat) : valueOf (fixedDigits width n) = n % 10 ^ width := by
  induction width generalizing n with
  | zero => simp [fixedDigits, valueOf, Nat.mod_one]
  | succ width ih =>
    rw [fixedDigits, valueOf_append_singleton, ih, digitValue_digit, Nat.pow_succ,
      Nat.mul_comm (10 ^ width) 10, Nat.mod_mul]
    omega

end TableAccess.Text
