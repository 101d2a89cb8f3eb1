import TableAccess.Fault
import TableAccess.Proofs.Text.Numeral

/-!
Integers read from rows of digits, with a sign in front of them or without.

A digit only ever takes the number further away from zero, so the number of the whole row decides
whether every one before it lies within the range, and the first one outside fails as the whole
row would. Nothing but digits is read behind a sign.
-/

set_option autoImplicit false
set_option relaxedAutoImplicit false

namespace TableAccess

open Text (isDigit digitValue valueOf)

namespace Text

/-- What digits come to after a number. -/
def valueAfter (n : Nat) (ds : List Char) : Nat := ds.foldl (fun n c => 10 * n + digitValue c) n

theorem le_valueAfter (n : Nat) (ds : List Char) : n ≤ valueAfter n ds := by
  induction ds generalizing n with
  | nil => exact Nat.le_refl n
  | cons c ds ih =>
    have first : n ≤ 10 * n + digitValue c := by omega
    exact Nat.le_trans first (ih _)

theorem valueAfter_lt {ds : List Char} (digits : ∀ c ∈ ds, isDigit c = true) (n : Nat) :
    valueAfter n ds < (n + 1) * 10 ^ ds.length := by
  induction ds generalizing n with
  | nil => simp [valueAfter]
  | cons c ds ih =>
    obtain ⟨first, others⟩ := List.forall_mem_cons.mp digits
    have digit : digitValue c ≤ 9 := by
      simp only [isDigit, Bool.and_eq_true, decide_eq_true_eq] at first
      simp only [digitValue]
      omega
    calc valueAfter n (c :: ds)
        < (10 * n + digitValue c + 1) * 10 ^ ds.length := ih others _
      _ ≤ ((n + 1) * 10) * 10 ^ ds.length := Nat.mul_le_mul_right _ (by omega)
      _ = (n + 1) * 10 ^ (c :: ds).length := by
        rw [List.length_cons, Nat.pow_succ, Nat.mul_assoc, Nat.mul_comm 10]

/-- Digits stand for a number of as many digits. -/
theorem valueOf_lt {ds : List Char} (digits : ∀ c ∈ ds, isDigit c = true) :
    valueOf ds < 10 ^ ds.length := by
  have below := valueAfter_lt digits 0
  rwa [Nat.zero_add, Nat.one_mul] at below

end Text

namespace IntegerRange

variable {r : IntegerRange} {ds : List Char} {negative : Bool}

/-- The integer lies within the range. -/
def Contains (r : IntegerRange) (n : Int) : Prop := r.low ≤ n ∧ n ≤ r.high

instance (r : IntegerRange) (n : Int) : Decidable (r.Contains n) :=
  inferInstanceAs (Decidable (_ ∧ _))

theorem check_of_contains {n : Int} (h : r.Contains n) : r.check n = .ok n := by
  obtain ⟨low, high⟩ := h
  rw [check, if_neg (by omega), if_neg (by omega)]

theorem check_of_high_lt {n : Int} (above : r.high < n) : r.check n = .error .tooLarge :=
  if_pos above

theorem check_of_lt_low {n : Int} (below : n < r.low) (high : n ≤ r.high) :
    r.check n = .error .tooSmall := by
  rw [check, if_neg (Int.not_lt.mpr high), if_pos below]

theorem check_of_not_contains {n : Int} (h : ¬ r.Contains n) : ∃ e, r.check n = .error e := by
  unfold Contains at h
  rcases Int.lt_or_le r.high n with above | high
  · exact ⟨.tooLarge, check_of_high_lt above⟩
  · exact ⟨.tooSmall, check_of_lt_low (by omega) high⟩

/-! ### Rows of digits -/

/-- A number with the sign of a row of digits. -/
def withSign (negative : Bool) (n : Nat) : Int := if negative then -n else n

/-- A number outside of a range around zero fails as those do that lie further away from zero. -/
theorem check_withSign_mono {m n : Nat} (zero : r.Contains 0) (further : m ≤ n)
    (outside : ¬ r.Contains (withSign negative m)) :
    r.check (withSign negative n) = r.check (withSign negative m) := by
  obtain ⟨low, high⟩ := zero
  unfold Contains at outside
  cases negative with
  | false =>
    simp only [withSign, Bool.false_eq_true, if_false] at outside ⊢
    rw [check_of_high_lt (n := m) (by omega), check_of_high_lt (n := n) (by omega)]
  | true =>
    simp only [withSign, if_true] at outside ⊢
    rw [check_of_lt_low (n := -m) (by omega) (by omega),
      check_of_lt_low (n := -n) (by omega) (by omega)]

/-- Digits after a number within the range are read as what they come to, if that lies within it
as well. -/
theorem readDigits_digits (zero : r.Contains 0) (digits : ∀ c ∈ ds, isDigit c = true) {n : Nat}
    (within : r.Contains (withSign negative n)) :
    r.readDigits negative (withSign negative n) ds =
      r.check (withSign negative (Text.valueAfter n ds)) := by
  induction ds generalizing n with
  | nil => exact (check_of_contains within).symm
  | cons c ds ih =>
    obtain ⟨first, others⟩ := List.forall_mem_cons.mp digits
    let next := 10 * n + digitValue c
    have number : (if negative then 10 * withSign negative n - (digitValue c : Int)
        else 10 * withSign negative n + digitValue c) = withSign negative next := by
      cases negative <;> simp only [withSign, next, if_true, Bool.false_eq_true, if_false] <;> omega
    rw [readDigits, if_pos first]
    simp only [number]
    by_cases inside : r.Contains (withSign negative next)
    · rw [check_of_contains inside]
      exact ih others inside
    · -- The first number outside decides the error.
      have whole := check_withSign_mono zero (Text.le_valueAfter next ds) inside
      obtain ⟨e, refused⟩ := check_of_not_contains inside
      rw [refused]
      exact (whole.trans refused).symm

theorem digits_of_readDigits {n m : Int} (read : r.readDigits negative n ds = .ok m) :
    ∀ c ∈ ds, isDigit c = true := by
  induction ds generalizing n with
  | nil => exact List.forall_mem_nil _
  | cons c ds ih =>
    rw [readDigits] at read
    split at read
    · next digit =>
      dsimp only at read
      split at read
      · cases read
      · exact List.forall_mem_cons.mpr ⟨digit, ih read⟩
    · cases read

/-! ### Texts -/

/-- A row without a sign is read digit by digit. -/
theorem read_unsigned (some_digit : ds ≠ []) (unsigned : ∀ c ∈ ds, c ≠ '+' ∧ c ≠ '-') :
    r.read ds = r.readDigits false 0 ds := by
  cases ds with
  | nil => exact absurd rfl some_digit
  | cons c ds =>
    obtain ⟨plus, minus⟩ := unsigned c List.mem_cons_self
    unfold IntegerRange.read
    split <;> simp_all

theorem unsigned_of_isDigit {c : Char} (digit : isDigit c = true) : c ≠ '+' ∧ c ≠ '-' := by
  constructor <;> rintro rfl <;> cases digit

/-- A row of digits is read as its number, if that lies within the range. -/
theorem read_digits (some_digit : ds ≠ []) (digits : ∀ c ∈ ds, isDigit c = true)
    (zero : r.Contains 0) : r.read ds = r.check (valueOf ds : Nat) := by
  rw [read_unsigned some_digit fun c mem => unsigned_of_isDigit (digits c mem)]
  exact readDigits_digits zero digits zero

/-- A row without a sign is read exactly if it consists of digits whose number lies within the
range. -/
theorem read_eq_ok_iff {n : Int} (zero : r.Contains 0) (unsigned : ∀ c ∈ ds, c ≠ '+' ∧ c ≠ '-') :
    r.read ds = .ok n ↔
      ds ≠ [] ∧ (∀ c ∈ ds, isDigit c = true) ∧ r.Contains (valueOf ds : Nat) ∧
        n = (valueOf ds : Nat) := by
  constructor
  · intro read
    have some_digit : ds ≠ [] := by
      rintro rfl
      cases read
    have digits : ∀ c ∈ ds, isDigit c = true := by
      rw [read_unsigned some_digit unsigned] at read
      exact digits_of_readDigits read
    rw [read_digits some_digit digits zero] at read
    by_cases within : r.Contains (valueOf ds : Nat)
    · rw [check_of_contains within] at read
      cases read
      exact ⟨some_digit, digits, within, rfl⟩
    · obtain ⟨e, refused⟩ := check_of_not_contains within
      rw [refused] at read
      cases read
  · rintro ⟨some_digit, digits, within, rfl⟩
    rw [read_digits some_digit digits zero, check_of_contains within]

/-- The numeral of an integer is read as the integer, if that lies within the range. -/
theorem read_signedNumeral (negatives : r.low < 0) (zero : r.Contains 0) (n : Int) :
    r.read (Text.signedNumeral n) = r.check n := by
  have digits : ∀ c ∈ Text.numeral n.natAbs, isDigit c = true :=
    fun c mem => Text.isDigit_of_mem_numeral mem
  have value : valueOf (Text.numeral n.natAbs) = n.natAbs := Text.valueOf_numeral n.natAbs
  have some_digit := Text.numeral_ne_nil n.natAbs
  rw [Text.signedNumeral]
  split
  · next below =>
    have sign : n = withSign true (Text.valueAfter 0 (Text.numeral n.natAbs)) := by
      have after : Text.valueAfter 0 (Text.numeral n.natAbs) = n.natAbs := value
      rw [after, withSign, if_pos rfl]
      omega
    have read : r.read ('-' :: Text.numeral n.natAbs) =
        r.readDigits true (withSign true 0) (Text.numeral n.natAbs) := by
      generalize Text.numeral n.natAbs = ds at some_digit
      cases ds with
      | nil => exact absurd rfl some_digit
      | cons c ds =>
        rw [IntegerRange.read, if_pos negatives]
        · rfl
        · nofun
    have start : r.Contains (withSign true 0) := zero
    rw [read, readDigits_digits zero digits start, ← sign]
  · next above =>
    have same : (valueOf (Text.numeral n.natAbs) : Int) = n := by omega
    rw [read_digits some_digit digits zero, same]

end IntegerRange

namespace Fault

variable {range : IntegerRange} {n : Int}

theorem word_of_contains (within : range.Contains n) : word range n = .ok n := by
  rw [word, IntegerRange.check_of_contains within]
  rfl

theorem word_of_not_contains (outside : ¬ range.Contains n) :
    ∃ e, word range n = .error (.beyondWord e) := by
  obtain ⟨e, refused⟩ := IntegerRange.check_of_not_contains outside
  refine ⟨e, ?_⟩
  rw [word, refused]
  rfl

end Fault

end TableAccess
