import TableAccess.Proofs.Time.IntervalText
import TableAccess.Proofs.Time.Lengths

/-!
The reading of intervals on words of fixed widths.

Every number that comes up in reading is kept to the width of its word, and the digits behind the
point are cut by bytes, which is possible between characters only. No text makes a number leave its
word or a cut fall into a character, so the reading is the same as with numbers of any size.
-/

set_option autoImplicit false
set_option relaxedAutoImplicit false

namespace TableAccess

open Text (isDigit valueOf)

namespace Fault

/-- The characters in the first bytes of a text, all of them if there are not so many. -/
def firstBytes : Nat → List Char → Except Fault (List Char)
  | _, [] => .ok []
  | n, c :: s =>
    if n = 0 then .ok []
    else if c.utf8Size ≤ n then (firstBytes (n - c.utf8Size) s).map (c :: ·)
    else .error .withinCharacter

/-- A digit has a byte to itself. -/
theorem firstBytes_digits {ds : List Char} (digits : ∀ c ∈ ds, isDigit c = true) (n : Nat) :
    firstBytes n ds = .ok (ds.take n) := by
  induction ds generalizing n with
  | nil => rw [firstBytes, List.take_nil]
  | cons c ds ih =>
    obtain ⟨first, others⟩ := List.forall_mem_cons.mp digits
    have byte : c.utf8Size = 1 := by
      simp only [isDigit, Bool.and_eq_true, decide_eq_true_eq, Char.toNat] at first
      exact if_pos (UInt32.le_iff_toNat_le.mpr (Nat.le_trans first.2 (by decide)))
    cases n with
    | zero => rfl
    | succ n =>
      rw [firstBytes, if_neg (Nat.succ_ne_zero n), byte, if_pos (Nat.le_add_left 1 n),
        Nat.add_sub_cancel, ih others]
      rfl

end Fault

namespace Interval

open Fault (word firstBytes)

/-- Nanoseconds with those of the digits behind a point, on words of 128 bits. -/
def addFractionOnWords (nanos : Int) (fraction : List Char) : Except Fault (Option Int) :=
  if fraction.isEmpty then .ok (some nanos)
  else do
    let digits ← firstBytes 9 fraction
    let places ← word (.unsigned 32) (9 - digits.length)
    let scale ← word (.signed 128) (10 ^ places.toNat)
    match (IntegerRange.signed 128).read digits with
    | .error _ => .ok none
    | .ok n =>
      let part ← word (.signed 128) (n * scale)
      let sum ← word (.signed 128) (nanos + part)
      .ok (some sum)

/-- A number of nanoseconds with a sign, on words of 128 bits. -/
def signOnWords (negative : Bool) (nanos : Int) : Except Fault Int :=
  if negative then word (.signed 128) (-nanos) else .ok nanos

/-- Hours, minutes, seconds and a fraction as an interval, on words of 128 bits, with the days in
64. -/
def ofNumbersOnWords (negative : Bool) (h m s : Int) (fraction : List Char) :
    Except Fault (Option Interval) := do
  let hours ← word (.signed 128) (h * 3600)
  let minutes ← word (.signed 128) (m * 60)
  let clock ← word (.signed 128) (hours + minutes)
  let seconds ← word (.signed 128) (clock + s)
  let whole ← word (.signed 128) (seconds * nanosInSecond)
  match ← addFractionOnWords whole fraction with
  | none => .ok none
  | some nanos =>
    let signed ← signOnWords negative nanos
    let days ← word (.signed 64) (signed.tdiv nanosInDay)
    .ok (some ⟨0, Int64.ofInt days, signed.tmod nanosInDay⟩)

/-- Fields as an interval, on words. -/
def ofFieldsOnWords (negative : Bool) (hours minutes seconds fraction : List Char) :
    Except Fault (Option Interval) :=
  match readNumber? hours, readNumber? minutes, readNumber? seconds with
  | some h, some m, some s =>
    if 60 ≤ m ∨ 60 ≤ s ∨ !fraction.all isDigit then .ok none
    else ofNumbersOnWords negative h m s fraction
  | _, _, _ => .ok none

/-- A text without its sign as an interval, on words. -/
def readUnsignedOnWords (negative : Bool) (s : List Char) : Except Fault (Option Interval) :=
  match Text.cutFirst (· == ':') s with
  | none => .ok none
  | some (hours, s) =>
    match Text.cutFirst (· == ':') s with
    | none => .ok none
    | some (minutes, s) =>
      let (seconds, fraction) := (Text.cutFirst (· == '.') s).getD (s, [])
      ofFieldsOnWords negative hours minutes seconds fraction

/-- Whether a minus sign is in front of a text, and what is behind it. -/
def unsigned : List Char → Bool × List Char
  | '-' :: rest => (true, rest)
  | s => (false, s)

/-- An interval from text, on words. -/
def readOnWords (s : List Char) : Except Fault (Option Interval) :=
  let (negative, s) := unsigned (Text.trim s)
  readUnsignedOnWords negative s

theorem contains_scale {places : Nat} (few : places ≤ 9) :
    (IntegerRange.signed 128).Contains (10 ^ places) := by
  have positive : 0 ≤ (10 : Int) ^ places := Int.pow_nonneg (by decide)
  have bound : (10 : Int) ^ places ≤ 10 ^ 9 := by
    exact_mod_cast Nat.pow_le_pow_right (n := 10) (by decide) few
  exact contains_signed (by omega) (by omega)

/-- A word of 128 bits has room for nine digits. -/
theorem read_nine {ds : List Char} (some_digit : ds ≠ []) (digits : ∀ c ∈ ds, isDigit c = true)
    (short : ds.length ≤ 9) : (IntegerRange.signed 128).read ds = .ok (valueOf ds : Nat) := by
  have number : valueOf ds < 10 ^ 9 :=
    Nat.lt_of_lt_of_le (Text.valueOf_lt digits) (Nat.pow_le_pow_right (by decide) short)
  rw [IntegerRange.read_digits some_digit digits (by decide)]
  exact IntegerRange.check_of_contains (contains_signed (by omega) (by omega))

/-- A word of 128 bits has room for a fraction of a second behind a number of 126 bits. -/
theorem addFractionOnWords_eq {nanos : Int} {fraction : List Char}
    (digits : ∀ c ∈ fraction, isDigit c = true) (above : 0 ≤ nanos) (below : nanos < 2 ^ 126) :
    addFractionOnWords nanos fraction = .ok (some (nanos + fractionNanos fraction)) := by
  have small := fractionNanos_lt digits
  simp only [nanosInSecond] at small
  rw [addFractionOnWords]
  split
  · next empty =>
    obtain rfl := List.isEmpty_iff.mp empty
    rw [show fractionNanos [] = 0 from rfl, Int.natCast_zero, Int.add_zero]
  · next some_digit =>
    let first := fraction.take 9
    have short : first.length ≤ 9 := List.length_take_le 9 fraction
    have some_first : first ≠ [] := by
      rw [List.isEmpty_iff] at some_digit
      exact mt List.take_eq_nil_iff.mp (not_or.mpr ⟨by decide, some_digit⟩)
    have read : (IntegerRange.signed 128).read first = .ok (valueOf first : Nat) :=
      read_nine some_first (fun c mem => digits c (List.mem_of_mem_take mem)) short
    have exponent : ((9 - first.length : Int)).toNat = 9 - first.length := by omega
    have places : (IntegerRange.unsigned 32).Contains (9 - first.length) := by
      simp only [IntegerRange.Contains, IntegerRange.unsigned]
      omega
    have part : (valueOf first : Int) * 10 ^ (9 - first.length) = fractionNanos fraction := by
      rw [fractionNanos, Int.natCast_mul, Int.natCast_pow]
      rfl
    have part_word : (IntegerRange.signed 128).Contains (fractionNanos fraction) :=
      contains_signed (by omega) (by omega)
    have sum : (IntegerRange.signed 128).Contains (nanos + fractionNanos fraction) :=
      contains_signed (by omega) (by omega)
    rw [Fault.firstBytes_digits digits, Fault.ok_bind, Fault.word_of_contains places,
      Fault.ok_bind, exponent, Fault.word_of_contains (contains_scale (by omega)), Fault.ok_bind,
      read]
    dsimp only
    rw [part, Fault.word_of_contains part_word, Fault.ok_bind, Fault.word_of_contains sum,
      Fault.ok_bind]

theorem ofNumbersOnWords_eq (negative : Bool) {h m s : Nat} {fraction : List Char}
    (hours : h < 2 ^ 63) (minutes : m < 60) (seconds : s < 60)
    (digits : ∀ c ∈ fraction, isDigit c = true) :
    ofNumbersOnWords negative h m s fraction =
      let n : Int := (h * 3600 + m * 60 + s) * nanosInSecond + fractionNanos fraction
      .ok (some (ofNanos (if negative then -n else n))) := by
  have product {k : Int} (low : 0 ≤ k) (high : k < 2 ^ 63 * 3600000000000) :
      word (.signed 128) k = .ok k :=
    Fault.word_of_contains (contains_signed (by omega) (by omega))
  have small := fractionNanos_lt digits
  simp only [nanosInSecond] at small
  obtain ⟨clock, clock_eq⟩ : ∃ k : Int, k = (h * 3600 + m * 60 + s) * nanosInSecond := ⟨_, rfl⟩
  have amount : clock = (h * 3600 + m * 60 + s) * 1000000000 := by
    rw [clock_eq, nanosInSecond]
    rfl
  have clock_low : 0 ≤ clock := by omega
  have clock_high : clock + fractionNanos fraction < 2 ^ 63 * 3600000000000 := by omega
  have added := addFractionOnWords_eq digits clock_low (by omega)
  obtain ⟨n, n_eq⟩ : ∃ n : Int, n = clock + fractionNanos fraction := ⟨_, rfl⟩
  rw [← n_eq] at added clock_high
  have signed : signOnWords negative n = .ok (if negative then -n else n) := by
    cases negative with
    | true => exact Fault.word_of_contains (contains_signed (by omega) (by omega))
    | false => rfl
  have length : (if negative then -n else n).natAbs < 2 ^ 63 * 3600000000000 := by
    split <;> omega
  obtain ⟨k, k_eq⟩ : ∃ k : Int, k = if negative then -n else n := ⟨_, rfl⟩
  rw [← k_eq] at signed length
  have days : word (.signed 64) (k.tdiv nanosInDay) = .ok (k.tdiv nanosInDay) := by
    obtain ⟨low, high⟩ := days_within length
    exact Fault.word_of_contains ⟨low, Int.le_sub_one_of_lt high⟩
  have hours_word := product (k := h * 3600) (by omega) (by omega)
  have minutes_word := product (k := m * 60) (by omega) (by omega)
  have clock_word := product (k := h * 3600 + m * 60) (by omega) (by omega)
  have seconds_word := product (k := h * 3600 + m * 60 + s) (by omega) (by omega)
  have whole_word := product clock_low (by omega)
  dsimp only
  rw [← clock_eq, ← n_eq, ← k_eq, ofNumbersOnWords, hours_word, Fault.ok_bind, minutes_word,
    Fault.ok_bind, clock_word, Fault.ok_bind, seconds_word, Fault.ok_bind, ← clock_eq, whole_word,
    Fault.ok_bind, added, Fault.ok_bind]
  dsimp only
  rw [signed, Fault.ok_bind, days, Fault.ok_bind]
  rfl

theorem ofFieldsOnWords_eq (negative : Bool) (hours minutes seconds fraction : List Char) :
    ofFieldsOnWords negative hours minutes seconds fraction =
      .ok (ofFields? negative hours minutes seconds fraction) := by
  rw [ofFieldsOnWords, ofFields?]
  cases hours_read : readNumber? hours with
  | none => rfl
  | some h =>
    cases minutes_read : readNumber? minutes with
    | none => rfl
    | some m =>
      cases seconds_read : readNumber? seconds with
      | none => rfl
      | some s =>
        simp only [Option.bind_eq_bind, Option.bind_some]
        split
        · rfl
        · next within =>
          obtain ⟨⟨-, -, hours_below⟩, rfl⟩ := readNumber?_eq_some_iff.mp hours_read
          obtain ⟨-, rfl⟩ := readNumber?_eq_some_iff.mp minutes_read
          obtain ⟨-, rfl⟩ := readNumber?_eq_some_iff.mp seconds_read
          simp only [Bool.not_eq_true', not_or, Bool.not_eq_false, Int.not_le] at within
          obtain ⟨minutes_below, seconds_below, digits⟩ := within
          rw [readFraction_eq_fractionNanos]
          exact ofNumbersOnWords_eq negative hours_below (by omega) (by omega)
            (List.all_eq_true.mp digits)

/-- Reading on words never stops, and gives what reading gives. -/
theorem readOnWords_eq (s : List Char) : readOnWords s = .ok (read? s) := by
  have read_unsigned (negative : Bool) (s : List Char) : readUnsignedOnWords negative s = .ok
      (match Text.cutFirst (· == ':') s with
        | none => none
        | some (hours, s) => match Text.cutFirst (· == ':') s with
          | none => none
          | some (minutes, s) =>
            let (seconds, fraction) := (Text.cutFirst (· == '.') s).getD (s, [])
            ofFields? negative hours minutes seconds fraction) := by
    rw [readUnsignedOnWords]
    split
    · rfl
    · split
      · rfl
      · exact ofFieldsOnWords_eq ..
  exact read_unsigned (unsigned (Text.trim s)).1 (unsigned (Text.trim s)).2

end Interval

end TableAccess
