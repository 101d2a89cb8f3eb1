import TableAccess.Proofs.Number.Integers
import TableAccess.Time.Interval

/-!
The whole length of intervals that are made of nanoseconds, microseconds or seconds, and of lengths
of time without a sign.

All three units are put apart in one way: a number of them is divided by how many make a day, and
the rest is counted in nanoseconds. Only the days can get lost, where 64 bits have no room for them,
so whether an interval is as long as what it was made of is whether its days fit.
-/

set_option autoImplicit false
set_option relaxedAutoImplicit false

namespace TableAccess

namespace Interval

/-- The whole days of an interval are apart from the rest: there are no months, and less than a day
of nanoseconds, which has the sign of the days if there are any. -/
structure DaysApart (i : Interval) : Prop where
  months : i.months = 0
  below_day : i.nanos.natAbs < nanosInDay
  agree : 0 ≤ i.days.toInt ∧ 0 ≤ i.nanos ∨ i.days.toInt ≤ 0 ∧ i.nanos ≤ 0

/-! ### Days apart from a rest -/

/-- Units of which `perDay` make a day and each is `scale` nanoseconds, whole days apart. -/
def ofUnits (perDay scale : Nat) (n : Int) : Interval :=
  ⟨0, Int64.ofInt (n.tdiv perDay), n.tmod perDay * scale⟩

/-- How many of the units there still are when their days have gone through 64 bits. -/
def keptUnits (perDay : Nat) (n : Int) : Int :=
  (Int64.ofInt (n.tdiv perDay)).toInt * perDay + n.tmod perDay

theorem ofNanos_eq_ofUnits (n : Int) : ofNanos n = ofUnits nanosInDay 1 n := by
  rw [ofNanos, ofUnits, Int.natCast_one, Int.mul_one]

theorem ofMicros_eq_ofUnits (n : Int) : ofMicros n = ofUnits microsInDay 1000 n := rfl

theorem ofSeconds_eq_ofUnits (n : Int64) :
    ofSeconds n = ofUnits secondsInDay nanosInSecond n.toInt := rfl

section Units

variable {perDay scale : Nat}

/-- Through 64 bits come the numbers that 64 bits have room for. -/
theorem toInt_ofInt_eq_iff {n : Int} :
    (Int64.ofInt n).toInt = n ↔ (IntegerRange.signed 64).Contains n := by
  constructor
  · intro kept
    have low := (Int64.ofInt n).le_toInt
    have high := (Int64.ofInt n).toInt_lt
    rw [kept] at low high
    exact ⟨low, Int.le_sub_one_of_lt high⟩
  · rintro ⟨low, high⟩
    exact Int64.toInt_ofInt_of_le low (Int.lt_of_le_sub_one high)

/-- All units are kept exactly if their days have room. -/
theorem keptUnits_eq_iff (positive : 0 < perDay) {n : Int} :
    keptUnits perDay n = n ↔ (IntegerRange.signed 64).Contains (n.tdiv perDay) := by
  have whole := Int.mul_tdiv_add_tmod n perDay
  have nonzero : (perDay : Int) ≠ 0 := by omega
  rw [← toInt_ofInt_eq_iff, keptUnits]
  constructor
  · intro kept
    rw [Int.mul_comm] at whole
    have days : (Int64.ofInt (n.tdiv perDay)).toInt * perDay = n.tdiv perDay * perDay := by omega
    exact Int.eq_of_mul_eq_mul_right nonzero days
  · intro days
    rw [days, Int.mul_comm]
    exact whole

/-- An interval of units is as long as the units that are kept. -/
theorem totalNanos_ofUnits (day : perDay * scale = nanosInDay) (n : Int) :
    (ofUnits perDay scale n).totalNanos = keptUnits perDay n * scale := by
  have months : (0 : Int64).toInt = 0 := by decide
  rw [totalNanos, ofUnits, keptUnits, months, Int.zero_mul, Int.zero_add, ← day, Int.natCast_mul,
    ← Int.mul_assoc, Int.add_mul]

/-- The rest is less than a day, whatever becomes of the days. -/
theorem natAbs_nanos_ofUnits_lt (day : perDay * scale = nanosInDay) (n : Int) :
    (ofUnits perDay scale n).nanos.natAbs < nanosInDay := by
  have product : 0 < perDay * scale := by
    rw [day]
    decide
  have rest : n.natAbs % perDay < perDay := Nat.mod_lt _ (Nat.pos_of_mul_pos_right product)
  calc (n.tmod perDay * scale).natAbs
      = n.natAbs % perDay * scale := by
        rw [Int.natAbs_mul, Int.natAbs_tmod, Int.natAbs_natCast, Int.natAbs_natCast]
    _ < perDay * scale := Nat.mul_lt_mul_of_pos_right rest (Nat.pos_of_mul_pos_left product)
    _ = nanosInDay := day

theorem daysApart_ofUnits (day : perDay * scale = nanosInDay) {n : Int}
    (room : (IntegerRange.signed 64).Contains (n.tdiv perDay)) :
    (ofUnits perDay scale n).DaysApart := by
  refine ⟨rfl, natAbs_nanos_ofUnits_lt day n, ?_⟩
  have days : (ofUnits perDay scale n).days.toInt = n.tdiv perDay := toInt_ofInt_eq_iff.mpr room
  have perDay_nonneg := Int.natCast_nonneg perDay
  have scale_nonneg := Int.natCast_nonneg scale
  -- A truncated quotient and remainder have the sign of the number, and of its mirror image.
  rcases Int.le_total 0 n with after | before
  · refine .inl ⟨?_, Int.mul_nonneg (Int.tmod_nonneg _ after) scale_nonneg⟩
    rw [days]
    exact Int.tdiv_nonneg after perDay_nonneg
  · have mirrored : 0 ≤ -n := by omega
    have quotient := Int.tdiv_nonneg mirrored perDay_nonneg
    have rest := Int.tmod_nonneg perDay mirrored
    rw [Int.neg_tdiv] at quotient
    rw [Int.neg_tmod] at rest
    refine .inr ⟨?_, Int.mul_nonpos_of_nonpos_of_nonneg (by omega) scale_nonneg⟩
    rw [days]
    omega

/-- Parts of a unit come to the units they are parts of. -/
theorem ofUnits_parts (parts : Nat) (positive : 0 < parts) (n : Int) :
    ofUnits (perDay * parts) scale (n * parts) = ofUnits perDay (parts * scale) n := by
  have more : (0 : Int) < parts := Int.natCast_pos.mpr positive
  rw [ofUnits, ofUnits, Int.natCast_mul, Int.natCast_mul, Int.mul_comm n, Int.mul_comm perDay,
    Int.mul_tdiv_mul_of_pos _ _ more, Int.mul_tmod_mul_of_pos _ _ more,
    Int.mul_comm parts (n.tmod perDay), Int.mul_assoc]

end Units

/-! ### Nanoseconds, microseconds and seconds -/

private theorem nanosInDay_pos : 0 < nanosInDay := by decide

private theorem microsInDay_pos : 0 < microsInDay := by decide

private theorem contains_iff {n : Int} :
    (IntegerRange.signed 64).Contains n ↔ -(2 ^ 63) ≤ n ∧ n < 2 ^ 63 :=
  and_congr_right fun _ => Int.le_sub_one_iff

theorem totalNanos_ofNanos_eq_iff {n : Int} :
    (ofNanos n).totalNanos = n ↔ (IntegerRange.signed 64).Contains (n.tdiv nanosInDay) := by
  rw [ofNanos_eq_ofUnits, totalNanos_ofUnits (by decide), Int.natCast_one, Int.mul_one]
  exact keptUnits_eq_iff nanosInDay_pos

theorem totalNanos_ofNanos {n : Int} (low : -(2 ^ 63) ≤ n.tdiv nanosInDay)
    (high : n.tdiv nanosInDay < 2 ^ 63) : (ofNanos n).totalNanos = n :=
  totalNanos_ofNanos_eq_iff.mpr (contains_iff.mpr ⟨low, high⟩)

theorem daysApart_ofNanos {n : Int} (low : -(2 ^ 63) ≤ n.tdiv nanosInDay)
    (high : n.tdiv nanosInDay < 2 ^ 63) : (ofNanos n).DaysApart := by
  rw [ofNanos_eq_ofUnits]
  exact daysApart_ofUnits (by decide) (contains_iff.mpr ⟨low, high⟩)

/-- As many hours as 63 bits have room for are fewer days than 63 bits have room for. -/
theorem days_within {n : Int} (hours : n.natAbs < 2 ^ 63 * 3600000000000) :
    -(2 ^ 63) ≤ n.tdiv nanosInDay ∧ n.tdiv nanosInDay < 2 ^ 63 := by
  have quotient : (n.tdiv nanosInDay).natAbs = n.natAbs / nanosInDay := Int.natAbs_tdiv _ _
  simp only [nanosInDay] at quotient ⊢
  omega

/-- Whole seconds stay whole when the days are put apart. -/
theorem ofNanos_seconds (seconds : Int) :
    ofNanos (seconds * nanosInSecond) = ⟨0, Int64.ofInt (seconds.tdiv secondsInDay),
      seconds.tmod secondsInDay * nanosInSecond⟩ := by
  have day : nanosInDay = secondsInDay * nanosInSecond := by decide
  rw [ofNanos_eq_ofUnits, day, ofUnits_parts nanosInSecond (by decide), Nat.mul_one, ofUnits]

theorem ofMicros_seconds (seconds : Int) :
    ofMicros (seconds * 1000000) = ⟨0, Int64.ofInt (seconds.tdiv secondsInDay),
      seconds.tmod secondsInDay * nanosInSecond⟩ := by
  have day : microsInDay = secondsInDay * 1000000 := by decide
  rw [ofMicros_eq_ofUnits, day]
  exact ofUnits_parts 1000000 (by decide) seconds

/-- Whole seconds of not too many days are what their interval comes to. -/
theorem totalNanos_seconds {seconds : Int} (low : -(2 ^ 63) ≤ seconds.tdiv secondsInDay)
    (high : seconds.tdiv secondsInDay < 2 ^ 63) :
    (ofNanos (seconds * nanosInSecond)).totalNanos = seconds * nanosInSecond := by
  have kept : keptUnits secondsInDay seconds = seconds :=
    (keptUnits_eq_iff (by decide)).mpr (contains_iff.mpr ⟨low, high⟩)
  have length := totalNanos_ofUnits (by decide : secondsInDay * nanosInSecond = nanosInDay) seconds
  rw [kept] at length
  rwa [ofNanos_seconds]

theorem totalMicros_ofMicros_eq_iff {n : Int} :
    (ofMicros n).totalMicros = n ↔ (IntegerRange.signed 64).Contains (n.tdiv microsInDay) := by
  have length := totalNanos_ofUnits (by decide : microsInDay * 1000 = nanosInDay) n
  rw [totalMicros, ofMicros_eq_ofUnits, length, Int.cast_ofNat_Int,
    Int.mul_tdiv_cancel _ (by decide)]
  exact keptUnits_eq_iff microsInDay_pos

theorem totalMicros_ofMicros {n : Int} (low : -(2 ^ 63) ≤ n.tdiv microsInDay)
    (high : n.tdiv microsInDay < 2 ^ 63) : (ofMicros n).totalMicros = n :=
  totalMicros_ofMicros_eq_iff.mpr (contains_iff.mpr ⟨low, high⟩)

/-- A 64-bit number of seconds is fewer days than 64 bits have room for. -/
theorem days_of_seconds (seconds : Int64) :
    (IntegerRange.signed 64).Contains (seconds.toInt.tdiv secondsInDay) := by
  have low := seconds.le_toInt
  have high := seconds.toInt_lt
  have quotient : (seconds.toInt.tdiv secondsInDay).natAbs = seconds.toInt.natAbs / secondsInDay :=
    Int.natAbs_tdiv _ _
  rw [contains_iff]
  simp only [secondsInDay] at quotient ⊢
  omega

/-- The longest length of time without a sign is fewer days than 64 bits have room for. -/
theorem days_of_duration (d : Duration) :
    (IntegerRange.signed 64).Contains ((d.totalNanos : Int).tdiv nanosInDay) := by
  have seconds := d.seconds_lt
  have nanos := d.nanos_lt
  have days : (d.totalNanos : Int).tdiv nanosInDay = d.totalNanos / nanosInDay :=
    Int.tdiv_eq_ediv_of_nonneg (Int.natCast_nonneg _)
  rw [contains_iff, days]
  simp only [Duration.totalNanos, nanosInDay, nanosInSecond] at nanos ⊢
  omega

/-! ### Lengths of time without a sign -/

theorem totalNanos_ofDuration (d : Duration) : (ofDuration d).totalNanos = d.totalNanos :=
  totalNanos_ofNanos_eq_iff.mpr (days_of_duration d)

end Interval

namespace Duration

theorem totalNanos_ofNanos (n : Nat) :
    (ofNanos n).totalNanos = n % (2 ^ 64 * nanosInSecond) := by
  simp only [ofNanos, totalNanos, nanosInSecond]
  omega

theorem ofNanos_totalNanos (d : Duration) : Duration.ofNanos d.totalNanos = d := by
  obtain ⟨seconds, nanos, seconds_lt, nanos_lt⟩ := d
  have whole : (seconds * nanosInSecond + nanos) / nanosInSecond % 2 ^ 64 = seconds := by
    rw [Nat.mul_comm, Nat.mul_add_div (by decide), Nat.div_eq_of_lt nanos_lt, Nat.add_zero,
      Nat.mod_eq_of_lt seconds_lt]
  have rest : (seconds * nanosInSecond + nanos) % nanosInSecond = nanos := by
    rw [Nat.mul_comm, Nat.mul_add_mod, Nat.mod_eq_of_lt nanos_lt]
  simp only [Duration.ofNanos, Duration.totalNanos, whole, rest]

end Duration

namespace Interval

theorem toDuration_of_nonpos {i : Interval} (nothing : i.totalNanos ≤ 0) :
    i.toDuration = Duration.zero := if_pos nothing

theorem toDuration_of_pos {i : Interval} (positive : 0 < i.totalNanos) :
    i.toDuration = Duration.ofNanos i.totalNanos.toNat := if_neg (Int.not_le.mpr positive)

theorem toDuration_ofDuration (d : Duration) : (ofDuration d).toDuration = d := by
  have length := totalNanos_ofDuration d
  rcases Int.lt_or_le 0 (ofDuration d).totalNanos with positive | nothing
  · rw [toDuration_of_pos positive, length, Int.toNat_natCast, Duration.ofNanos_totalNanos]
  · have zero : d.totalNanos = 0 := by omega
    rw [toDuration_of_nonpos nothing, ← Duration.ofNanos_totalNanos d, zero]
    rfl

/-- The length of time of an interval that is not negative is that of the interval, exactly if its
seconds have room. -/
theorem totalNanos_toDuration_eq_iff {i : Interval} :
    (i.toDuration.totalNanos : Int) = max i.totalNanos 0 ↔
      i.totalNanos < 2 ^ 64 * nanosInSecond := by
  rcases Int.lt_or_le 0 i.totalNanos with positive | nothing
  · rw [toDuration_of_pos positive, Duration.totalNanos_ofNanos]
    simp only [nanosInSecond]
    omega
  · have zero : Duration.zero.totalNanos = 0 := rfl
    rw [toDuration_of_nonpos nothing, zero]
    simp only [nanosInSecond]
    omega

/-! ### Words of 128 bits -/

/-- The magnitudes of 127 bits have signed words of 128 bits. -/
theorem contains_signed {n : Int} (low : -(2 ^ 127) ≤ n) (high : n < 2 ^ 127) :
    (IntegerRange.signed 128).Contains n := by
  simp only [IntegerRange.Contains, IntegerRange.signed]
  omega

/-- Only the last sum can leave its word. -/
theorem totalNanosOnWords_eq (i : Interval) :
    i.totalNanosOnWords = Fault.word (.signed 128) i.totalNanos := by
  have months_low := i.months.le_toInt
  have months_high := i.months.toInt_lt
  have days_low := i.days.le_toInt
  have days_high := i.days.toInt_lt
  rw [totalNanosOnWords, totalNanos, daysInMonth, nanosInDay]
  rw [Fault.word_of_contains (contains_signed (by omega) (by omega)), Fault.ok_bind,
    Fault.word_of_contains (contains_signed (by omega) (by omega)), Fault.ok_bind,
    Fault.word_of_contains (contains_signed (by omega) (by omega)), Fault.ok_bind]

theorem dayNanosOnWords_eq (i : Interval) :
    i.dayNanosOnWords = Fault.word (.signed 128) i.dayNanos := by
  have days_low := i.days.le_toInt
  have days_high := i.days.toInt_lt
  rw [dayNanosOnWords, dayNanos, nanosInDay]
  rw [Fault.word_of_contains (contains_signed (by omega) (by omega)), Fault.ok_bind]

/-- Words have room for an interval of not too many seconds, whatever the parts it is the sum of. -/
theorem totalNanosOnWords_of_seconds {i : Interval}
    (few : i.totalNanos.natAbs < 2 ^ 96 * nanosInSecond) :
    i.totalNanosOnWords = .ok i.totalNanos := by
  rw [nanosInSecond] at few
  rw [totalNanosOnWords_eq]
  exact Fault.word_of_contains (contains_signed (by omega) (by omega))

/-- On words, there is a length of time exactly if they have room for the whole interval. -/
theorem toDurationOnWords_eq_ok_iff {i : Interval} {d : Duration} :
    i.toDurationOnWords = .ok d ↔
      (IntegerRange.signed 128).Contains i.totalNanos ∧ d = i.toDuration := by
  rw [toDurationOnWords, totalNanosOnWords_eq]
  by_cases room : (IntegerRange.signed 128).Contains i.totalNanos
  · rw [Fault.word_of_contains room, Fault.ok_bind, and_iff_right room]
    show Except.ok i.toDuration = .ok d ↔ _
    rw [Except.ok.injEq]
    exact eq_comm
  · obtain ⟨e, stopped⟩ := Fault.word_of_not_contains room
    rw [stopped]
    exact iff_of_false (by rintro ⟨⟩) fun h => room h.1

/-- The three units agree and come back: a number of nanoseconds or microseconds is what its
interval comes to exactly if 64 bits have room for its days, and its interval then has its days
apart; every 64-bit number of seconds gives one interval in all three units. A length of time
without a sign comes back from its interval, and an interval that is not positive has no length. On
words of 128 bits, all this is so exactly for the intervals that these words have room for. -/
theorem lengths_come_back :
    (∀ n : Int,
      ((ofNanos n).totalNanos = n ↔ (IntegerRange.signed 64).Contains (n.tdiv nanosInDay)) ∧
      ((IntegerRange.signed 64).Contains (n.tdiv nanosInDay) → (ofNanos n).DaysApart)) ∧
    (∀ n : Int,
      ((ofMicros n).totalMicros = n ↔ (IntegerRange.signed 64).Contains (n.tdiv microsInDay)) ∧
      ((IntegerRange.signed 64).Contains (n.tdiv microsInDay) → (ofMicros n).DaysApart)) ∧
    (∀ s : Int64,
      ofMicros (s.toInt * 1000000) = ofSeconds s ∧ ofNanos (s.toInt * nanosInSecond) = ofSeconds s ∧
      (ofSeconds s).totalNanos = s.toInt * nanosInSecond ∧ (ofSeconds s).DaysApart) ∧
    (∀ d : Duration, (ofDuration d).toDuration = d ∧ (ofDuration d).DaysApart) ∧
    ∀ i : Interval,
      (i.totalNanos ≤ 0 → i.toDuration = Duration.zero) ∧
      ((i.toDuration.totalNanos : Int) = max i.totalNanos 0 ↔
        i.totalNanos < 2 ^ 64 * nanosInSecond) ∧
      ∀ d, i.toDurationOnWords = .ok d ↔
        (IntegerRange.signed 128).Contains i.totalNanos ∧ d = i.toDuration := by
  refine ⟨?nanos, ?micros, ?seconds, ?durations, ?lengths⟩
  case nanos =>
    intro n
    refine ⟨totalNanos_ofNanos_eq_iff, fun room => ?_⟩
    rw [ofNanos_eq_ofUnits]
    exact daysApart_ofUnits (by decide) room
  case micros =>
    intro n
    refine ⟨totalMicros_ofMicros_eq_iff, fun room => ?_⟩
    rw [ofMicros_eq_ofUnits]
    exact daysApart_ofUnits (by decide) room
  case seconds =>
    intro s
    have room := days_of_seconds s
    have parts : ofNanos (s.toInt * nanosInSecond) = ofSeconds s := ofNanos_seconds s.toInt
    obtain ⟨low, high⟩ := contains_iff.mp room
    have length := totalNanos_seconds low high
    rw [parts] at length
    refine ⟨ofMicros_seconds s.toInt, parts, length, ?_⟩
    rw [ofSeconds_eq_ofUnits]
    exact daysApart_ofUnits (by decide) room
  case durations =>
    intro d
    obtain ⟨low, high⟩ := contains_iff.mp (days_of_duration d)
    exact ⟨toDuration_ofDuration d, daysApart_ofNanos low high⟩
  case lengths =>
    intro i
    exact ⟨toDuration_of_nonpos, totalNanos_toDuration_eq_iff, fun d =>
      toDurationOnWords_eq_ok_iff⟩

/-- The bounds: the shortest interval of nanoseconds and the longest of microseconds that still come
back, the fewest seconds, the longest length of time, and a month that its days take away again. -/
theorem lengths_come_back_at_the_bounds :
    (∃ shortest : Int, shortest = -(2 ^ 63 * nanosInDay + 86399999999999) ∧
      (ofNanos shortest).totalNanos = shortest ∧ (ofNanos shortest).DaysApart) ∧
    (∃ longest : Int, longest = 2 ^ 63 * microsInDay - 1 ∧
      (ofMicros longest).totalMicros = longest ∧ (ofMicros longest).DaysApart) ∧
    ofMicros (Int64.minValue.toInt * 1000000) = ofSeconds Int64.minValue ∧
    (∃ longest : Duration, longest.seconds = 2 ^ 64 - 1 ∧ longest.nanos = 999999999 ∧
      (ofDuration longest).toDuration = longest) ∧
    toDuration ⟨1, -31, 3600500000000⟩ = Duration.zero := by
  obtain ⟨nanos, micros, seconds, durations, lengths⟩ := lengths_come_back
  have shortest_room : (IntegerRange.signed 64).Contains
      ((-(2 ^ 63 * nanosInDay + 86399999999999) : Int).tdiv nanosInDay) := by decide
  have longest_room : (IntegerRange.signed 64).Contains
      ((2 ^ 63 * microsInDay - 1 : Int).tdiv microsInDay) := by decide
  refine ⟨⟨_, rfl, ?_, ?_⟩, ⟨_, rfl, ?_, ?_⟩, ?_, ?_, ?_⟩
  · exact (nanos _).1.mpr shortest_room
  · exact (nanos _).2 shortest_room
  · exact (micros _).1.mpr longest_room
  · exact (micros _).2 longest_room
  · exact (seconds Int64.minValue).1
  · exact ⟨⟨2 ^ 64 - 1, 999999999, by decide, by decide⟩, rfl, rfl, (durations _).1⟩
  · exact (lengths _).1 (by decide)

end Interval

end TableAccess
