import TableAccess.Proofs.Time.IntervalDisplay
import TableAccess.Proofs.Wire.TimesOfDay

/-!
Equal intervals.

Two intervals are equal if they have the same months and their days and nanoseconds come to the
same, so days forth and nanoseconds back may cancel out. What is hashed, measured, shown and written
of an interval is the same for equal ones. Only the test for zero looks at the parts one by one, and
misses the intervals whose days and nanoseconds cancel out.
-/

set_option autoImplicit false
set_option relaxedAutoImplicit false

namespace TableAccess.Interval

open Wire

variable {a b i : Interval}

/-! ### Equality -/

theorem same_iff : a.same b = true ↔ a.months = b.months ∧ a.dayNanos = b.dayNanos := by
  rw [same, beq_iff_eq, key, key, Prod.mk.injEq]

theorem equivalence_same : Equivalence fun a b : Interval => a.same b = true where
  refl _ := same_iff.mpr ⟨rfl, rfl⟩
  symm equal := by
    obtain ⟨months, rest⟩ := same_iff.mp equal
    exact same_iff.mpr ⟨months.symm, rest.symm⟩
  trans first second := by
    obtain ⟨months, rest⟩ := same_iff.mp first
    obtain ⟨months', rest'⟩ := same_iff.mp second
    exact same_iff.mpr ⟨months.trans months', rest.trans rest'⟩

/-- The months of an interval count apart from its days and nanoseconds. -/
theorem totalNanos_eq (i : Interval) :
    i.totalNanos = i.months.toInt * daysInMonth * nanosInDay + i.dayNanos := by
  rw [totalNanos, dayNanos, Int.add_mul, Int.add_assoc]

/-- Equal intervals have the same months and the same length, and are told by them. -/
theorem same_iff_totalNanos :
    a.same b = true ↔ a.months = b.months ∧ a.totalNanos = b.totalNanos := by
  rw [same_iff, totalNanos_eq, totalNanos_eq]
  constructor
  · rintro ⟨months, rest⟩
    exact ⟨months, by rw [months, rest]⟩
  · rintro ⟨months, length⟩
    rw [months] at length
    exact ⟨months, Int.add_left_cancel length⟩

/-! ### What is observed -/

/-- The intervals are hashed, measured, shown and written as a time of day alike, and on words they
are added up alike. -/
structure Alike (a b : Interval) : Prop where
  hashed : a.key = b.key ∧ hash a = hash b
  nanos : a.totalNanos = b.totalNanos
  words : a.dayNanosOnWords = b.dayNanosOnWords ∧ a.totalNanosOnWords = b.totalNanosOnWords
  micros : a.totalMicros = b.totalMicros
  duration : a.toDuration = b.toDuration
  text : a.text = b.text
  time (bytes : Option (List UInt8)) :
    encode (.scalar .time) (.scalar .interval (some a)) = .ok bytes ↔
      encode (.scalar .time) (.scalar .interval (some b)) = .ok bytes

theorem hash_eq (i : Interval) : hash i = hash i.key := rfl

theorem alike_of_same (equal : a.same b = true) : Alike a b := by
  have key : a.key = b.key := beq_iff_eq.mp equal
  have days : a.dayNanos = b.dayNanos := congrArg Prod.snd key
  have length := (same_iff_totalNanos.mp equal).2
  exact {
    hashed := ⟨key, by rw [hash_eq, hash_eq, key]⟩
    nanos := length
    words := ⟨by rw [dayNanosOnWords_eq, dayNanosOnWords_eq, days],
      by rw [totalNanosOnWords_eq, totalNanosOnWords_eq, length]⟩
    micros := by rw [totalMicros, totalMicros, length]
    duration := by rw [toDuration, toDuration, length]
    text := text_congr length
    time := encode_time_congr length }

/-! ### Zero -/

theorem isZero_iff : i.isZero = true ↔ (i.months = 0 ∧ i.days = 0) ∧ i.nanos = 0 := by
  simp only [isZero, Bool.and_eq_true, beq_iff_eq]

theorem same_zero_iff : i.same zero = true ↔ i.months = 0 ∧ i.dayNanos = 0 := same_iff

/-- Nothing but an interval without days, among those equal to zero, is found to be zero. -/
theorem isZero_iff_same_zero : i.isZero = true ↔ i.same zero = true ∧ i.days = 0 := by
  have none : (0 : Int64).toInt = 0 := by decide
  rw [isZero_iff, same_zero_iff, dayNanos]
  constructor
  · rintro ⟨⟨months, days⟩, nanos⟩
    exact ⟨⟨months, by rw [days, nanos, none]; rfl⟩, days⟩
  · rintro ⟨⟨months, rest⟩, days⟩
    rw [days, none, Int.zero_mul, Int.zero_add] at rest
    exact ⟨⟨months, days⟩, rest⟩

/-- Of equal intervals both or none are found to be zero, unless they equal zero and one of them
has days. -/
theorem isZero_congr_iff (equal : a.same b = true) :
    a.isZero = b.isZero ↔ (a.same zero = true → (a.days = 0 ↔ b.days = 0)) := by
  have zeros : b.same zero = true ↔ a.same zero = true :=
    ⟨fun zero => equivalence_same.trans equal zero,
      fun zero => equivalence_same.trans (equivalence_same.symm equal) zero⟩
  rw [Bool.eq_iff_iff, isZero_iff_same_zero, isZero_iff_same_zero, zeros]
  exact and_congr_right_iff

/-- Equality of intervals is an equivalence, tells them by their months and their length, and is
respected by all that is observed of them but the test for zero. That test finds the intervals
without days among those equal to zero, and so it respects equality exactly unless the intervals
equal zero and only one of them has days. -/
theorem equal_intervals_alike (a b : Interval) :
    Equivalence (fun a b : Interval => a.same b = true) ∧
    (a.same b = true ↔ a.months = b.months ∧ a.totalNanos = b.totalNanos) ∧
    (a.same b = true → Alike a b ∧
      (a.isZero = b.isZero ↔ (a.same zero = true → (a.days = 0 ↔ b.days = 0)))) ∧
    (a.isZero = true ↔ a.same zero = true ∧ a.days = 0) :=
  ⟨equivalence_same, same_iff_totalNanos,
    fun equal => ⟨alike_of_same equal, isZero_congr_iff equal⟩, isZero_iff_same_zero⟩

/-- A day and an hour, and two days back to them. -/
theorem dayAndHour_alike :
    let forth : Interval := ⟨0, 1, 3600000000000⟩
    let back : Interval := ⟨0, 2, -82800000000000⟩
    forth.same back = true ∧ Alike forth back ∧ forth.isZero = back.isZero := by
  intro forth back
  have equal : forth.same back = true := by decide
  have some_time : ¬ forth.same zero = true := by decide
  obtain ⟨alike, zeros⟩ := (equal_intervals_alike forth back).2.2.1 equal
  exact ⟨equal, alike, zeros.mpr fun zero => absurd zero some_time⟩

/-- A day forth and the nanoseconds of a day back equal zero and are not found to be zero. -/
theorem cancelledDay_not_isZero :
    let cancelled : Interval := ⟨0, 1, -86400000000000⟩
    cancelled.same zero = true ∧ zero.isZero = true ∧ cancelled.isZero = false := by
  decide

end TableAccess.Interval
