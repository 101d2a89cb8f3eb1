import TableAccess.Proofs.Wire.TimesOfDay
import TableAccess.Statement.Clause

/-!
Intervals that are bound as parameters.

An interval travels as its text, which has its months and days in the hours and nothing below a
second. What a column of intervals gets is therefore an interval of the same whole seconds, and a
column of times gets the interval itself, whatever its parts are and whatever their signs.
-/

set_option autoImplicit false
set_option relaxedAutoImplicit false

namespace TableAccess

open Wire

namespace Interval

/-- An interval of whole microseconds has nothing to lose. -/
theorem truncated_of_dvd {i : Interval} (whole : 1000 ∣ i.nanos) : i.truncated = i := by
  have same : i.micros * 1000 = i.nanos := Int.tdiv_mul_cancel whole
  rw [truncated, same]

/-- An interval of whole seconds has words for its days and for what is left of a day. -/
theorem ofImage_seconds {seconds : Int} (days : Fits 32 (seconds.tdiv secondsInDay)) :
    ofImage (ofNanos (seconds * nanosInSecond)).image =
      .ok (ofNanos (seconds * nanosInSecond)) := by
  have low := Int.lt_tmod_of_pos seconds (b := secondsInDay) (by decide)
  have high := Int.tmod_lt_of_pos seconds (b := secondsInDay) (by decide)
  have parts := ofNanos_seconds seconds
  generalize ofNanos (seconds * nanosInSecond) = i at parts ⊢
  have months : i.months = 0 := by rw [parts]
  have nanos : i.nanos = seconds.tmod secondsInDay * nanosInSecond := by rw [parts]
  have months_word : Fits 32 i.months.toInt := by
    rw [months]
    exact ⟨by decide, by decide⟩
  have days_word : Fits 32 i.days.toInt := by
    rw [parts]
    exact (toInt_ofInt_of_fits days).symm ▸ days
  have whole : 1000 ∣ i.nanos := by
    rw [nanos]
    exact Int.dvd_mul_of_dvd_right (by decide)
  have micros_word : Fits 64 i.micros := by
    have micros : i.micros * 1000 = i.nanos := Int.tdiv_mul_cancel whole
    simp only [Fits, secondsInDay, nanosInSecond] at low high nanos ⊢
    omega
  rw [ofImage_image months_word days_word micros_word, truncated_of_dvd whole]

/-- An interval without a part below a second is its whole seconds. -/
theorem wholeSeconds_of_dvd {i : Interval} (whole : (nanosInSecond : Int) ∣ i.nanos) :
    i.wholeSeconds * nanosInSecond = i.totalNanos := by
  refine Int.tdiv_mul_cancel ?_
  have day : (nanosInSecond : Int) ∣ nanosInDay := by decide
  exact Int.dvd_add (Int.dvd_mul_of_dvd_right day) whole

end Interval

/-! ### Values -/

namespace Wire

/-- An interval as it is bound. -/
def boundInterval (i : Interval) : Value := Clause.parameterOf (.scalar .interval (some i))

variable {i : Interval}

/-- The text of an interval of not too many days is read. -/
private theorem read?_bound (days : Fits 32 (i.wholeSeconds.tdiv secondsInDay)) :
    Interval.read? i.text.toList = some (.ofNanos (i.wholeSeconds * nanosInSecond)) := by
  refine Interval.read?_text ?_
  have length : (i.wholeSeconds.tdiv secondsInDay).natAbs = i.wholeSeconds.natAbs / 86400 :=
    Int.natAbs_tdiv _ _
  obtain ⟨low, high⟩ := days
  omega

private theorem encode_bound (days : Fits 32 (i.wholeSeconds.tdiv secondsInDay)) :
    encode (.scalar .interval) (boundInterval i) =
      .ok (some (Interval.ofNanos (i.wholeSeconds * nanosInSecond)).image) := by
  have converted := convert_interval_text (read?_bound days)
  have bound : boundInterval i = .text i.text := by
    rw [boundInterval, Clause.parameterOf]
  have encoded : encode (.scalar .interval) (.text i.text) =
      (Scalar.encode .interval (.text i.text)).map some := rfl
  have image : Scalar.encode .interval (.text i.text) =
      .ok (Interval.ofNanos (i.wholeSeconds * nanosInSecond)).image := by
    simp only [Scalar.encode, converted]
    rfl
  rw [bound, encoded, image]
  rfl

/-- A bound interval of not too many days has room in words, and comes back from a column of
intervals with the whole seconds that it had, toward zero. In a column of times it is written as the
interval itself is, or is refused as that is, unless there is something below a second. -/
theorem bound_interval_keeps_length (i : Interval)
    (days : Fits 32 (i.wholeSeconds.tdiv secondsInDay)) :
    i.totalNanosOnWords = .ok i.totalNanos ∧
    (∃ j : Interval, Returns (.scalar .interval) (boundInterval i) (.scalar .interval (some j)) ∧
      j.totalNanos = i.wholeSeconds * nanosInSecond) ∧
    ((nanosInSecond : Int) ∣ i.nanos → ∀ bytes,
      encode (.scalar .time) (boundInterval i) = .ok bytes ↔
        encode (.scalar .time) (.scalar .interval (some i)) = .ok bytes) := by
  have length : (Interval.ofNanos (i.wholeSeconds * nanosInSecond)).totalNanos =
      i.wholeSeconds * nanosInSecond := by
    obtain ⟨low, high⟩ := days
    apply Interval.totalNanos_seconds <;> omega
  refine ⟨?_, ?_, ?_⟩
  · obtain ⟨low, high⟩ := days
    have magnitude : i.wholeSeconds.natAbs = i.totalNanos.natAbs / nanosInSecond :=
      Int.natAbs_tdiv _ _
    have some_days : (i.wholeSeconds.tdiv secondsInDay).natAbs =
        i.wholeSeconds.natAbs / secondsInDay := Int.natAbs_tdiv _ _
    refine Interval.totalNanosOnWords_of_seconds ?_
    rw [nanosInSecond] at magnitude ⊢
    rw [secondsInDay] at low high some_days
    omega
  · refine ⟨_, ⟨_, encode_bound days, ?_⟩, length⟩
    simp only [decode, Scalar.ofImage, Interval.ofImage_seconds days]
    rfl
  · intro whole bytes
    have bound : boundInterval i = .text i.text := by
      rw [boundInterval, Clause.parameterOf]
    rw [bound, encode_time_text (read?_bound days)]
    exact encode_time_congr (length.trans (Interval.wholeSeconds_of_dvd whole)) bytes

/-- A month back, and forth again but for three hours and a second. -/
def mixedInterval : Interval := ⟨-1, 30, -10801000000000⟩

theorem mixedInterval_keeps_length :
    Fits 32 (mixedInterval.wholeSeconds.tdiv secondsInDay) ∧
    (nanosInSecond : Int) ∣ mixedInterval.nanos ∧
    (∃ j : Interval, Returns (.scalar .interval) (.text "-03:00:01") (.scalar .interval (some j)) ∧
      j.totalNanos = -10801000000000) ∧
    ∀ bytes, encode (.scalar .time) (.text "-03:00:01") = .ok bytes ↔
      encode (.scalar .time) (.scalar .interval (some mixedInterval)) = .ok bytes := by
  have days : Fits 32 (mixedInterval.wholeSeconds.tdiv secondsInDay) := ⟨by decide, by decide⟩
  have whole : (nanosInSecond : Int) ∣ mixedInterval.nanos := by decide
  have bound : boundInterval mixedInterval = .text "-03:00:01" := by
    have text : mixedInterval.text = "-03:00:01" := by decide +kernel
    rw [boundInterval, Clause.parameterOf, text]
  obtain ⟨-, returned, written⟩ := bound_interval_keeps_length mixedInterval days
  rw [bound] at returned written
  exact ⟨days, whole, returned, written whole⟩

end Wire

end TableAccess
