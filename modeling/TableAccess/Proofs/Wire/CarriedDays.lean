import TableAccess.Proofs.Wire.Instants

/-!
Days that are carried on the wire.

The microseconds of an interval have a word of 64 bits. What exceeds it is carried to the days,
rounded toward zero to whole days, and what is left over of the last day is lost. So the interval
that is read back has the length of the one that was written exactly if whole days exceed the word,
or nothing does.
-/

set_option autoImplicit false
set_option relaxedAutoImplicit false

namespace TableAccess

open Wire

namespace Interval

/-- The length of an interval in microseconds, of its nanoseconds only the whole microseconds. -/
def wholeMicros (i : Interval) : Int :=
  (i.months.toInt * daysInMonth + i.days.toInt) * microsInDay + i.micros

/-- The microseconds that exceed their word, with their sign. -/
def excess (i : Interval) : Int := i.micros - clamp 64 i.micros

variable {i : Interval}

theorem carriedDays_eq (i : Interval) :
    i.carriedDays = i.days.toInt + i.excess.tdiv microsInDay := rfl

/-- What exceeds the word lies between nothing and all microseconds. -/
theorem excess_between (i : Interval) :
    0 ≤ i.excess ∧ i.excess ≤ i.micros ∨ i.micros ≤ i.excess ∧ i.excess ≤ 0 := by
  simp only [excess, clamp]
  omega

/-- The days that are carried are no more than all days of the microseconds, so they fit where all
of them do. -/
theorem fits_carriedDays (days : Fits 32 i.days.toInt)
    (all : Fits 32 (i.days.toInt + i.micros.tdiv microsInDay)) : Fits 32 i.carriedDays := by
  have positive : (0 : Int) < microsInDay := by decide
  have none : (0 : Int).tdiv microsInDay = 0 := Int.zero_tdiv _
  obtain ⟨days_low, days_high⟩ := days
  obtain ⟨all_low, all_high⟩ := all
  rw [carriedDays_eq]
  rcases i.excess_between with ⟨after, least⟩ | ⟨most, before⟩
  · have low := Int.tdiv_le_tdiv positive after
    have high := Int.tdiv_le_tdiv positive least
    constructor <;> omega
  · have low := Int.tdiv_le_tdiv positive most
    have high := Int.tdiv_le_tdiv positive before
    constructor <;> omega

/-- An interval is read back with what is left over of the last day that it exceeds its word by
taken away. -/
theorem totalMicros_cut (months : Fits 32 i.months.toInt) (carried : Fits 32 i.carriedDays) :
    i.cut.totalMicros = i.wholeMicros - i.excess.tmod microsInDay := by
  have parts := Int.mul_tdiv_add_tmod i.excess microsInDay
  have nanos : i.cut.totalNanos = (i.wholeMicros - i.excess.tmod microsInDay) * 1000 := by
    rw [totalNanos, cut, clamp_of_fits months, clamp_of_fits carried, toInt_ofInt_of_fits months,
      toInt_ofInt_of_fits carried, carriedDays_eq, wholeMicros]
    simp only [excess, daysInMonth, nanosInDay, microsInDay] at parts ⊢
    omega
  rw [totalMicros, nanos]
  exact Int.mul_tdiv_cancel _ (by decide)

end Interval

namespace Wire

/-- An interval comes back from a column of intervals as its words tell it, and as nothing else. -/
theorem returns_interval_iff {i j : Interval} :
    Returns (.scalar .interval) (.scalar .interval (some i)) (.scalar .interval (some j)) ↔
      j = i.cut := by
  have written : encode (.scalar .interval) (.scalar .interval (some i)) = .ok (some i.image) := rfl
  have read : decode (.scalar .interval) (some i.image) = .ok (.scalar .interval (some i.cut)) := by
    simp only [decode, Scalar.ofImage, Interval.ofImage_image_cut]
    rfl
  constructor
  · rintro ⟨bytes, encoded, decoded⟩
    rw [written] at encoded
    cases encoded
    rw [read] at decoded
    cases decoded
    rfl
  · rintro rfl
    exact ⟨i.image, written, read⟩

/-- An interval whose months and days fit into their words, the days with all those that its
microseconds make up, comes back from a column of intervals shorter by what is left over of the
last day that its microseconds exceed their word by. It keeps its length exactly if whole days
exceed the word. -/
theorem carried_days_keep_length {i : Interval} (months : Fits 32 i.months.toInt)
    (days : Fits 32 i.days.toInt) (all : Fits 32 (i.days.toInt + i.micros.tdiv microsInDay)) :
    ∃ j : Interval,
      Returns (.scalar .interval) (.scalar .interval (some i)) (.scalar .interval (some j)) ∧
      j.totalMicros = i.wholeMicros - i.excess.tmod microsInDay ∧
      (j.totalMicros = i.wholeMicros ↔ (microsInDay : Int) ∣ i.excess) := by
  have length := Interval.totalMicros_cut months (Interval.fits_carriedDays days all)
  refine ⟨i.cut, returns_interval_iff.mpr rfl, length, ?_⟩
  rw [length, Int.dvd_iff_tmod_eq_zero]
  omega

/-- A month forth, some days back, and microseconds back that exceed their word by two days. -/
def overlongBack : Interval := ⟨1, -5, (-(2 ^ 63) - 2 * 86400000000) * 1000⟩

theorem overlongBack_keeps_length :
    Fits 32 overlongBack.months.toInt ∧ Fits 32 overlongBack.days.toInt ∧
    Fits 32 (overlongBack.days.toInt + overlongBack.micros.tdiv microsInDay) ∧
    ∃ j : Interval, Returns (.scalar .interval) (.scalar .interval (some overlongBack))
        (.scalar .interval (some j)) ∧
      j.totalMicros = 25 * 86400000000 - 2 ^ 63 - 2 * 86400000000 := by
  have months : Fits 32 overlongBack.months.toInt := ⟨by decide, by decide⟩
  have days : Fits 32 overlongBack.days.toInt := ⟨by decide, by decide⟩
  have all : Fits 32 (overlongBack.days.toInt + overlongBack.micros.tdiv microsInDay) :=
    ⟨by decide, by decide⟩
  have whole_days : (microsInDay : Int) ∣ overlongBack.excess := by decide +kernel
  have length : overlongBack.wholeMicros = 25 * 86400000000 - 2 ^ 63 - 2 * 86400000000 := by
    decide +kernel
  obtain ⟨j, returned, -, kept⟩ := carried_days_keep_length months days all
  exact ⟨months, days, all, j, returned, (kept.mpr whole_days).trans length⟩

/-- One microsecond more than the word has room for is lost, although it would fit into a word with
a day that is carried. -/
theorem overlong_loses_micro :
    let i : Interval := ⟨0, 0, 2 ^ 63 * 1000⟩
    Fits 32 i.months.toInt ∧ Fits 32 i.days.toInt ∧
    Fits 32 (i.days.toInt + i.micros.tdiv microsInDay) ∧
    ¬ ∃ j : Interval,
      Returns (.scalar .interval) (.scalar .interval (some i)) (.scalar .interval (some j)) ∧
      j.totalMicros = i.wholeMicros := by
  intro i
  refine ⟨⟨by decide, by decide⟩, ⟨by decide, by decide⟩, ⟨by decide, by decide⟩, ?_⟩
  rintro ⟨j, returned, length⟩
  rw [returns_interval_iff.mp returned] at length
  exact absurd length (by decide)

end Wire

end TableAccess
