import TableAccess.Proofs.Time.IntervalGrammar

/-!
The text of an interval and what is read from it.

The text tells the whole seconds of the interval and its sign. It can be read exactly if its hours
without their sign have 63 bits, and gives the whole seconds back. Only an interval of less than a
second before zero has another text than what is read from its text, which has lost the sign.
-/

set_option autoImplicit false
set_option relaxedAutoImplicit false

namespace TableAccess.Interval

/-- The whole hours of an interval, toward zero. -/
def wholeHours (i : Interval) : Int := i.totalNanos.tdiv (3600 * nanosInSecond)

theorem natAbs_wholeHours (i : Interval) :
    i.wholeHours.natAbs = i.totalNanos.natAbs / nanosInSecond / 3600 := by
  have quotient : i.wholeHours.natAbs = i.totalNanos.natAbs / (3600 * nanosInSecond) :=
    Int.natAbs_tdiv _ _
  rw [quotient, Nat.mul_comm, Nat.div_div_eq_div_mul]

/-! ### Texts -/

/-- The text of a number of seconds. -/
def secondsText (seconds : Nat) : List Char :=
  Text.padded 2 (seconds / 3600) ++ ':' :: Text.padded 2 (seconds / 60 % 60) ++
    ':' :: Text.padded 2 (seconds % 60)

/-- The text of an interval is that of its seconds behind its sign. -/
theorem chars_eq (i : Interval) : i.chars =
    (if i.totalNanos < 0 then ['-'] else []) ++
      secondsText (i.totalNanos.natAbs / nanosInSecond) := by
  simp only [chars, secondsText, List.append_assoc]

/-- The text depends on nothing but the whole length. -/
theorem text_congr {i j : Interval} (same : i.totalNanos = j.totalNanos) : i.text = j.text := by
  rw [text, text, chars, chars, same]

/-- The interval goes back by less than a second. -/
def JustNegative (i : Interval) : Prop := -nanosInSecond < i.totalNanos ∧ i.totalNanos < 0

theorem text_of_justNegative {i : Interval} (short : i.JustNegative) : i.text = "-00:00:00" := by
  obtain ⟨low, high⟩ := short
  have seconds : i.totalNanos.natAbs / nanosInSecond = 0 := Nat.div_eq_of_lt (by omega)
  rw [text, chars_eq, if_pos high, seconds]
  decide +kernel

/-- The whole seconds of an interval have the text of the interval exactly if there are some behind
its minus sign. -/
theorem text_eq_iff {i j : Interval} (whole : j.totalNanos = i.wholeSeconds * nanosInSecond) :
    j.text = i.text ↔ ¬ i.JustNegative := by
  have second : (nanosInSecond : Int) = 1000000000 := by decide
  rw [wholeSeconds_eq] at whole
  have seconds : j.totalNanos.natAbs / nanosInSecond = i.totalNanos.natAbs / nanosInSecond := by
    simp only [nanosInSecond] at whole ⊢
    split at whole <;> omega
  have same_iff : j.text = i.text ↔ (j.totalNanos < 0 ↔ i.totalNanos < 0) := by
    have signs (a b : Bool) (s : List Char) :
        (if a then ['-'] else []) ++ s = (if b then ['-'] else []) ++ s ↔ a = b := by
      cases a <;> cases b <;> simp
    have sides := signs (decide (j.totalNanos < 0)) (decide (i.totalNanos < 0))
      (secondsText (i.totalNanos.natAbs / nanosInSecond))
    simp only [decide_eq_true_eq, decide_eq_decide] at sides
    rw [← sides, text, text, chars_eq, chars_eq, seconds]
    exact ⟨fun same => String.ofList_injective same, congrArg String.ofList⟩
  rw [same_iff, JustNegative]
  simp only [nanosInSecond] at whole ⊢
  split at whole <;> omega

/-! ### Reading -/

theorem readInterval_eq_ok_iff {s : String} {i : Interval} :
    Kind.readInterval s = .ok i ↔ read? s.toList = some i := by
  rw [Kind.readInterval]
  cases read? s.toList with
  | none => constructor <;> intro same <;> cases same
  | some j => rw [Except.ok.injEq, Option.some.injEq]

/-- The text is read exactly if its hours have 63 bits. -/
theorem read?_text_iff (i : Interval) :
    (∃ j, read? i.text.toList = some j) ↔ i.wholeHours.natAbs < 2 ^ 63 := by
  rw [natAbs_wholeHours]
  constructor
  · rintro ⟨j, read⟩
    rw [read?_text_fields rfl] at read
    have hours := (digits_of_ofFields? read).1.below
    rwa [Text.valueOf_padded] at hours
  · intro hours
    rw [← natAbs_wholeSeconds] at hours
    exact ⟨_, read?_text hours⟩

/-- What is read from the text is the whole seconds. -/
theorem totalNanos_of_read?_text {i j : Interval} (read : read? i.text.toList = some j) :
    j.totalNanos = i.wholeSeconds * nanosInSecond := by
  have hours := (read?_text_iff i).mp ⟨j, read⟩
  rw [natAbs_wholeHours, ← natAbs_wholeSeconds] at hours
  have days : (i.wholeSeconds.tdiv secondsInDay).natAbs = i.wholeSeconds.natAbs / secondsInDay :=
    Int.natAbs_tdiv _ _
  simp only [secondsInDay] at days
  rw [read?_text hours] at read
  cases read
  apply totalNanos_seconds <;> simp only [secondsInDay] <;> omega

/-- Words have room for an interval whose text is read. -/
theorem totalNanosOnWords_of_hours {i : Interval} (hours : i.wholeHours.natAbs < 2 ^ 63) :
    i.totalNanosOnWords = .ok i.totalNanos := by
  rw [natAbs_wholeHours] at hours
  refine totalNanosOnWords_of_seconds ?_
  rw [nanosInSecond] at hours ⊢
  omega

/-- The text of an interval is read exactly if its whole hours without their sign have 63 bits, and
gives its whole seconds, toward zero. These have the same text again unless the interval goes back
by less than a second. Intervals of the same length have the same text. Words have room for the sum
of every interval whose text is read. -/
theorem text_keeps_whole_seconds (i : Interval) :
    ((∃ j, Kind.readInterval i.text = .ok j) ↔ i.wholeHours.natAbs < 2 ^ 63) ∧
    (∀ j, Kind.readInterval i.text = .ok j →
      j.totalNanos = i.totalNanos.tdiv nanosInSecond * nanosInSecond ∧
      (j.text = i.text ↔ ¬ i.JustNegative)) ∧
    (i.JustNegative → i.text = "-00:00:00") ∧
    (∀ j : Interval, j.totalNanos = i.totalNanos → j.text = i.text) ∧
    (i.wholeHours.natAbs < 2 ^ 63 → i.totalNanosOnWords = .ok i.totalNanos) := by
  refine ⟨?_, ?_, text_of_justNegative, fun _ => text_congr, totalNanosOnWords_of_hours⟩
  · simp only [readInterval_eq_ok_iff]
    exact read?_text_iff i
  · intro j read
    have whole := totalNanos_of_read?_text (readInterval_eq_ok_iff.mp read)
    exact ⟨whole, text_eq_iff whole⟩

/-- A month forth and more than a month back. -/
def shorterBack : Interval := ⟨1, -31, 3600500000000⟩

theorem shorterBack_keeps_seconds :
    shorterBack.wholeHours.natAbs < 2 ^ 63 ∧
    (∃ j, Kind.readInterval shorterBack.text = .ok j ∧ j.totalNanos = -82799000000000 ∧
      j.text = shorterBack.text) ∧
    Interval.text ⟨0, 0, -82799500000000⟩ = shorterBack.text := by
  obtain ⟨read, kept, -, same, -⟩ := text_keeps_whole_seconds shorterBack
  have hours : shorterBack.wholeHours.natAbs < 2 ^ 63 := by decide
  obtain ⟨j, found⟩ := read.mpr hours
  obtain ⟨length, text⟩ := kept j found
  exact ⟨hours, ⟨j, found, length, text.mpr (by unfold JustNegative; decide)⟩, same _ (by decide)⟩

/-- The most hours that a word of 64 bits has room for before zero. -/
def earliestHours : Interval := ⟨0, -384307168202282325, -28800000000000⟩

/-- The most hours before zero are one more than those that are read. -/
theorem earliestHours_unread :
    (IntegerRange.signed 64).Contains earliestHours.wholeHours ∧
    earliestHours.text = "-9223372036854775808:00:00" ∧
    ¬ ∃ j, Kind.readInterval earliestHours.text = .ok j := by
  have text : earliestHours.text = "-9223372036854775808:00:00" := by decide +kernel
  have refused : read? earliestHours.text.toList = none := by
    rw [text]
    decide +kernel
  refine ⟨by decide, text, ?_⟩
  rintro ⟨j, read⟩
  rw [readInterval_eq_ok_iff, refused] at read
  cases read

end TableAccess.Interval
