import TableAccess.Proofs.Time.IntervalWords
import TableAccess.Value.FieldType

/-!
The texts that are read as intervals, and what they are read as.

An interval is read from exactly the texts of hours, minutes and seconds in digits, with a minus
sign in front or none and with digits behind a point or none, whatever blanks are around. It has the
length that the text tells, down to the nanosecond.
-/

set_option autoImplicit false
set_option relaxedAutoImplicit false

namespace TableAccess.Interval

open Text (isDigit valueOf)

/-- The parts of a text of an interval, each in digits. The digits behind the point may be none. -/
structure ClockText where
  negative : Bool
  hours : List Char
  minutes : List Char
  seconds : List Char
  fraction : Option (List Char)
  hours_below : DigitsBelow (2 ^ 63) hours
  minutes_below : DigitsBelow 60 minutes
  seconds_below : DigitsBelow 60 seconds
  fraction_digits : ∀ ds ∈ fraction, ∀ c ∈ ds, isDigit c = true

namespace ClockText

/-- The seconds, with the point and what is behind it if there is one. -/
def secondsChars (t : ClockText) : List Char :=
  match t.fraction with
  | none => t.seconds
  | some ds => t.seconds ++ '.' :: ds

/-- The text of the parts. -/
def chars (t : ClockText) : List Char :=
  (if t.negative then ['-'] else []) ++ t.hours ++ ':' :: (t.minutes ++ ':' :: t.secondsChars)

/-- The length that the text tells, in nanoseconds and without its sign. -/
def magnitude (t : ClockText) : Nat :=
  (valueOf t.hours * 3600 + valueOf t.minutes * 60 + valueOf t.seconds) * nanosInSecond +
    fractionNanos (t.fraction.getD [])

/-- The length that the text tells, in nanoseconds. -/
def nanos (t : ClockText) : Int := if t.negative then -t.magnitude else t.magnitude

end ClockText

/-! ### The grammar -/

section Fields

variable {negative : Bool} {hours minutes seconds fraction : List Char} {i : Interval}

/-- Fields are taken exactly if they are digits below their bounds. -/
theorem digits_of_ofFields? (taken : ofFields? negative hours minutes seconds fraction = some i) :
    DigitsBelow (2 ^ 63) hours ∧ DigitsBelow 60 minutes ∧ DigitsBelow 60 seconds ∧
      ∀ c ∈ fraction, isDigit c = true := by
  rw [ofFields?] at taken
  obtain ⟨h, hours_read, taken⟩ := Option.bind_eq_some_iff.mp taken
  obtain ⟨m, minutes_read, taken⟩ := Option.bind_eq_some_iff.mp taken
  obtain ⟨s, seconds_read, taken⟩ := Option.bind_eq_some_iff.mp taken
  obtain ⟨hours_digits, -⟩ := readNumber?_eq_some_iff.mp hours_read
  obtain ⟨minutes_digits, rfl⟩ := readNumber?_eq_some_iff.mp minutes_read
  obtain ⟨seconds_digits, rfl⟩ := readNumber?_eq_some_iff.mp seconds_read
  split at taken
  · cases taken
  · next within =>
    have digits : fraction.all isDigit = true := by
      cases all : fraction.all isDigit with
      | true => rfl
      | false => exact absurd (.inr (.inr (by rw [all]; rfl))) within
    have minutes_below : valueOf minutes < 60 := by omega
    have seconds_below : valueOf seconds < 60 := by omega
    exact ⟨hours_digits, ⟨minutes_digits.some_digit, minutes_digits.digits, minutes_below⟩,
      ⟨seconds_digits.some_digit, seconds_digits.digits, seconds_below⟩,
      List.all_eq_true.mp digits⟩

end Fields

/-- No character of a text of parts is a blank. -/
theorem ClockText.unblank_secondsChars (t : ClockText) :
    ∀ c ∈ t.secondsChars, Text.isBlank c = false := by
  intro c mem
  have second : c ∈ t.seconds → Text.isBlank c = false :=
    fun mem => Text.isBlank_of_isDigit (t.seconds_below.digits c mem)
  have digits := t.fraction_digits
  rw [secondsChars] at mem
  cases fraction : t.fraction with
  | none =>
    rw [fraction] at mem
    exact second mem
  | some ds =>
    rw [fraction] at mem
    rcases List.mem_append.mp mem with mem | mem
    · exact second mem
    · rcases List.mem_cons.mp mem with rfl | mem
      · rfl
      · exact Text.isBlank_of_isDigit (digits ds fraction c mem)

theorem ClockText.unblank_chars (t : ClockText) : ∀ c ∈ t.chars, Text.isBlank c = false := by
  intro c mem
  simp only [chars, List.mem_append, List.mem_cons] at mem
  rcases mem with (sign | hour) | rfl | minute | rfl | rest
  · split at sign
    · rw [List.mem_singleton.mp sign]
      rfl
    · cases sign
  · exact Text.isBlank_of_isDigit (t.hours_below.digits c hour)
  · rfl
  · exact Text.isBlank_of_isDigit (t.minutes_below.digits c minute)
  · rfl
  · exact t.unblank_secondsChars c rest

/-- The text of parts is read as the length that it tells. -/
theorem read?_chars (t : ClockText) : read? t.chars = some (ofNanos t.nanos) := by
  have h := t.hours_below
  have m := t.minutes_below
  have s := t.seconds_below
  have cut : (Text.cutFirst (· == '.') t.secondsChars).getD (t.secondsChars, []) =
      (t.seconds, t.fraction.getD []) := by
    have pointless : ∀ d ∈ t.seconds, (d == '.') = false :=
      fun d mem => Text.ne_of_isDigit (s.digits d mem) rfl
    rw [ClockText.secondsChars]
    cases t.fraction with
    | none => rw [Text.cutFirst_eq_none pointless]; rfl
    | some ds => rw [Text.cutFirst_append pointless rfl]; rfl
  have digits : ∀ c ∈ t.fraction.getD [], isDigit c = true := by
    cases fraction : t.fraction with
    | none => exact List.forall_mem_nil _
    | some ds => exact t.fraction_digits ds fraction
  have read := read?_cut t.negative h.some_digit h.digits m.digits t.unblank_secondsChars
  rw [cut] at read
  rw [ClockText.chars, read]
  dsimp only
  rw [ofFields?_digits t.negative h m s digits, readFraction_eq_fractionNanos]
  congr 2

private theorem colon_append {s a b : List Char} (cut : Text.cutFirst (· == ':') s = some (a, b)) :
    s = a ++ ':' :: b := by
  obtain ⟨c, rfl, here⟩ := Text.eq_of_cutFirst cut
  rw [eq_of_beq here]

/-- The text of parts is read whatever blanks are around it. -/
theorem read?_surrounds {s : List Char} {t : ClockText} (text : Text.Surrounds s t.chars) :
    read? s = some (ofNanos t.nanos) := by
  have trimmed := Text.trim_of_surrounds text t.unblank_chars
  have same : read? s = read? t.chars := by
    rw [read?, read?, trimmed, Text.trim_eq_self t.unblank_chars]
  rw [same, read?_chars]

/-- What is read is the text of parts. -/
theorem exists_clockText {s : List Char} {i : Interval} (read : read? s = some i) :
    ∃ t : ClockText, t.chars = Text.trim s := by
  rw [read?] at read
  split at read
  next negative unsigned sign =>
  have signed : Text.trim s = (if negative then ['-'] else []) ++ unsigned := by
    split at sign
    · next minus =>
      cases sign
      exact minus
    · cases sign
      rfl
  split at read
  · cases read
  · next hours behind hours_cut =>
    split at read
    · cases read
    · next minutes rest minutes_cut =>
      have shape : Text.trim s =
          (if negative then ['-'] else []) ++ hours ++ ':' :: (minutes ++ ':' :: rest) := by
        rw [signed, colon_append hours_cut, colon_append minutes_cut, List.append_assoc]
      obtain ⟨h, m, s, f⟩ := digits_of_ofFields? read
      cases point : Text.cutFirst (· == '.') rest with
      | none =>
        rw [point] at s
        refine ⟨⟨negative, hours, minutes, rest, none, h, m, s, ?_⟩, shape.symm⟩
        rintro ds ⟨⟩
      | some parts =>
        obtain ⟨seconds, fraction⟩ := parts
        rw [point] at s f
        obtain ⟨c, rfl, here⟩ := Text.eq_of_cutFirst point
        rw [eq_of_beq here] at shape
        refine ⟨⟨negative, hours, minutes, seconds, some fraction, h, m, s, ?_⟩, shape.symm⟩
        rintro ds ⟨⟩
        exact f

/-! ### Lengths -/

theorem ClockText.nanos_natAbs_lt (t : ClockText) : t.nanos.natAbs < 2 ^ 63 * 3600000000000 := by
  have h := t.hours_below.below
  have m := t.minutes_below.below
  have s := t.seconds_below.below
  have fraction : fractionNanos (t.fraction.getD []) < nanosInSecond := by
    refine fractionNanos_lt ?_
    cases fraction : t.fraction with
    | none => exact List.forall_mem_nil _
    | some ds => exact t.fraction_digits ds fraction
  have magnitude : t.magnitude < 2 ^ 63 * 3600000000000 := by
    simp only [ClockText.magnitude, nanosInSecond] at fraction ⊢
    omega
  have length : t.nanos.natAbs = t.magnitude := by
    rw [ClockText.nanos]
    split <;> omega
  rwa [length]

/-- A text is read exactly if it is that of parts with blanks around it, if any, and as the interval
of the length that the parts tell, whole days apart. The reading does the same on words of fixed
widths, where it never stops. -/
theorem exactly_clock_texts_read (s : String) :
    ((∃ i, Kind.readInterval s = .ok i) ↔
      ∃ t : ClockText, Text.Surrounds s.toList t.chars) ∧
    (∀ t : ClockText, Text.Surrounds s.toList t.chars →
      ∃ i, Kind.readInterval s = .ok i ∧ i.DaysApart ∧ i.totalNanos = t.nanos) ∧
    readOnWords s.toList = .ok (read? s.toList) := by
  have taken {t : ClockText} (text : Text.Surrounds s.toList t.chars) :
      Kind.readInterval s = .ok (ofNanos t.nanos) := by
    rw [Kind.readInterval, read?_surrounds text]
  refine ⟨⟨?_, ?_⟩, ?_, readOnWords_eq s.toList⟩
  · rintro ⟨i, read⟩
    rw [Kind.readInterval] at read
    split at read
    · next found =>
      obtain ⟨t, text⟩ := exists_clockText found
      exact ⟨t, text ▸ Text.surrounds_trim s.toList⟩
    · cases read
  · rintro ⟨t, text⟩
    exact ⟨_, taken text⟩
  · intro t text
    obtain ⟨low, high⟩ := days_within t.nanos_natAbs_lt
    exact ⟨_, taken text, daysApart_ofNanos low high, totalNanos_ofNanos low high⟩

/-- A day, an hour and a minute back, and less than two billionths of a second. -/
def backText : ClockText where
  negative := true
  hours := "25".toList
  minutes := "0000000000000000000001".toList
  seconds := "0".toList
  fraction := some "0000000019".toList
  hours_below := ⟨by decide, List.all_eq_true.mp (by decide), by decide⟩
  minutes_below := ⟨by decide, List.all_eq_true.mp (by decide), by decide⟩
  seconds_below := ⟨by decide, List.all_eq_true.mp (by decide), by decide⟩
  fraction_digits := by
    rintro ds ⟨⟩
    exact List.all_eq_true.mp (by decide)

theorem back_text_read :
    ∃ i, Kind.readInterval "\t-25:0000000000000000000001:0.0000000019 " = .ok i ∧ i.DaysApart ∧
      i.totalNanos = -90060000000001 := by
  have text : Text.Surrounds "\t-25:0000000000000000000001:0.0000000019 ".toList backText.chars :=
    ⟨['\t'], [' '], List.all_eq_true.mp (by decide), List.all_eq_true.mp (by decide), by decide⟩
  have nanos : backText.nanos = -90060000000001 := by decide
  rw [← nanos]
  exact (exactly_clock_texts_read _).2.1 backText text

end TableAccess.Interval
