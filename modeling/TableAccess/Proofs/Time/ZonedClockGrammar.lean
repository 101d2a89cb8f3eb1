import TableAccess.Proofs.Time.ClockGrammar
import TableAccess.Value.FieldType

/-!
Times of day with an offset and their texts.

A text is read exactly if it is that of a time of day, a sign, and hours with minutes or without,
whatever blanks are around. The sign is the last one of the text, since behind it there are digits
and a colon only, and it counts for the hours and the minutes. What is written of a time of day with
an offset is read back without what lies below a second and below a minute of the offset.
-/

set_option autoImplicit false
set_option relaxedAutoImplicit false

namespace TableAccess

theorem Offset.hours_lt (o : Offset) : o.hours < 26 := by
  have low := o.seconds_ge
  have high := o.seconds_le
  rw [hours]
  omega

namespace ZonedClock

open Text (isDigit valueOf)
open TableAccess.Interval (DigitsBelow digitsBelow_padded)
open TimeReading (twoDigits_padded)

/-! ### Offsets -/

/-- The parts of a text of an offset, with its sign. -/
structure OffsetText where
  negative : Bool
  hours : List Char
  minutes : Option (List Char)
  hours_below : DigitsBelow 26 hours
  minutes_below : ∀ ds ∈ minutes, DigitsBelow 60 ds

namespace OffsetText

def sign (t : OffsetText) : Char := if t.negative then '-' else '+'

/-- The hours, with a colon and minutes if there are any. -/
def unsigned (t : OffsetText) : List Char :=
  match t.minutes with
  | none => t.hours
  | some ds => t.hours ++ ':' :: ds

/-- The seconds that the text tells, without their sign. -/
def magnitude (t : OffsetText) : Nat :=
  valueOf t.hours * 3600 + valueOf (t.minutes.getD []) * 60

/-- The seconds that the text tells. -/
def seconds (t : OffsetText) : Int := if t.negative then -t.magnitude else t.magnitude

theorem minutes_lt (t : OffsetText) : valueOf (t.minutes.getD []) < 60 := by
  cases minutes : t.minutes with
  | none => decide
  | some ds => exact (t.minutes_below ds minutes).below

theorem seconds_natAbs_le (t : OffsetText) : t.seconds.natAbs ≤ 93599 := by
  have h := t.hours_below.below
  have m := t.minutes_lt
  have length : t.seconds.natAbs = t.magnitude := by
    rw [seconds]
    split <;> omega
  rw [length, magnitude]
  omega

/-- The offset that the text tells. -/
def value (t : OffsetText) : Offset :=
  ⟨t.seconds, by have := t.seconds_natAbs_le; omega, by have := t.seconds_natAbs_le; omega⟩

theorem mem_unsigned {t : OffsetText} {c : Char} (mem : c ∈ t.unsigned) :
    isDigit c = true ∨ c = ':' := by
  have hour : c ∈ t.hours → isDigit c = true := fun mem => t.hours_below.digits c mem
  have minutes_below := t.minutes_below
  rw [unsigned] at mem
  cases minutes : t.minutes with
  | none =>
    rw [minutes] at mem
    exact .inl (hour mem)
  | some ds =>
    rw [minutes] at mem
    rcases List.mem_append.mp mem with mem | mem
    · exact .inl (hour mem)
    · rcases List.mem_cons.mp mem with rfl | mem
      · exact .inr rfl
      · exact .inl ((minutes_below ds minutes).digits c mem)

end OffsetText

theorem isSign_of_isDigit {c : Char} (digit : isDigit c = true) : isSign c = false := by
  obtain ⟨plus, minus⟩ := IntegerRange.unsigned_of_isDigit digit
  rw [isSign, beq_eq_false_iff_ne.mpr plus, beq_eq_false_iff_ne.mpr minus]
  rfl

/-- Without a sign, exactly rows of digits of 7 bits are taken for a part of an offset. -/
theorem readOffsetPart_eq_ok_iff {ds : List Char} {n : Int}
    (unsigned : ∀ c ∈ ds, isSign c = false) :
    readOffsetPart ds = .ok n ↔ DigitsBelow 128 ds ∧ n = (valueOf ds : Nat) := by
  have zero : (IntegerRange.signed 8).Contains 0 := by decide
  have range : (IntegerRange.signed 8).Contains (valueOf ds : Nat) ↔ valueOf ds < 128 := by
    simp only [IntegerRange.Contains, IntegerRange.signed]
    omega
  have signless : ∀ c ∈ ds, c ≠ '+' ∧ c ≠ '-' := by
    intro c mem
    have neither := unsigned c mem
    rw [isSign, Bool.or_eq_false_iff, beq_eq_false_iff_ne, beq_eq_false_iff_ne] at neither
    exact neither
  have taken : readOffsetPart ds = .ok n ↔ (IntegerRange.signed 8).read ds = .ok n := by
    rw [readOffsetPart]
    cases (IntegerRange.signed 8).read ds with
    | error e => constructor <;> intro same <;> cases same
    | ok m => rw [Except.ok.injEq, Except.ok.injEq]
  rw [taken, IntegerRange.read_eq_ok_iff zero signless, range]
  constructor
  · rintro ⟨some_digit, digits, below, value⟩
    exact ⟨⟨some_digit, digits, below⟩, value⟩
  · rintro ⟨⟨some_digit, digits, below⟩, value⟩
    exact ⟨some_digit, digits, below, value⟩

theorem offsetOf_eq_ok_iff {negative : Bool} {hours minutes : Nat} {o : Offset} :
    offsetOf negative hours minutes = .ok o ↔
      hours < 26 ∧ minutes < 60 ∧
        o.seconds = if negative then -((hours * 3600 + minutes * 60 : Nat) : Int)
          else (hours * 3600 + minutes * 60 : Nat) := by
  rw [offsetOf]
  split
  · exact ⟨nofun, fun ⟨_, _, _⟩ => by omega⟩
  · split
    · exact ⟨nofun, fun ⟨_, _, _⟩ => by omega⟩
    · next hours_within minutes_within =>
      have h : hours < 26 := by omega
      have m : minutes < 60 := by omega
      dsimp only
      obtain ⟨k, k_eq⟩ : ∃ k : Int, k = if negative then -((hours : Int) * 3600 + minutes * 60)
        else hours * 3600 + minutes * 60 := ⟨_, rfl⟩
      have low : -93599 ≤ k := by split at k_eq <;> omega
      have high : k ≤ 93599 := by split at k_eq <;> omega
      have taken : Offset.ofSeconds? k = some ⟨k, low, high⟩ := dif_pos ⟨low, high⟩
      simp only [Int.natCast_add, Int.natCast_mul, Int.cast_ofNat_Int]
      rw [← k_eq, taken]
      constructor
      · rintro ⟨⟩
        exact ⟨h, m, rfl⟩
      · rintro ⟨-, -, same⟩
        exact congrArg Except.ok (Offset.eq_of_seconds same.symm)

/-- The text of parts without its sign is taken for the offset that they tell. -/
theorem readOffset_unsigned (t : OffsetText) : readOffset t.negative t.unsigned = .ok t.value := by
  have part {ds : List Char} {bound : Nat} (h : DigitsBelow bound ds) (low : bound ≤ 128) :
      readOffsetPart ds = .ok (valueOf ds : Nat) :=
    (readOffsetPart_eq_ok_iff fun c mem => isSign_of_isDigit (h.digits c mem)).mpr
      ⟨{ h with below := Nat.lt_of_lt_of_le h.below low }, rfl⟩
  have colonless : ∀ c ∈ t.hours, (c == ':') = false :=
    fun c mem => Text.ne_of_isDigit (t.hours_below.digits c mem) rfl
  have hours := part t.hours_below (by decide)
  have whole : offsetOf t.negative (valueOf t.hours : Nat) (valueOf (t.minutes.getD []) : Nat) =
      .ok t.value :=
    offsetOf_eq_ok_iff.mpr ⟨t.hours_below.below, t.minutes_lt, rfl⟩
  rw [OffsetText.unsigned]
  cases minutes : t.minutes with
  | none =>
    dsimp only
    rw [minutes] at whole
    rw [readOffset, Text.cutFirst_eq_none colonless]
    dsimp only
    rw [hours]
    exact whole
  | some ds =>
    dsimp only
    rw [minutes] at whole
    rw [readOffset, Text.cutFirst_append colonless rfl ds]
    dsimp only
    rw [hours, part (t.minutes_below ds minutes) (by decide)]
    exact whole

/-- What is taken for an offset without a sign in it is the text of parts. -/
theorem exists_offsetText {negative : Bool} {s : List Char} {o : Offset}
    (signless : ∀ c ∈ s, isSign c = false) (read : readOffset negative s = .ok o) :
    ∃ t : OffsetText, t.negative = negative ∧ s = t.unsigned ∧ o = t.value := by
  rw [readOffset] at read
  split at read
  · next hours minutes cut =>
    obtain ⟨c, rfl, here⟩ := Text.eq_of_cutFirst cut
    rw [eq_of_beq here] at signless ⊢
    obtain ⟨hours_signless, behind⟩ := List.forall_mem_append.mp signless
    obtain ⟨-, minutes_signless⟩ := List.forall_mem_cons.mp behind
    obtain ⟨h, hours_read, read⟩ := bind_eq_ok_iff.mp read
    obtain ⟨m, minutes_read, read⟩ := bind_eq_ok_iff.mp read
    obtain ⟨hours_digits, rfl⟩ := (readOffsetPart_eq_ok_iff hours_signless).mp hours_read
    obtain ⟨minutes_digits, rfl⟩ := (readOffsetPart_eq_ok_iff minutes_signless).mp minutes_read
    obtain ⟨h, m, same⟩ := offsetOf_eq_ok_iff.mp read
    refine ⟨⟨negative, hours, some minutes, { hours_digits with below := h }, ?_⟩, rfl, rfl,
      Offset.eq_of_seconds same⟩
    rintro ds ⟨⟩
    exact { minutes_digits with below := m }
  · obtain ⟨h, hours_read, read⟩ := bind_eq_ok_iff.mp read
    obtain ⟨hours_digits, rfl⟩ := (readOffsetPart_eq_ok_iff signless).mp hours_read
    have hours_only : offsetOf negative (valueOf s : Nat) (0 : Nat) = .ok o := read
    obtain ⟨h, -, same⟩ := offsetOf_eq_ok_iff.mp hours_only
    exact ⟨⟨negative, s, none, { hours_digits with below := h }, nofun⟩, rfl, rfl,
      Offset.eq_of_seconds same⟩

/-! ### Texts -/

/-- The parts of a text of a time of day with an offset. -/
structure ClockText where
  clock : TimeOfDay.ClockText
  offset : OffsetText

namespace ClockText

def chars (t : ClockText) : List Char := t.clock.chars ++ t.offset.sign :: t.offset.unsigned

/-- The time of day and the offset that the text tells. -/
def value (t : ClockText) : ZonedClock := ⟨t.clock.value, t.offset.value⟩

theorem unblank_chars (t : ClockText) : ∀ c ∈ t.chars, Text.isBlank c = false := by
  intro c mem
  rcases List.mem_append.mp mem with clock | offset
  · rcases TimeOfDay.ClockText.mem_chars clock with digit | rfl | rfl
    · exact Text.isBlank_of_isDigit digit
    · rfl
    · rfl
  · rcases List.mem_cons.mp offset with rfl | rest
    · rw [OffsetText.sign]
      split <;> rfl
    · rcases OffsetText.mem_unsigned rest with digit | rfl
      · exact Text.isBlank_of_isDigit digit
      · rfl

end ClockText

/-- The text of parts is read whatever blanks are around it. It is cut at its sign. -/
theorem read_surrounds {s : List Char} {t : ClockText} (text : Text.Surrounds s t.chars) :
    read s = .ok t.value := by
  have trimmed := Text.trim_of_surrounds text t.unblank_chars
  have signless : ∀ c ∈ t.offset.unsigned, isSign c = false := by
    intro c mem
    rcases OffsetText.mem_unsigned mem with digit | rfl
    · exact isSign_of_isDigit digit
    · rfl
  have signed : isSign t.offset.sign = true := by
    rw [OffsetText.sign]
    split <;> rfl
  have negative : (t.offset.sign == '-') = t.offset.negative := by
    rw [OffsetText.sign]
    cases t.offset.negative <;> rfl
  have cut : Text.cutLast isSign t.chars = some (t.clock.chars, t.offset.sign, t.offset.unsigned) :=
    Text.cutLast_append signed signless _
  have clock := TimeOfDay.read_eq_ok_iff.mpr ⟨t.clock, rfl, rfl⟩
  rw [read, trimmed, cut]
  dsimp only
  rw [clock, negative, readOffset_unsigned]
  rfl

/-- What is read is the text of parts, and read as what they tell. -/
theorem exists_clockText {s : List Char} {t : ZonedClock} (taken : read s = .ok t) :
    ∃ c : ClockText, Text.trim s = c.chars ∧ t = c.value := by
  rw [read] at taken
  split at taken
  · cases taken
  · next clock sign rest cut =>
    split at taken
    · cases taken
    · next time clock_read =>
      split at taken
      · cases taken
      · next offset offset_read =>
        cases taken
        obtain ⟨shape, signed⟩ := Text.eq_of_cutLast cut
        obtain ⟨c, rfl, rfl⟩ := TimeOfDay.read_eq_ok_iff.mp clock_read
        obtain ⟨o, negative, rfl, rfl⟩ := exists_offsetText (Text.behind_cutLast cut) offset_read
        have sign_eq : sign = o.sign := by
          rw [isSign, Bool.or_eq_true, beq_iff_eq, beq_iff_eq] at signed
          rw [OffsetText.sign, negative]
          rcases signed with rfl | rfl <;> rfl
        exact ⟨⟨c, o⟩, by rw [ClockText.chars, ← sign_eq, ← shape], rfl⟩

/-! ### The text of a time of day with an offset -/

/-- The parts that the text of a time of day with an offset is put together from. -/
def textParts (t : ZonedClock) : ClockText where
  clock :=
    { hours := Text.padded 2 t.time.hour
      minutes := Text.padded 2 t.time.minute
      seconds := Text.padded 2 t.time.second
      fraction := none
      hours_below := twoDigits_padded t.time.hour_lt (by decide)
      minutes_below := twoDigits_padded (Nat.mod_lt _ (by decide)) (by decide)
      seconds_below := twoDigits_padded (Nat.mod_lt _ (by decide)) (by decide)
      fraction_digits := nofun }
  offset :=
    { negative := decide (t.offset.seconds < 0)
      hours := Text.padded 2 t.offset.hours
      minutes := some (Text.padded 2 t.offset.minutes)
      hours_below := digitsBelow_padded 2 t.offset.hours_lt
      minutes_below := by
        rintro ds ⟨⟩
        exact digitsBelow_padded 2 (Nat.mod_lt _ (by decide)) }

theorem chars_textParts (t : ZonedClock) : t.textParts.chars = t.chars := by
  simp only [textParts, ClockText.chars, TimeOfDay.ClockText.chars, TimeReading.fractionChars,
    OffsetText.sign, OffsetText.unsigned, chars, TimeOfDay.clockText, Offset.sign,
    decide_eq_true_eq, List.append_assoc, List.cons_append, List.append_nil]

/-- The text tells the whole seconds of the time of day. -/
theorem nanos_textParts (t : ZonedClock) :
    t.textParts.clock.nanos = t.time.nanos / nanosInSecond * nanosInSecond := by
  have fractionless : Interval.fractionNanos [] = 0 := rfl
  simp only [textParts, TimeOfDay.ClockText.nanos, Text.valueOf_padded, Option.getD_none,
    fractionless, TimeOfDay.hour, TimeOfDay.minute, TimeOfDay.second, nanosInSecond]
  omega

/-- The text tells the whole minutes of the offset, toward zero. -/
theorem seconds_textParts (t : ZonedClock) :
    t.textParts.offset.seconds = t.offset.seconds.tdiv 60 * 60 := by
  have quotient : t.offset.seconds.tdiv 60 =
      t.offset.seconds / 60 + if 0 ≤ t.offset.seconds ∨ 60 ∣ t.offset.seconds then 0 else 1 :=
    Int.tdiv_eq_ediv
  simp only [textParts, OffsetText.seconds, OffsetText.magnitude, Option.getD_some,
    Text.valueOf_padded, Offset.hours, Offset.minutes, decide_eq_true_eq, quotient]
  split <;> split <;> omega

/-- The text of a time of day with an offset is read as its parts. -/
theorem readZonedClock_text (t : ZonedClock) :
    Kind.readZonedClock t.text = .ok t.textParts.value := by
  have surrounds : Text.Surrounds t.text.toList t.textParts.chars := by
    rw [chars_textParts, text, String.toList_ofList]
    exact ⟨[], [], List.forall_mem_nil _, List.forall_mem_nil _, by simp⟩
  rw [Kind.readZonedClock, read_surrounds surrounds]

/-- A text is read exactly if it is that of parts with blanks around it, if any, and as what the
parts tell. The text of a time of day with an offset is read as its whole seconds and the whole
minutes of its offset, toward zero, and so as itself if there is nothing below them. -/
theorem zoned_texts_keep_minutes :
    (∀ (s : String) (t : ZonedClock), Kind.readZonedClock s = .ok t ↔
      ∃ c : ClockText, Text.Surrounds s.toList c.chars ∧ t = c.value) ∧
    (∀ t : ZonedClock, ∃ u, Kind.readZonedClock t.text = .ok u ∧
      u.time.nanos = t.time.nanos / nanosInSecond * nanosInSecond ∧
      u.offset.seconds = t.offset.seconds.tdiv 60 * 60) ∧
    (∀ t : ZonedClock, nanosInSecond ∣ t.time.nanos → 60 ∣ t.offset.seconds →
      Kind.readZonedClock t.text = .ok t) := by
  refine ⟨fun s t => ?_, fun t => ?_, fun t whole_seconds whole_minutes => ?_⟩
  · constructor
    · intro taken
      rw [Kind.readZonedClock] at taken
      split at taken
      · next found =>
        cases taken
        obtain ⟨c, shape, value⟩ := exists_clockText found
        exact ⟨c, shape ▸ Text.surrounds_trim s.toList, value⟩
      · cases taken
    · rintro ⟨c, surrounds, rfl⟩
      rw [Kind.readZonedClock, read_surrounds surrounds]
  · exact ⟨_, readZonedClock_text t, nanos_textParts t, seconds_textParts t⟩
  · have time : t.textParts.clock.value = t.time :=
      TimeOfDay.eq_of_nanos ((nanos_textParts t).trans (Nat.div_mul_cancel whole_seconds))
    have offset : t.textParts.offset.value = t.offset :=
      Offset.eq_of_seconds ((seconds_textParts t).trans (Int.tdiv_mul_cancel whole_minutes))
    rw [readZonedClock_text, ClockText.value, time, offset]

/-- Half a second before midnight, with less than a minute back. -/
def barelyBack : ZonedClock :=
  ⟨⟨86399500000000, by decide⟩, ⟨-59, by decide, by decide⟩⟩

/-- Ten in the morning, with half an hour back. -/
def halfHourBack : ZonedClock :=
  ⟨⟨36000000000000, by decide⟩, ⟨-1800, by decide, by decide⟩⟩

/-- Half an hour back from ten in the morning, in more digits than are written. -/
def halfHourBackText : ClockText where
  clock :=
    { hours := "10".toList
      minutes := "00".toList
      seconds := "00".toList
      fraction := some "0000000009".toList
      hours_below := ⟨by decide, List.all_eq_true.mp (by decide), by decide⟩
      minutes_below := ⟨by decide, List.all_eq_true.mp (by decide), by decide⟩
      seconds_below := ⟨by decide, List.all_eq_true.mp (by decide), by decide⟩
      fraction_digits := by
        rintro ds ⟨⟩
        exact ⟨by decide, List.all_eq_true.mp (by decide)⟩ }
  offset :=
    { negative := true
      hours := "0".toList
      minutes := some "0030".toList
      hours_below := ⟨by decide, List.all_eq_true.mp (by decide), by decide⟩
      minutes_below := by
        rintro ds ⟨⟩
        exact ⟨by decide, List.all_eq_true.mp (by decide), by decide⟩ }

theorem halfHourBack_texts_read :
    Kind.readZonedClock "\t10:00:00.0000000009-0:0030 " = .ok halfHourBack ∧
    Kind.readZonedClock halfHourBack.text = .ok halfHourBack ∧
    ∃ u, Kind.readZonedClock barelyBack.text = .ok u ∧
      u.time.nanos = 86399000000000 ∧ u.offset = .utc := by
  obtain ⟨grammar, truncated, whole⟩ := zoned_texts_keep_minutes
  have blanks : Text.Surrounds "\t10:00:00.0000000009-0:0030 ".toList halfHourBackText.chars :=
    ⟨['\t'], [' '], List.all_eq_true.mp (by decide), List.all_eq_true.mp (by decide), by decide⟩
  obtain ⟨u, read, seconds, minutes⟩ := truncated barelyBack
  have utc : u.offset = .utc := Offset.eq_of_seconds minutes
  refine ⟨(grammar _ _).mpr ⟨halfHourBackText, blanks, by decide⟩,
    whole halfHourBack (by decide) (by decide), u, read, seconds, utc⟩

end ZonedClock

end TableAccess
