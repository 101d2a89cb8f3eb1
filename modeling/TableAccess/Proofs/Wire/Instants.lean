import TableAccess.Proofs.Wire.Words
import TableAccess.Wire.Encode

/-!
Intervals and times of day with an offset on the wire.

Bytes of their width are read and written back as they were, as long as they stand for a time and
an offset. What is written and read back only loses what lies below a microsecond.
-/

set_option autoImplicit false
set_option relaxedAutoImplicit false

namespace TableAccess

open Wire

/-! ### Whole microseconds -/

/-- The interval without what lies below a microsecond. -/
def Interval.truncated (i : Interval) : Interval := { i with nanos := i.micros * 1000 }

/-- The time of day without what lies below a microsecond. -/
def TimeOfDay.truncated (t : TimeOfDay) : TimeOfDay := .ofNanos (t.micros * 1000)

/-- The time of day and the offset without what lies below a microsecond. -/
def ZonedClock.truncated (t : ZonedClock) : ZonedClock := { t with time := t.time.truncated }

theorem TimeOfDay.micros_lt (t : TimeOfDay) : t.micros < microsInDay := by
  have bound := t.nanos_lt
  simp only [micros, nanosInDay, microsInDay] at bound ⊢
  omega

/-- A number of microseconds within the day is that of its time of day. -/
theorem TimeOfDay.micros_ofNanos {micros : Int} (start : 0 ≤ micros) (stop : micros < microsInDay) :
    ((ofNanos (micros * 1000)).micros : Int) = micros := by
  have nanos := nanos_ofNanos (micros * 1000)
  simp only [TimeOfDay.micros, nanosInDay, microsInDay] at nanos stop ⊢
  omega

/-- Offsets are whole seconds, so it does not matter where the microseconds are cut off. -/
theorem ZonedClock.toUtc_truncated (t : ZonedClock) : t.truncated.toUtc = t.toUtc.truncated := by
  refine TimeOfDay.ofNanos_eq ?_
  -- Both sides are remainders by the length of the day, which is whole microseconds itself.
  have here := TimeOfDay.nanos_ofNanos (t.time.micros * 1000)
  have utc := TimeOfDay.nanos_ofNanos (t.time.nanos - t.offset.seconds * nanosInSecond)
  have cut := TimeOfDay.nanos_ofNanos (t.toUtc.micros * 1000)
  simp only [truncated, TimeOfDay.truncated, toUtc, TimeOfDay.micros, nanosInDay, nanosInSecond]
    at here utc cut ⊢
  omega

/-! ### Intervals -/

/-- The interval of three words. -/
private theorem ofImage_words {micros days months : List UInt8} (eight : micros.length = 8)
    (four : days.length = 4) (last : months.length = 4) :
    Interval.ofImage (micros ++ (days ++ months)) = .ok ⟨Int64.ofInt (intOfBytes months),
      Int64.ofInt (intOfBytes days), intOfBytes micros * 1000⟩ := by
  simp only [Interval.ofImage, takeInt_append eight, takeInt_append four, takeInt_word last]

/-- No days are carried from microseconds that fit into their word. -/
theorem Interval.carriedDays_of_fits {i : Interval} (micros : Fits 64 i.micros) :
    i.carriedDays = i.days.toInt := by
  rw [carriedDays, clamp_of_fits micros, Int.sub_self, Int.zero_tdiv, Int.add_zero]

/-- The words of an interval whose parts fit into them. -/
private theorem image_of_fits {i : Interval} (months : Fits 32 i.months.toInt)
    (days : Fits 32 i.days.toInt) (micros : Fits 64 i.micros) :
    i.image = bytesOfInt 8 i.micros ++ (bytesOfInt 4 i.days.toInt ++
      bytesOfInt 4 i.months.toInt) := by
  rw [Interval.image, Interval.carriedDays_of_fits micros, clamp_of_fits months,
    clamp_of_fits days, clamp_of_fits micros, List.append_assoc]

/-- The interval as its words tell it: months, days and microseconds that do not fit into their
words are cut off, after whole days of the microseconds have been carried. -/
def Interval.cut (i : Interval) : Interval :=
  ⟨Int64.ofInt (clamp 32 i.months.toInt), Int64.ofInt (clamp 32 i.carriedDays),
    clamp 64 i.micros * 1000⟩

theorem Interval.ofImage_image_cut (i : Interval) : Interval.ofImage i.image = .ok i.cut := by
  rw [image, List.append_assoc, ofImage_words (length_bytesOfInt _ _) (length_bytesOfInt _ _)
    (length_bytesOfInt _ _), intOfBytes_bytesOfInt (by decide) (fits_clamp 32 _),
    intOfBytes_bytesOfInt (by decide) (fits_clamp 32 _),
    intOfBytes_bytesOfInt (by decide) (fits_clamp 64 _)]
  rfl

theorem Interval.ofImage_image {i : Interval} (months : Fits 32 i.months.toInt)
    (days : Fits 32 i.days.toInt) (micros : Fits 64 i.micros) :
    Interval.ofImage i.image = .ok i.truncated := by
  rw [ofImage_image_cut, cut, carriedDays_of_fits micros, clamp_of_fits months, clamp_of_fits days,
    clamp_of_fits micros, Int64.ofInt_toInt, Int64.ofInt_toInt]
  rfl

theorem Interval.image_ofImage {bytes : List UInt8} (length : bytes.length = 16) :
    ∃ i, Interval.ofImage bytes = .ok i ∧ i.image = bytes := by
  obtain ⟨micros, others, rfl, eight, others_length⟩ := exists_word 8 8 length
  obtain ⟨days, months, rfl, four, last⟩ := exists_word 4 4 others_length
  have fits_micros := fits_intOfBytes (by decide) eight
  have fits_days := fits_intOfBytes (by decide) four
  have fits_months := fits_intOfBytes (by decide) last
  refine ⟨_, ofImage_words eight four last, ?_⟩
  have micros_eq : (intOfBytes micros * 1000).tdiv 1000 = intOfBytes micros :=
    Int.mul_tdiv_cancel _ (by decide)
  have days_eq := toInt_ofInt_of_fits fits_days
  have months_eq := toInt_ofInt_of_fits fits_months
  rw [image_of_fits (by rwa [months_eq]) (by rwa [days_eq]) (by rwa [Interval.micros, micros_eq]),
    Interval.micros, micros_eq, days_eq, months_eq, bytesOfInt_intOfBytes eight,
    bytesOfInt_intOfBytes four, bytesOfInt_intOfBytes last]

/-! ### Times of day with an offset -/

/-- The time of day and the offset of two words. -/
private theorem ofImage_clock {micros west : List UInt8} (eight : micros.length = 8)
    (four : west.length = 4) {offset : Offset} (seconds : offset.seconds = -intOfBytes west) :
    ZonedClock.ofImage (micros ++ west) =
      .ok ⟨TimeOfDay.ofNanos (intOfBytes micros * 1000), offset⟩ := by
  simp only [ZonedClock.ofImage, takeInt_append eight, takeInt_word four, ← seconds,
    Offset.ofSeconds?_seconds]

theorem ZonedClock.ofImage_image (t : ZonedClock) :
    ZonedClock.ofImage t.image = .ok t.truncated := by
  have time := t.time.micros_lt
  have east := t.offset.seconds_ge
  have west := t.offset.seconds_le
  have time_word : intOfBytes (bytesOfInt 8 t.time.micros) = t.time.micros := by
    refine intOfBytes_bytesOfInt (by decide) ?_
    unfold Fits
    simp only [microsInDay] at time
    omega
  have offset_word : intOfBytes (bytesOfInt 4 (-t.offset.seconds)) = -t.offset.seconds := by
    refine intOfBytes_bytesOfInt (by decide) ?_
    unfold Fits
    omega
  have seconds : t.offset.seconds = -intOfBytes (bytesOfInt 4 (-t.offset.seconds)) := by
    rw [offset_word, Int.neg_neg]
  rw [ZonedClock.image, TimeOfDay.image,
    ofImage_clock (length_bytesOfInt _ _) (length_bytesOfInt _ _) seconds, time_word]
  rfl

theorem ZonedClock.image_ofImage {micros west : List UInt8} (eight : micros.length = 8)
    (four : west.length = 4) (start : 0 ≤ intOfBytes micros)
    (stop : intOfBytes micros < microsInDay) (low : -93599 ≤ intOfBytes west)
    (high : intOfBytes west ≤ 93599) :
    ∃ t, ZonedClock.ofImage (micros ++ west) = .ok t ∧ t.image = micros ++ west := by
  let offset : Offset := ⟨-intOfBytes west, by omega, by omega⟩
  have seconds : offset.seconds = -intOfBytes west := rfl
  refine ⟨_, ofImage_clock eight four seconds, ?_⟩
  rw [ZonedClock.image, TimeOfDay.image, TimeOfDay.micros_ofNanos start stop, Int.neg_neg,
    bytesOfInt_intOfBytes eight, bytesOfInt_intOfBytes four]

/-! ### Values -/

namespace Wire

/-- The value that bytes of a type are decoded to is encoded to the same bytes. -/
def Reproduced (t : SqlType) (bytes : List UInt8) : Prop :=
  ∃ v, decode t (some bytes) = .ok v ∧ encode t v = .ok (some bytes)

/-- A value of a type is encoded to bytes that are decoded to another one. -/
def Returns (t : SqlType) (v w : Value) : Prop :=
  ∃ bytes, encode t v = .ok (some bytes) ∧ decode t (some bytes) = .ok w

/-- The words of intervals and of times of day with an offset are inverted: every interval of 16
bytes and every time of 12 bytes within the day and the offsets is encoded to the bytes that it was
decoded from, and an interval that fits its words and every time with its offset only lose what
lies below a microsecond. -/
theorem interval_timetz_inverted :
    (∀ bytes, bytes.length = 16 → Reproduced (.scalar .interval) bytes) ∧
    (∀ i : Interval, Fits 32 i.months.toInt → Fits 32 i.days.toInt → Fits 64 (i.nanos.tdiv 1000) →
      Returns (.scalar .interval) (.scalar .interval (some i))
        (.scalar .interval (some i.truncated))) ∧
    (∀ bytes, bytes.length = 12 →
      0 ≤ intOfBytes (bytes.take 8) → intOfBytes (bytes.take 8) < microsInDay →
      -93599 ≤ intOfBytes (bytes.drop 8) → intOfBytes (bytes.drop 8) ≤ 93599 →
      Reproduced (.scalar .timetz) bytes) ∧
    (∀ t : ZonedClock, Returns (.scalar .timetz) (.scalar .zonedClock (some t))
        (.scalar .zonedClock (some t.truncated)) ∧
      t.truncated.toUtc = t.toUtc.truncated) := by
  refine ⟨?_, ?_, ?_, ?_⟩
  · intro bytes length
    obtain ⟨i, read, written⟩ := Interval.image_ofImage length
    refine ⟨.scalar .interval (some i), ?_, ?_⟩
    · simp only [decode, Scalar.ofImage, read]
      rfl
    · rw [← written]
      rfl
  · intro i months days micros
    refine ⟨i.image, rfl, ?_⟩
    simp only [decode, Scalar.ofImage, Interval.ofImage_image months days micros]
    rfl
  · intro bytes length start stop low high
    have eight : (bytes.take 8).length = 8 := by
      rw [List.length_take]
      omega
    have four : (bytes.drop 8).length = 4 := by
      rw [List.length_drop]
      omega
    obtain ⟨t, read, written⟩ := ZonedClock.image_ofImage eight four start stop low high
    rw [List.take_append_drop] at read written
    refine ⟨.scalar .zonedClock (some t), ?_, ?_⟩
    · simp only [decode, Scalar.ofImage, read]
      rfl
    · rw [← written]
      rfl
  · intro t
    refine ⟨⟨t.image, rfl, ?_⟩, t.toUtc_truncated⟩
    simp only [decode, Scalar.ofImage, ZonedClock.ofImage_image t]
    rfl

/-- The last microsecond of the day as far east as can be. -/
def lastImage : List UInt8 := bytesOfInt 8 86399999999 ++ bytesOfInt 4 (-93599)

theorem lastImage_reproduced : lastImage.length = 12 ∧ Reproduced (.scalar .timetz) lastImage := by
  have length : lastImage.length = 12 := by decide
  refine ⟨length, interval_timetz_inverted.2.2.1 lastImage length ?_ ?_ ?_ ?_⟩ <;> decide +kernel

end Wire

end TableAccess
