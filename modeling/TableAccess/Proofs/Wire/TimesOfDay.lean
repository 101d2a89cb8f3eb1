import TableAccess.Proofs.Time.IntervalText
import TableAccess.Proofs.Time.Lengths
import TableAccess.Proofs.Wire.Instants
import TableAccess.Proofs.Wire.Writing

/-!
The carriers of a time of day on the wire.

A time, a time with an offset, an interval and a text are written as the same microseconds since
midnight. An interval is taken for a time on the wire up to the end of the day included, and for a
time in a field up to the end of the day only.
-/

set_option autoImplicit false
set_option relaxedAutoImplicit false

namespace TableAccess

open Wire

/-! ### Texts -/

/-- The text of a time of day down to the microsecond. -/
def TimeOfDay.microsText (t : TimeOfDay) : String :=
  String.ofList (t.clockText ++ '.' :: Text.fixedDigits 6 (t.micros % 1000000))

/-- The text of a time of day is read as its microseconds. -/
theorem TimeOfDay.read?_microsText (t : TimeOfDay) :
    Interval.read? t.microsText.toList = some (.ofNanos (t.micros * 1000)) := by
  have bound := t.nanos_lt
  have hours : Interval.DigitsBelow (2 ^ 63) (Text.padded 2 t.hour) := by
    refine Interval.digitsBelow_padded 2 ?_
    simp only [hour, nanosInSecond, nanosInDay] at bound ⊢
    omega
  have minutes : Interval.DigitsBelow 60 (Text.padded 2 t.minute) :=
    Interval.digitsBelow_padded 2 (Nat.mod_lt _ (by decide))
  have seconds : Interval.DigitsBelow 60 (Text.padded 2 t.second) :=
    Interval.digitsBelow_padded 2 (Nat.mod_lt _ (by decide))
  have fraction : Interval.readFraction (Text.fixedDigits 6 (t.micros % 1000000)) =
      t.micros % 1000000 * 1000 := by
    have length := Text.length_fixedDigits 6 (t.micros % 1000000)
    have some_digit : Text.fixedDigits 6 (t.micros % 1000000) ≠ [] := by
      rw [← List.length_pos_iff, length]
      decide
    rw [Interval.readFraction_digits some_digit (by rw [length]; decide), length,
      Text.valueOf_fixedDigits, Nat.mod_mod]
  have shape : t.microsText.toList = Text.padded 2 t.hour ++ ':' :: (Text.padded 2 t.minute ++
      ':' :: (Text.padded 2 t.second ++ '.' :: Text.fixedDigits 6 (t.micros % 1000000))) := by
    simp only [microsText, clockText, String.toList_ofList, List.append_assoc, List.cons_append]
  have whole : ((t.hour * 3600 + t.minute * 60 + t.second : Int) * nanosInSecond +
      (t.micros % 1000000 * 1000 : Nat)) = t.micros * 1000 := by
    simp only [hour, minute, second, micros, nanosInSecond]
    omega
  rw [shape, Interval.read?_clock hours minutes seconds
    fun c mem => Text.isDigit_of_mem_fixedDigits mem, fraction, Text.valueOf_padded,
    Text.valueOf_padded, Text.valueOf_padded, whole]

/-! ### Intervals -/

theorem Interval.totalMicros_ofNanos {micros : Int} (start : 0 ≤ micros)
    (stop : micros ≤ microsInDay) : (ofNanos (micros * 1000)).totalMicros = micros := by
  have nanos : (ofNanos (micros * 1000)).totalNanos = micros * 1000 := by
    have days := Int.tdiv_eq_ediv_of_nonneg (b := nanosInDay) (a := micros * 1000) (by omega)
    simp only [microsInDay, nanosInDay] at days stop
    apply totalNanos_ofNanos <;> simp only [nanosInDay] <;> omega
  rw [totalMicros, nanos]
  exact Int.mul_tdiv_cancel micros (by decide)

theorem Interval.totalMicros_within {micros : Int} (start : 0 ≤ micros)
    (stop : micros ≤ microsInDay) : (ofMicros micros).totalMicros = micros := by
  have days := Int.tdiv_eq_ediv_of_nonneg (b := microsInDay) (a := micros) start
  simp only [microsInDay] at days stop
  apply totalMicros_ofMicros <;> simp only [microsInDay] <;> omega

/-- A time of day has room in words, whatever the parts it is the sum of. -/
theorem Interval.totalNanosOnWords_of_time {i : Interval} (start : 0 ≤ i.totalMicros)
    (stop : i.totalMicros ≤ microsInDay) : i.totalNanosOnWords = .ok i.totalNanos := by
  have magnitude : i.totalMicros.natAbs = i.totalNanos.natAbs / 1000 := Int.natAbs_tdiv _ _
  rw [microsInDay] at stop
  refine totalNanosOnWords_of_seconds ?_
  rw [nanosInSecond]
  omega

/-- The microseconds of a time of day are read as an interval of them. -/
theorem Interval.ofTimeImage_bytes {micros : Int} (start : 0 ≤ micros)
    (stop : micros ≤ microsInDay) :
    Interval.ofTimeImage (bytesOfInt 8 micros) = .ok (.ofMicros micros) := by
  have word : intOfBytes (bytesOfInt 8 micros) = micros := by
    refine intOfBytes_bytesOfInt (by decide) ?_
    unfold Fits
    simp only [microsInDay] at stop
    omega
  rw [Interval.ofTimeImage, takeInt_word (length_bytesOfInt 8 micros), word]
  rfl

/-! ### Values -/

namespace Wire

/-- The values that stand for a microsecond of the day in a column of times. -/
def timeCarriers (micros : Nat) (offset : Offset) : List Value :=
  let t := TimeOfDay.ofNanos (micros * 1000)
  [.scalar .time (some t), .scalar .zonedClock (some ⟨t, offset⟩),
    .scalar .interval (some (.ofMicros micros)), .text t.microsText]

/-- The interval is written as a time of day. -/
private theorem encode_interval {i : Interval} (start : 0 ≤ i.totalMicros)
    (stop : i.totalMicros ≤ microsInDay) :
    encode (.scalar .time) (.scalar .interval (some i)) =
      .ok (some (bytesOfInt 8 i.totalMicros)) := by
  have image : i.timeImage = .ok (bytesOfInt 8 i.totalMicros) := by
    rw [Interval.timeImage, if_pos ⟨start, stop⟩]
  calc encode (.scalar .time) (.scalar .interval (some i))
      = i.timeImage.map some := rfl
    _ = .ok (some (bytesOfInt 8 i.totalMicros)) := by rw [image]; rfl

/-- The interval is longer than a day, or negative. -/
private theorem refuse_interval {i : Interval}
    (without : ¬ (0 ≤ i.totalMicros ∧ i.totalMicros ≤ microsInDay)) :
    encode (.scalar .time) (.scalar .interval (some i)) = .error (.notTimeOfDay i) := by
  have refused : i.timeImage = .error (.notTimeOfDay i) := by
    rw [Interval.timeImage, if_neg without]
  calc encode (.scalar .time) (.scalar .interval (some i))
      = i.timeImage.map some := rfl
    _ = .error (.notTimeOfDay i) := by rw [refused]; rfl

/-- Intervals of the same length are written as the same time of day, if any. -/
theorem encode_time_congr {i j : Interval} (same : i.totalNanos = j.totalNanos)
    (bytes : Option (List UInt8)) :
    encode (.scalar .time) (.scalar .interval (some i)) = .ok bytes ↔
      encode (.scalar .time) (.scalar .interval (some j)) = .ok bytes := by
  have encoded (i : Interval) :
      encode (.scalar .time) (.scalar .interval (some i)) = i.timeImage.map some := rfl
  have micros : i.totalMicros = j.totalMicros := by
    rw [Interval.totalMicros, Interval.totalMicros, same]
  rw [encoded, encoded, Interval.timeImage, Interval.timeImage, micros]
  by_cases within : 0 ≤ j.totalMicros ∧ j.totalMicros ≤ microsInDay
  · rw [if_pos within, if_pos within]
  · rw [if_neg within, if_neg within]
    constructor <;> intro written <;> cases written

/-- Microseconds up to the end of the day are decoded as their interval. -/
private theorem decode_micros {micros : Int} (start : 0 ≤ micros) (stop : micros ≤ microsInDay) :
    decode (.scalar .time) (some (bytesOfInt 8 micros)) =
      .ok (.scalar .interval (some (.ofMicros micros))) := by
  simp only [decode, Scalar.ofImage, Interval.ofTimeImage_bytes start stop]
  rfl

private theorem reproduced_micros {micros : Int} (start : 0 ≤ micros)
    (stop : micros ≤ microsInDay) : Reproduced (.scalar .time) (bytesOfInt 8 micros) := by
  have total := Interval.totalMicros_within start stop
  refine ⟨_, decode_micros start stop, ?_⟩
  rw [encode_interval (by rwa [total]) (by rwa [total]), total]

/-- A text is converted to the interval that is read from it. -/
theorem convert_interval_text {s : String} {i : Interval}
    (read : Interval.read? s.toList = some i) :
    convert .interval (.text s) = .ok i := by
  have parsed : Kind.readInterval s = .ok i := by rw [Kind.readInterval, read]
  simp only [convert, Value.text, Kind.ofText?, parsed]
  rfl

/-- A text is written as the interval that is read from it. -/
theorem encode_time_text {s : String} {i : Interval} (read : Interval.read? s.toList = some i) :
    encode (.scalar .time) (.text s) = encode (.scalar .time) (.scalar .interval (some i)) := by
  have converted := convert_interval_text read
  have encode_text (s : String) :
      encode (.scalar .time) (.text s) = (timeImage (.text s)).map some := rfl
  have encode_read (i : Interval) :
      encode (.scalar .time) (.scalar .interval (some i)) = i.timeImage.map some := rfl
  have image : timeImage (.text s) = i.timeImage := by
    simp only [timeImage, Value.text] at converted ⊢
    rw [converted]
  rw [encode_text, encode_read, image]

/-- The carriers of a microsecond of the day are written alike. -/
private theorem encode_carriers {micros : Nat} (within : micros < microsInDay) (offset : Offset) :
    ∀ v ∈ timeCarriers micros offset,
      encode (.scalar .time) v = .ok (some (bytesOfInt 8 micros)) := by
  have start : 0 ≤ (micros : Int) := Int.natCast_nonneg _
  have stop : (micros : Int) < microsInDay := Int.ofNat_lt.mpr within
  have same : (TimeOfDay.ofNanos (micros * 1000)).micros = micros :=
    Int.ofNat_inj.mp (TimeOfDay.micros_ofNanos start stop)
  have interval := Interval.totalMicros_within start (Int.le_of_lt stop)
  have clock := Interval.totalMicros_ofNanos start (Int.le_of_lt stop)
  have encode_time (t : TimeOfDay) : encode (.scalar .time) (.scalar .time (some t)) =
      .ok (some (bytesOfInt 8 t.micros)) := rfl
  have encode_clock (t : ZonedClock) : encode (.scalar .time) (.scalar .zonedClock (some t)) =
      .ok (some (bytesOfInt 8 t.time.micros)) := rfl
  intro v mem
  simp only [timeCarriers, List.mem_cons, List.not_mem_nil, or_false] at mem
  rcases mem with rfl | rfl | rfl | rfl
  · rw [encode_time, same]
  · rw [encode_clock, same]
  · rw [encode_interval (by omega) (by omega), interval]
  · rw [encode_time_text (TimeOfDay.read?_microsText _), same,
      encode_interval (by omega) (by omega), clock]

private theorem ofValue?_interval (i : Interval) :
    Kind.time.ofValue? (.scalar .interval (some i)) =
      if 0 ≤ i.totalMicros ∧ i.totalMicros < microsInDay then
        .ok (TimeOfDay.ofNanos (i.totalMicros * 1000))
      else .error (.notTimeOfDay i) := by
  by_cases within : 0 ≤ i.totalMicros ∧ i.totalMicros < microsInDay
  · have taken : i.toTimeOfDay? = some (TimeOfDay.ofNanos (i.totalMicros * 1000)) := by
      rw [Interval.toTimeOfDay?, if_pos within]
    simp only [Kind.ofValue?, taken, if_pos within]
  · have refused : i.toTimeOfDay? = none := by
      rw [Interval.toTimeOfDay?, if_neg within]
    simp only [Kind.ofValue?, refused, if_neg within]

/-- Every microsecond of the day is put out as the same eight bytes by all its carriers, behind
what a buffer holds, and the interval that is read back from them is taken for the time of day. An
interval is put out as a time of day exactly up to the end of the day, which is reproduced, and is
taken for a time of day exactly before it; of any other interval nothing is put out. The intervals
that are put out have a sum that words of 128 bits have room for. -/
theorem time_carriers_agree :
    (∀ (micros : Nat) (offset : Offset), micros < microsInDay →
      IsWord 8 micros (bytesOfInt 8 micros) ∧
      (∀ v ∈ timeCarriers micros offset,
        encode (.scalar .time) v = .ok (some (bytesOfInt 8 micros)) ∧
        ∀ out, write (.scalar .time) v out = .ok false (out ++ bytesOfInt 8 micros)) ∧
      ∃ i : Interval, i.totalMicros = micros ∧
        decode (.scalar .time) (some (bytesOfInt 8 micros)) =
          .ok (.scalar .interval (some i)) ∧
        Kind.time.ofValue? (.scalar .interval (some i)) =
          .ok (TimeOfDay.ofNanos (micros * 1000))) ∧
    (∀ i : Interval,
      (0 ≤ i.totalMicros ∧ i.totalMicros ≤ microsInDay →
        i.totalNanosOnWords = .ok i.totalNanos ∧
        encode (.scalar .time) (.scalar .interval (some i)) =
          .ok (some (bytesOfInt 8 i.totalMicros)) ∧
        (∀ out, write (.scalar .time) (.scalar .interval (some i)) out =
          .ok false (out ++ bytesOfInt 8 i.totalMicros)) ∧
        Reproduced (.scalar .time) (bytesOfInt 8 i.totalMicros)) ∧
      (¬ (0 ≤ i.totalMicros ∧ i.totalMicros ≤ microsInDay) →
        encode (.scalar .time) (.scalar .interval (some i)) = .error (.notTimeOfDay i) ∧
        ∀ out, write (.scalar .time) (.scalar .interval (some i)) out =
          .error (.notTimeOfDay i) out) ∧
      ((∃ t, Kind.time.ofValue? (.scalar .interval (some i)) = .ok t) ↔
        0 ≤ i.totalMicros ∧ i.totalMicros < microsInDay)) := by
  constructor
  · intro micros offset within
    have start : 0 ≤ (micros : Int) := Int.natCast_nonneg _
    have stop : (micros : Int) < microsInDay := Int.ofNat_lt.mpr within
    have total := Interval.totalMicros_within start (Int.le_of_lt stop)
    refine ⟨isWord_bytesOfInt 8 micros, fun v mem => ?_, .ofMicros micros, total,
      decode_micros start (Int.le_of_lt stop), ?_⟩
    · have encoded := encode_carriers within offset v mem
      exact ⟨encoded, fun out => write_of_encode encoded out⟩
    · rw [ofValue?_interval, total, if_pos ⟨start, stop⟩]
  · intro i
    refine ⟨fun ⟨start, stop⟩ => ?_, fun without => ?_, ?_⟩
    · have encoded := encode_interval start stop
      exact ⟨Interval.totalNanosOnWords_of_time start stop, encoded, write_of_encode encoded,
        reproduced_micros start stop⟩
    · have refused := refuse_interval without
      exact ⟨refused, write_of_refuse refused⟩
    · rw [ofValue?_interval]
      split
      · next within => exact ⟨fun _ => within, fun _ => ⟨_, rfl⟩⟩
      · next without =>
        refine ⟨?_, fun within => absurd within without⟩
        rintro ⟨t, taken⟩
        cases taken

theorem lunchtime_carriers_agree :
    45045678901 < microsInDay ∧
    (encode (.scalar .time) (.text "12:30:45.678901") =
      .ok (some (bytesOfInt 8 (45045678901 : Nat)))) ∧
    (0 ≤ (Interval.ofMicros 86400000000).totalMicros ∧
      (Interval.ofMicros 86400000000).totalMicros ≤ microsInDay) ∧
    Reproduced (.scalar .time) (bytesOfInt 8 86400000000) ∧
    ¬ (0 ≤ (Interval.ofMicros (-1)).totalMicros ∧
      (Interval.ofMicros (-1)).totalMicros ≤ microsInDay) ∧
    write (.scalar .time) (.scalar .interval (some (.ofMicros (-1)))) [7] =
      .error (.notTimeOfDay (.ofMicros (-1))) [7] := by
  have within : 45045678901 < microsInDay := by decide
  have text : (TimeOfDay.ofNanos ((45045678901 : Nat) * 1000)).microsText = "12:30:45.678901" := by
    decide +kernel
  have carrier : Value.text "12:30:45.678901" ∈ timeCarriers 45045678901 .utc := by
    rw [← text]
    exact .tail _ (.tail _ (.tail _ (.head _)))
  have midnight : (Interval.ofMicros 86400000000).totalMicros = 86400000000 := by decide
  have closed : 0 ≤ (Interval.ofMicros 86400000000).totalMicros ∧
      (Interval.ofMicros 86400000000).totalMicros ≤ microsInDay := by decide
  have before : ¬ (0 ≤ (Interval.ofMicros (-1)).totalMicros ∧
      (Interval.ofMicros (-1)).totalMicros ≤ microsInDay) := by decide
  obtain ⟨-, -, -, reproduced⟩ := (time_carriers_agree.2 (.ofMicros 86400000000)).1 closed
  rw [midnight] at reproduced
  refine ⟨within, ((time_carriers_agree.1 45045678901 .utc within).2.1 _ carrier).1, closed,
    reproduced, before, ?_⟩
  exact ((time_carriers_agree.2 (.ofMicros (-1))).2.1 before).2 [7]

end Wire

end TableAccess
