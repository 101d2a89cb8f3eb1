import TableAccess.Proofs.Text.Utf8
import TableAccess.Proofs.Wire.Instants
import TableAccess.Proofs.Wire.Numerics

/-!
What is written to a column can be read from it.

Most scalar types have words of one width, and every word of that width stands for a value. The
other types refuse some bytes of the right length too: days beyond the calendar, offsets of more
than a day, numbers with too many digits, and bytes that are no text. None of these are written.
Bytes of arrays are left out here, since the text that may stand for an array is no frame.
-/

set_option autoImplicit false
set_option relaxedAutoImplicit false

namespace TableAccess

open Wire

/-! ### Days and points in time -/

theorem Date.ofImage_image (d : Date) : Date.ofImage d.image = .ok d := by
  have low := d.day_ge
  have high := d.day_le
  have word : intOfBytes (bytesOfInt 4 d.day) = d.day := by
    refine intOfBytes_bytesOfInt (by decide) ?_
    unfold Fits
    omega
  rw [Date.ofImage, Date.image, wholeInt_word (length_bytesOfInt 4 d.day), word]
  simp only [Date.ofDay?_day]

/-- A number cut off to thousands lies between zero and itself. -/
private theorem cut_between (n : Int) :
    0 ≤ n.tdiv 1000 * 1000 ∧ n.tdiv 1000 * 1000 ≤ n ∨
      n ≤ n.tdiv 1000 * 1000 ∧ n.tdiv 1000 * 1000 ≤ 0 := by
  rcases Int.le_total 0 n with after | before
  · have quotient : n.tdiv 1000 = n / 1000 := Int.tdiv_eq_ediv_of_nonneg after
    omega
  · have quotient : (-n).tdiv 1000 = -n / 1000 := Int.tdiv_eq_ediv_of_nonneg (by omega)
    rw [Int.neg_tdiv] at quotient
    omega

/-- Leaving out what lies below a microsecond brings a point in time nearer to the start of the
year 2000, so that it stays within the calendar. -/
theorem Timestamp.exists_ofImage_image (t : Timestamp) :
    ∃ u, Timestamp.ofImage t.image = .ok u := by
  have low := t.date.day_ge
  have high := t.date.day_le
  have within := t.time.nanos_lt
  have cut := cut_between t.nanos
  have nanos : t.nanos = t.date.day * nanosInDay + t.time.nanos := rfl
  simp only [nanosInDay] at within nanos
  have word : intOfBytes (bytesOfInt 8 (t.nanos.tdiv 1000)) = t.nanos.tdiv 1000 := by
    refine intOfBytes_bytesOfInt (by decide) ?_
    unfold Fits
    omega
  have day : -4382544 ≤ t.nanos.tdiv 1000 * 1000 / nanosInDay ∧
      t.nanos.tdiv 1000 * 1000 / nanosInDay ≤ 2921939 := by
    simp only [nanosInDay]
    omega
  have found : Date.ofDay? (t.nanos.tdiv 1000 * 1000 / nanosInDay) = some ⟨_, day.1, day.2⟩ :=
    dif_pos day
  rw [Timestamp.ofImage, Timestamp.image, wholeInt_word (length_bytesOfInt 8 _), word]
  simp only [Timestamp.ofNanos?, found, Option.map_some]
  exact ⟨_, rfl⟩

/-- The words of an interval have their widths whether it fits them or not. -/
theorem Interval.length_image (i : Interval) : i.image.length = 16 := by
  simp only [image, List.length_append, length_bytesOfInt]

namespace Wire

/-! ### Scalars -/

namespace Scalar

variable {s : Scalar} {bytes : List UInt8} {width : Nat}

/-- The bytes stand for a value of the type. -/
def Legible (s : Scalar) (bytes : List UInt8) : Prop := ∃ x, s.ofImage bytes = .ok x

/-- The width of the words of a type all of whose words stand for values. -/
def wordWidth? : Scalar → Option Nat
  | .bool | .char => some 1
  | .int2 => some 2
  | .int4 | .oid | .float4 => some 4
  | .int8 | .float8 | .time => some 8
  | .interval | .uuid => some 16
  | .numeric | .bytea | .date | .timetz | .timestamp | .timestamptz => none

theorem legible_word (word : s.wordWidth? = some width) (length : bytes.length = width) :
    s.Legible bytes := by
  unfold Legible
  cases s with
  | bool =>
    -- Any byte but zero is true.
    cases word
    obtain ⟨b, rfl⟩ := List.length_eq_one_iff.mp length
    exact ⟨_, rfl⟩
  | char | int2 | int4 | int8 =>
    cases word
    rw [ofImage, wholeInt_word length]
    exact ⟨_, rfl⟩
  | oid | float4 | float8 =>
    cases word
    rw [ofImage, exactly_word length]
    exact ⟨_, rfl⟩
  | time =>
    cases word
    rw [ofImage, Interval.ofTimeImage, takeInt_word length]
    exact ⟨_, rfl⟩
  | interval =>
    cases word
    obtain ⟨i, read, -⟩ := Interval.image_ofImage length
    exact ⟨i, read⟩
  | uuid =>
    cases word
    rw [ofImage, if_pos length]
    exact ⟨_, rfl⟩
  | numeric | bytea | date | timetz | timestamp | timestamptz => cases word

theorem length_integerImage {range : IntegerRange} {n : Int}
    (written : integerImage range width n = .ok bytes) : bytes.length = width := by
  rw [integerImage] at written
  split at written
  · cases written
  · cases written
    exact length_bytesOfInt _ _

theorem length_timeImage {i : Interval} (written : i.timeImage = .ok bytes) :
    bytes.length = 8 := by
  rw [Interval.timeImage] at written
  split at written
  · cases written
    exact length_bytesOfInt _ _
  · cases written

/-- A point in time is written as it is in Coordinated Universal Time. -/
theorem legible_zonedTimestamp {t : ZonedTimestamp} (written : t.image = .ok bytes) :
    Scalar.timestamptz.Legible bytes := by
  rw [ZonedTimestamp.image] at written
  split at written
  · next utc _ =>
    cases written
    obtain ⟨u, read⟩ := utc.exists_ofImage_image
    rw [Legible, ofImage, ZonedTimestamp.ofImage, read]
    exact ⟨_, rfl⟩
  · cases written

theorem legible_image {x : s.kind.Payload} (written : s.image x = .ok bytes) :
    s.Legible bytes := by
  cases s with
  | bool =>
    injection written with same
    exact legible_word rfl (same ▸ rfl)
  | char | oid => exact legible_word rfl (length_integerImage written)
  | int2 | int4 | int8 | float4 | float8 | uuid =>
    injection written with same
    exact legible_word rfl (same ▸ length_bytesOfNat _ _)
  | numeric =>
    injection written with same
    exact same ▸ exists_ofImage_numeric x
  | bytea => exact ⟨bytes, rfl⟩
  | date =>
    injection written with same
    exact ⟨x, same ▸ x.ofImage_image⟩
  | time => exact legible_word rfl (length_timeImage written)
  | timetz =>
    injection written with same
    exact ⟨_, same ▸ x.ofImage_image⟩
  | timestamp =>
    injection written with same
    exact same ▸ x.exists_ofImage_image
  | timestamptz => exact legible_zonedTimestamp written
  | interval =>
    injection written with same
    exact legible_word rfl (same ▸ x.length_image)

/-- Whatever is taken for a time of day has microseconds. -/
theorem length_timeImage_value {v : Value} (written : timeImage v = .ok bytes) :
    bytes.length = 8 := by
  rw [timeImage.eq_def] at written
  split at written
  · cases written
    exact length_bytesOfInt _ _
  · cases written
    exact length_bytesOfInt _ _
  · split at written
    · cases written
    · exact length_timeImage written

theorem legible_encode {v : Value} (written : s.encode v = .ok bytes) : s.Legible bytes := by
  rw [Scalar.encode] at written
  split at written
  · next time =>
    subst time
    exact legible_word rfl (length_timeImage_value written)
  · split at written
    · cases written
    · exact legible_image written

end Scalar

/-! ### Texts -/

/-- A text is read from its bytes, with the version of its form in front of them or without. -/
theorem decodeText_textImage (label : TypeLabel) (s : String) :
    decodeText label (some (textImage label s)) = .ok (.text s) := by
  have bytes : unversioned label (textImage label s) = .ok (Text.utf8Bytes s.toList) := by
    by_cases version : versioned.contains label.name = true
    · simp only [unversioned, textImage, if_pos version, List.singleton_append]
    · simp only [unversioned, textImage, if_neg version, List.nil_append]
  simp only [decodeText, textOfImage, bytes, Text.ofUtf8_utf8Bytes, String.ofList_toList]

theorem exists_text_of_encodeText {t : SqlType} {v : Value} {bytes : List UInt8}
    (written : encodeText t v = .ok bytes) : ∃ s, v = .text s ∧ bytes = textImage t.label s := by
  rw [encodeText.eq_def] at written
  split at written
  · next s =>
    cases written
    exact ⟨s, rfl, rfl⟩
  · cases written

/-! ### Columns -/

namespace SqlType

/-- The type is one of the arrays. -/
def isArray : SqlType → Bool
  | .array _ _ _ => true
  | .scalar _ | .text _ | .other _ => false

end SqlType

theorem encode_of_isNull {t : SqlType} {v : Value} (null : v.isNull = true) :
    encode t v = .ok none := by
  rw [encode.eq_def]
  exact if_pos null

/-- Only nulls have no bytes. -/
theorem isNull_of_bytes {t : SqlType} {v : Value} {bytes : List UInt8}
    (written : encode t v = .ok (some bytes)) : v.isNull = false := by
  cases null : v.isNull with
  | false => rfl
  | true =>
    rw [encode_of_isNull null] at written
    cases written

/-- Only nulls are written as nulls. -/
theorem isNull_of_encode_none {t : SqlType} {v : Value} (written : encode t v = .ok none) :
    v.isNull = true := by
  cases present : v.isNull with
  | true => rfl
  | false =>
    have never {α : Type} {result : Except EncodeError α} {f : α → List UInt8} :
        result.map (fun x => some (f x)) ≠ .ok none := by
      cases result <;> nofun
    cases t with
    | scalar | text | other =>
      simp only [encode, present, Bool.false_eq_true, if_false] at written
      exact absurd written never
    | array =>
      simp only [encode, present, Bool.false_eq_true, if_false] at written
      split at written
      · split at written
        · cases written
        · exact absurd written never
      · exact absurd written never

private theorem of_map_some {result : Except EncodeError (List UInt8)} {bytes : List UInt8}
    (mapped : result.map some = .ok (some bytes)) : result = .ok bytes := by
  cases result with
  | error e => cases mapped
  | ok image =>
    cases mapped
    rfl

/-- What a value is written to in a column is read from it again. -/
theorem exists_decode {t : SqlType} (single : t.isArray = false) {v : Value} {bytes : List UInt8}
    (written : encode t v = .ok (some bytes)) : ∃ w, decode t (some bytes) = .ok w := by
  have present := isNull_of_bytes written
  cases t with
  | scalar s =>
    simp only [encode, present, Bool.false_eq_true, if_false] at written
    obtain ⟨x, read⟩ := Scalar.legible_encode (of_map_some written)
    rw [decode, read]
    exact ⟨_, rfl⟩
  | text label | other label =>
    simp only [encode, present, Bool.false_eq_true, if_false] at written
    obtain ⟨s, -, rfl⟩ := exists_text_of_encodeText (of_map_some written)
    exact ⟨.text s, decodeText_textImage label s⟩
  | array => cases single

end Wire

end TableAccess
