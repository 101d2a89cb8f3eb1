import Mathlib.Data.List.Forall2
import TableAccess.Proofs.Wire.Images
import TableAccess.Proofs.Wire.Nulls

/-!
Arrays that are written to a column and read from it, element by element.

A frame counts its elements and the bytes of each, so it is taken apart where it was put together,
whatever the bytes are. Its words can not count further than they reach, which is the only thing
that an array can fail by besides its elements.
-/

set_option autoImplicit false
set_option relaxedAutoImplicit false

namespace TableAccess.Wire

/-! ### Frames -/

/-- The length of the element has a word in a frame. -/
def Short (image : Option (List UInt8)) : Prop := (image.getD []).length < frameLimit

private theorem takeInt_count {n : Nat} (few : n < frameLimit) (rest : List UInt8) :
    takeInt 4 (bytesOfNat 4 n ++ rest) = .ok ((n : Int), rest) := by
  have half : 2 * n < 256 ^ 4 := by
    unfold frameLimit at few
    omega
  rw [takeInt_append (length_bytesOfNat 4 n), intOfBytes_bytesOfNat half]

/-- Elements in a row are told from one another by their lengths. -/
theorem readElements_flatMap {images : Images} (short : ∀ image ∈ images, Short image) :
    readElements images.length (images.flatMap elementImage) = .ok images := by
  induction images with
  | nil => rfl
  | cons image images ih =>
    obtain ⟨first, others⟩ := List.forall_mem_cons.mp short
    have rest := ih others
    rw [List.flatMap_cons, List.length_cons, readElements]
    cases image with
    -- A null is told by its length, which no bytes have.
    | none =>
      have mark : intOfBytes (bytesOfInt 4 (-1)) = -1 := by decide
      simp only [elementImage, takeInt_append (length_bytesOfInt 4 (-1)), mark, rest]
      rfl
    | some image =>
      have counted := takeInt_count (n := image.length) first (image ++ images.flatMap elementImage)
      have some_length : ¬ ((image.length : Int) < 0) := Int.not_lt.mpr (Int.natCast_nonneg _)
      simp only [elementImage, List.append_assoc, counted, if_neg some_length, Int.toNat_natCast,
        take?_append rfl, rest]

/-- The only dimension of a frame has the elements. -/
private theorem readDimensions_one {count : Nat} (few : count < frameLimit) (lowest : Nat)
    (rest : List UInt8) :
    readDimensions 1 1 (bytesOfNat 4 count ++ (bytesOfNat 4 lowest ++ rest)) =
      .ok (count, rest) := by
  have some_length : ¬ ((count : Int) < 0) := Int.not_lt.mpr (Int.natCast_nonneg _)
  have total : count < 2 ^ 31 := few
  simp only [readDimensions, takeInt_count few, if_neg some_length, Int.toNat_natCast,
    takeInt_append (length_bytesOfNat 4 lowest), Nat.one_mul, if_pos total]

/-- The elements after the words of a frame of one dimension. The number of dimensions is any number
that equals one, since a reader of fixed words would be evaluated up to the limit of elements. -/
private theorem readArray_one {bytes rest : List UInt8} {d : Int} (one : d = 1) {count : Nat}
    (words : ∃ flag oid b₁ b₂ b₃, takeInt 4 bytes = .ok (d, b₁) ∧ takeInt 4 b₁ = .ok (flag, b₂) ∧
      takeInt 4 b₂ = .ok (oid, b₃) ∧ readDimensions d.toNat 1 b₃ = .ok (count, rest)) :
    readArray bytes = readElements count rest := by
  obtain ⟨flag, oid, b₁, b₂, b₃, dimensions, flagged, typed, sized⟩ := words
  have some_dimensions : ¬ d < 0 := by omega
  have single : ¬ 1 < d := by omega
  have not_none : d ≠ 0 := by omega
  simp only [readArray, dimensions, flagged, typed, sized, if_neg some_dimensions, if_neg single,
    if_neg not_none]

theorem readArray_arrayImage (oid lowest : Nat) {images : Images}
    (few : images.length < frameLimit) (short : ∀ image ∈ images, Short image) :
    readArray (arrayImage oid lowest images) = .ok images := by
  have one : intOfBytes (bytesOfNat 4 1) = 1 := by decide
  have word (n : Nat) := takeInt_append (length_bytesOfNat 4 n)
  have sized : readDimensions (intOfBytes (bytesOfNat 4 1)).toNat 1
      (bytesOfNat 4 images.length ++ (bytesOfNat 4 lowest ++ images.flatMap elementImage)) =
        .ok (images.length, images.flatMap elementImage) := by
    rw [one]
    exact readDimensions_one few lowest _
  rw [arrayImage]
  simp only [List.append_assoc]
  rw [readArray_one one ⟨_, _, _, _, _, word _ _, word _ _, word _ _, sized⟩]
  exact readElements_flatMap short

/-! ### Elements -/

section Elements

variable {write : Value → Except EncodeError (Option (List UInt8))}
  {read : Option (List UInt8) → Except DecodeError Value} {vs ws : List Value} {images : Images}

theorem encodeAll_eq_ok_iff :
    encodeAll write vs = .ok images ↔
      List.Forall₂ (fun v image => write v = .ok image ∧ Short image) vs images := by
  induction vs generalizing images with
  | nil =>
    rw [encodeAll, List.forall₂_nil_left_iff]
    exact ⟨fun same => by cases same; rfl, fun same => by rw [same]⟩
  | cons v vs ih =>
    constructor
    · intro written
      rw [encodeAll] at written
      split at written
      · cases written
      · next image here =>
        split at written
        · cases written
        · next short =>
          split at written
          · cases written
          · next others further =>
            cases written
            exact .cons ⟨here, Nat.lt_of_not_le short⟩ (ih.mp further)
    · rintro (_ | ⟨⟨here, short⟩, others⟩)
      simp only [encodeAll, here, if_neg (Nat.not_le_of_lt short), ih.mpr others]

theorem decodeAll_eq_ok_iff :
    decodeAll read images = .ok ws ↔
      List.Forall₂ (fun image w => read image = .ok w) images ws := by
  induction images generalizing ws with
  | nil =>
    rw [decodeAll, List.forall₂_nil_left_iff]
    exact ⟨fun same => by cases same; rfl, fun same => by rw [same]⟩
  | cons image images ih =>
    constructor
    · intro found
      rw [decodeAll] at found
      split at found
      · cases found
      · next w here =>
        split at found
        · cases found
        · next others further =>
          cases found
          exact .cons here (ih.mp further)
    · rintro (_ | ⟨here, others⟩)
      simp only [decodeAll, here, ih.mpr others]

end Elements

/-! ### Arrays -/

/-- What an element of an array comes back as: a null as the null that a column of its type has,
and another value as what its bytes stand for in such a column. -/
def ComesBack (member : SqlType) (v w : Value) : Prop :=
  if v.isNull then decode member none = .ok w else Returns member v w

variable {member : SqlType}

private theorem comesBack_null {v w : Value} (null : v.isNull = true)
    (read : decode member none = .ok w) : ComesBack member v w := by
  rwa [ComesBack, if_pos null]

private theorem comesBack_of_bytes {v w : Value} {bytes : List UInt8}
    (written : encode member v = .ok (some bytes)) (read : decode member (some bytes) = .ok w) :
    ComesBack member v w := by
  rw [ComesBack, isNull_of_bytes written]
  exact ⟨bytes, written, read⟩

/-- There is only one value that an element comes back as. -/
private theorem comesBack_rightUnique : Relator.RightUnique (ComesBack member) := by
  intro v w w' back back'
  unfold ComesBack at back back'
  split at back
  · rw [if_pos ‹_›, back] at back'
    injection back'
  · rw [if_neg ‹_›] at back'
    obtain ⟨bytes, written, read⟩ := back
    obtain ⟨bytes', written', read'⟩ := back'
    rw [written] at written'
    cases written'
    rw [read] at read'
    injection read'

/-- The elements that a frame has room for are the nulls and the values of few enough bytes. -/
private theorem exists_image_iff {v : Value} :
    (∃ image, encode member v = .ok image ∧ Short image) ↔
      (v.isNull = false →
        ∃ bytes, encode member v = .ok (some bytes) ∧ bytes.length < frameLimit) := by
  constructor
  · rintro ⟨image, written, short⟩ present
    cases image with
    | none =>
      rw [isNull_of_encode_none written] at present
      cases present
    | some bytes => exact ⟨bytes, written, short⟩
  · intro sendable
    cases null : v.isNull with
    | true => exact ⟨none, encode_of_isNull null, Nat.two_pow_pos 31⟩
    | false =>
      obtain ⟨bytes, written, short⟩ := sendable null
      exact ⟨some bytes, written, short⟩

/-- A list is written if each of its elements is and if they are not too many. -/
private theorem exists_images_iff {vs : List Value} :
    (∃ images, encodeAll (encode member) vs = .ok images) ↔ ∀ v ∈ vs, v.isNull = false →
      ∃ bytes, encode member v = .ok (some bytes) ∧ bytes.length < frameLimit := by
  simp only [encodeAll_eq_ok_iff]
  induction vs with
  | nil => exact ⟨fun _ => List.forall_mem_nil _, fun _ => ⟨[], .nil⟩⟩
  | cons v vs ih =>
    rw [List.forall_mem_cons, ← ih, ← exists_image_iff]
    constructor
    · rintro ⟨_, _ | ⟨first, others⟩⟩
      exact ⟨⟨_, first⟩, ⟨_, others⟩⟩
    · rintro ⟨⟨image, first⟩, ⟨images, others⟩⟩
      exact ⟨image :: images, .cons first others⟩

/-- Every element that was written comes back. -/
private theorem exists_comesBack (single : member.isArray = false) {v : Value}
    {image : Option (List UInt8)} (written : encode member v = .ok image) :
    ∃ w, decode member image = .ok w ∧ ComesBack member v w := by
  cases image with
  | none =>
    have read := decode_none member
    exact ⟨_, read, comesBack_null (isNull_of_encode_none written) read⟩
  | some bytes =>
    obtain ⟨w, read⟩ := exists_decode single written
    exact ⟨w, read, comesBack_of_bytes written read⟩

private theorem exists_elements (single : member.isArray = false) {vs : List Value}
    {images : Images} (written : encodeAll (encode member) vs = .ok images) :
    ∃ ws, decodeAll (decode member) images = .ok ws ∧ List.Forall₂ (ComesBack member) vs ws := by
  have pairs := encodeAll_eq_ok_iff.mp written
  simp only [decodeAll_eq_ok_iff]
  clear written
  induction pairs with
  | nil => exact ⟨[], .nil, .nil⟩
  | cons first _ ih =>
    obtain ⟨w, read, back⟩ := exists_comesBack single first.1
    obtain ⟨ws, rest, others⟩ := ih
    exact ⟨w :: ws, .cons read rest, .cons back others⟩

section Lists

variable {label : TypeLabel} {lowest : Nat} {e : Value} {vs ws : List Value} {images : Images}

/-- A list is written as the frame of its elements, if it is written. -/
private theorem encode_list_eq_ok_iff {image : Option (List UInt8)} :
    encode (.array label lowest member) (.list (some vs) e) = .ok image ↔
      vs.length < frameLimit ∧ ∃ images, encodeAll (encode member) vs = .ok images ∧
        image = some (arrayImage member.oid lowest images) := by
  simp only [encode, Value.isNull_list_some, Bool.false_eq_true, if_false]
  constructor
  · intro written
    split at written
    · cases written
    · next few =>
      cases elements : encodeAll (encode member) vs with
      | error e =>
        rw [elements] at written
        cases written
      | ok images =>
        rw [elements] at written
        cases written
        exact ⟨Nat.lt_of_not_le few, images, rfl, rfl⟩
  · rintro ⟨few, images, elements, rfl⟩
    rw [if_neg (Nat.not_le_of_lt few), elements]
    rfl

/-- What is read from a frame is the list of what its elements are read as. -/
private theorem decode_list {bytes : List UInt8} (read : readArray bytes = .ok images)
    (found : decodeAll (decode member) images = .ok ws) :
    decode (.array label lowest member) (some bytes) =
      .ok (.list (some ws) member.nullValue) := by
  simp only [decode, read, found]
  rfl

private theorem decode_frame (few : vs.length < frameLimit)
    (written : encodeAll (encode member) vs = .ok images)
    (found : decodeAll (decode member) images = .ok ws) :
    decode (.array label lowest member) (some (arrayImage member.oid lowest images)) =
      .ok (.list (some ws) member.nullValue) := by
  have pairs := encodeAll_eq_ok_iff.mp written
  refine decode_list (readArray_arrayImage _ _ (pairs.length_eq ▸ few) ?_) found
  -- An element that is too long has not been written.
  clear written found few
  induction pairs with
  | nil => exact List.forall_mem_nil _
  | cons first _ ih => exact List.forall_mem_cons.mpr ⟨first.2, ih⟩

end Lists

/-- An array of single values is written exactly if each of its elements but the nulls is written
by itself, as long as the words of the frame can count the elements and the bytes of each. What is
read from it has one element for each that was written, in the same order: what the bytes of the
element stand for by themselves, or the null of the column if the element is a null of whatever
kind. No elements come back as no elements. -/
theorem array_elements_return (single : member.isArray = false) (label : TypeLabel) (lowest : Nat)
    (vs : List Value) (e : Value) :
    ((∃ image, encode (.array label lowest member) (.list (some vs) e) = .ok image) ↔
      vs.length < frameLimit ∧ ∀ v ∈ vs, v.isNull = false →
        ∃ bytes, encode member v = .ok (some bytes) ∧ bytes.length < frameLimit) ∧
    (∀ image, encode (.array label lowest member) (.list (some vs) e) = .ok image →
      ∃ ws, decode (.array label lowest member) image =
          .ok (.list (some ws) member.nullValue) ∧
        List.Forall₂ (ComesBack member) vs ws) ∧
    Returns (.array label lowest member) (.list (some []) e)
      (.list (some []) member.nullValue) := by
  refine ⟨?_, ?_, ?_⟩
  · rw [← exists_images_iff]
    constructor
    · rintro ⟨image, written⟩
      obtain ⟨few, images, elements, -⟩ := encode_list_eq_ok_iff.mp written
      exact ⟨few, images, elements⟩
    · rintro ⟨few, images, elements⟩
      exact ⟨_, encode_list_eq_ok_iff.mpr ⟨few, images, elements, rfl⟩⟩
  · intro image written
    obtain ⟨few, images, elements, rfl⟩ := encode_list_eq_ok_iff.mp written
    obtain ⟨ws, found, back⟩ := exists_elements single elements
    exact ⟨ws, decode_frame few elements found, back⟩
  · have few : ([] : List Value).length < frameLimit := by decide
    exact ⟨_, encode_list_eq_ok_iff.mpr ⟨few, [], rfl, rfl⟩, decode_frame few rfl rfl⟩

/-- Integers as a text, as integers of other widths and as a null of another kind. -/
def mixedIntegers : List Value :=
  [.text "-42", .scalar .int16 (some 7), .nullOf .boolean, .scalar .int64 (some 2147483647)]

theorem mixedIntegers_return :
    let column : SqlType := .array (.builtin "_int4" 1007) 1 (.scalar .int4)
    SqlType.isArray (.scalar .int4) = false ∧
      Returns column (.list (some mixedIntegers) .null)
        (.list (some [.scalar .int32 (some (-42)), .scalar .int32 (some 7), .nullOf .int32,
          .scalar .int32 (some 2147483647)]) (.nullOf .int32)) := by
  have single : SqlType.isArray (.scalar .int4) = false := rfl
  obtain ⟨sent, back, -⟩ :=
    array_elements_return single (.builtin "_int4" 1007) 1 mixedIntegers .null
  have elements : ∀ v ∈ mixedIntegers, v.isNull = false →
      ∃ bytes, encode (.scalar .int4) v = .ok (some bytes) ∧ bytes.length < frameLimit := by
    unfold mixedIntegers
    simp only [List.forall_mem_cons]
    exact ⟨fun _ => ⟨[255, 255, 255, 214], rfl, by decide⟩,
      fun _ => ⟨[0, 0, 0, 7], rfl, by decide⟩, nofun,
      fun _ => ⟨[127, 255, 255, 255], rfl, by decide⟩, List.forall_mem_nil _⟩
  obtain ⟨image, written⟩ := sent.mpr ⟨by decide, elements⟩
  obtain ⟨ws, read, each⟩ := back image written
  have decoded {bytes : List UInt8} {n : Int32} (length : bytes.length = 4)
      (word : Int32.ofInt (intOfBytes bytes) = n) :
      decode (.scalar .int4) (some bytes) = .ok (.scalar .int32 (some n)) := by
    rw [← word, decode, Scalar.ofImage, wholeInt_word length]
    rfl
  have known : List.Forall₂ (ComesBack (.scalar .int4)) mixedIntegers
      [.scalar .int32 (some (-42)), .scalar .int32 (some 7), .nullOf .int32,
        .scalar .int32 (some 2147483647)] :=
    .cons ⟨[255, 255, 255, 214], rfl, decoded rfl (by decide)⟩
      (.cons ⟨[0, 0, 0, 7], rfl, decoded rfl (by decide)⟩
        (.cons rfl (.cons ⟨[127, 255, 255, 255], rfl, decoded rfl (by decide)⟩ .nil)))
  rw [comesBack_rightUnique.forall₂ each known] at read
  cases image with
  | none => exact absurd (isNull_of_encode_none written) Bool.false_ne_true
  | some bytes => exact ⟨single, bytes, written, read⟩

end TableAccess.Wire
