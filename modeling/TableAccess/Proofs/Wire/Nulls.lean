import TableAccess.Wire.Decode

/-!
The nulls that are decoded from columns, and the nulls that stand for the types of columns.

Two tables of types say what a null is: one when a column is decoded, one when the elements of an
array need a value that stands for their type. They agree on every type but the texts, which the
first one leaves to the types without a kind of their own. The elements of arrays inherit this.
-/

set_option autoImplicit false
set_option relaxedAutoImplicit false

namespace TableAccess.Wire

namespace SqlType

/-- The type is one of the texts. -/
def isText : SqlType → Bool
  | .text _ => true
  | .scalar _ | .array _ _ _ | .other _ => false

theorem isNull_nullValue (t : SqlType) : t.nullValue.isNull = true := by
  cases t <;> rfl

theorem nullValue_text {t : SqlType} (texts : t.isText = true) :
    t.nullValue = .nullOf .varchar := by
  cases t with
  | text label => rfl
  | scalar | array | other => cases texts

end SqlType

/-- A null is decoded to the null of its type, but to the null of no kind in a column of texts. -/
theorem decode_none (t : SqlType) :
    decode t none = .ok (if t.isText then .null else t.nullValue) := by
  cases t <;> rfl

theorem decode_none_eq_iff (t : SqlType) :
    decode t none = .ok t.nullValue ↔ t.isText = false := by
  rw [decode_none]
  cases texts : t.isText with
  | false => exact ⟨fun _ => rfl, fun _ => rfl⟩
  | true =>
    rw [SqlType.nullValue_text texts]
    exact ⟨nofun, nofun⟩

/-- The null that is decoded has the type of the null that stands for its type, or no type. -/
theorem sameType_decode_none {t : SqlType} {v : Value} (decoded : decode t none = .ok v) :
    v.sameType t.nullValue = true ↔ t.isText = false := by
  rw [decode_none] at decoded
  injection decoded with decoded
  subst decoded
  cases texts : t.isText with
  | false => exact ⟨fun _ => rfl, fun _ => t.nullValue.sameType_self⟩
  | true =>
    rw [SqlType.nullValue_text texts]
    exact ⟨nofun, nofun⟩

theorem isNull_decodeText {label : TypeLabel} {bytes : List UInt8} {v : Value}
    (decoded : decodeText label (some bytes) = .ok v) : v.isNull = false := by
  simp only [decodeText] at decoded
  split at decoded
  · cases decoded
  · cases decoded
    rfl

/-- What is decoded from some images is decoded from one of them each. -/
theorem exists_image_of_mem {decode : Option (List UInt8) → Except DecodeError Value}
    {images : Images} {vs : List Value} (decoded : decodeAll decode images = .ok vs) {v : Value}
    (mem : v ∈ vs) : ∃ image ∈ images, decode image = .ok v := by
  induction images generalizing vs with
  | nil =>
    cases decoded
    cases mem
  | cons image images ih =>
    rw [decodeAll] at decoded
    split at decoded
    · cases decoded
    · next first here =>
      split at decoded
      · cases decoded
      · next rest further =>
        cases decoded
        rcases List.mem_cons.mp mem with rfl | later
        · exact ⟨image, List.mem_cons_self, here⟩
        · obtain ⟨other, inside, found⟩ := ih further later
          exact ⟨other, List.mem_cons_of_mem _ inside, found⟩

/-- An array is decoded with the null of its elements beside them, each decoded by itself. -/
theorem decode_array {label : TypeLabel} {lowest : Nat} {member : SqlType} {bytes : List UInt8}
    {v : Value} (decoded : decode (.array label lowest member) (some bytes) = .ok v) :
    ∃ vs, v = .list (some vs) member.nullValue ∧
      ∀ element ∈ vs, ∃ image, decode member image = .ok element := by
  rw [decode] at decoded
  split at decoded
  · cases decoded
  · next images read =>
    cases elements : decodeAll (decode member) images with
    | error e =>
      rw [elements] at decoded
      cases decoded
    | ok vs =>
      rw [elements] at decoded
      cases decoded
      refine ⟨vs, rfl, ?_⟩
      intro element mem
      obtain ⟨image, -, here⟩ := exists_image_of_mem elements mem
      exact ⟨image, here⟩

/-- Bytes are never decoded to a null. -/
theorem isNull_decode_some {t : SqlType} {bytes : List UInt8} {v : Value}
    (decoded : decode t (some bytes) = .ok v) : v.isNull = false := by
  cases t with
  | scalar s =>
    rw [decode] at decoded
    cases image : s.ofImage bytes with
    | error e =>
      rw [image] at decoded
      cases decoded
    | ok x =>
      rw [image] at decoded
      cases decoded
      rfl
  | text label => exact isNull_decodeText decoded
  | array label lowest member =>
    obtain ⟨vs, rfl, -⟩ := decode_array decoded
    rfl
  | other label => exact isNull_decodeText decoded

/-- A null is decoded in a column of every type. It is the null of the type, and in an array of
elements of the type of the same type as the null that stands for them, exactly if the type is
none of the texts. -/
theorem null_typed_iff (t : SqlType) :
    (∃ v, decode t none = .ok v ∧ v.isNull = true) ∧
    (decode t none = .ok t.nullValue ↔ t.isText = false) ∧
    ∀ label lowest bytes vs e,
      decode (.array label lowest t) (some bytes) = .ok (.list (some vs) e) →
      ∀ v ∈ vs, v.isNull = true → (v.sameType e = true ↔ t.isText = false) := by
  refine ⟨⟨_, decode_none t, ?_⟩, decode_none_eq_iff t, ?_⟩
  · split
    · rfl
    · exact t.isNull_nullValue
  · intro label lowest bytes vs e decoded v mem null
    obtain ⟨found, same, each⟩ := decode_array decoded
    injection same with items element
    injection items with items
    subst items element
    obtain ⟨image, here⟩ := each v mem
    cases image with
    | none => exact sameType_decode_none here
    | some bytes =>
      -- What has bytes is no null, so a null element had none.
      rw [isNull_decode_some here] at null
      cases null

/-- The null of a column of texts is not the one that stands for its type. -/
theorem text_null_untyped :
    let text : SqlType := .text (.builtin "text" 25)
    decode text none = .ok .null ∧ ¬ decode text none = .ok text.nullValue :=
  ⟨rfl, nofun⟩

end TableAccess.Wire
