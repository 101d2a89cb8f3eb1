import Mathlib.Data.List.Forall2
import TableAccess.Proofs.Time.Lengths
import TableAccess.Value.FieldType

/-!
What a field of a type holds survives the way through its value.

An optional field must be able to tell holding nothing from holding what is itself null, so
what it may hold is not optional again, not even in a box. A null of whatever kind is nothing to
an optional field, and an error to all others. A list is converted element by element, and fails as
its first element fails that does not convert.
-/

set_option autoImplicit false
set_option relaxedAutoImplicit false

namespace TableAccess

/-! ### Lists -/

namespace FieldType

section Elements

variable {α : Type} {convert : Value → Except ConversionError α} {vs : List Value}

theorem convertAll_eq_ok_iff {xs : List α} :
    convertAll convert vs = .ok xs ↔ List.Forall₂ (fun v x => convert v = .ok x) vs xs := by
  induction vs generalizing xs with
  | nil =>
    rw [convertAll, List.forall₂_nil_left_iff]
    exact ⟨fun same => by cases same; rfl, fun same => by rw [same]⟩
  | cons v vs ih =>
    constructor
    · intro found
      rw [convertAll] at found
      split at found
      · cases found
      · next x here =>
        split at found
        · cases found
        · next others further =>
          cases found
          exact .cons here (ih.mp further)
    · rintro (_ | ⟨here, others⟩)
      simp only [convertAll, here, ih.mpr others]

private theorem convertAll_cons_eq_error_iff {v : Value} {e : ConversionError} :
    convertAll convert (v :: vs) = .error e ↔
      convert v = .error e ∨ (∃ x, convert v = .ok x) ∧ convertAll convert vs = .error e := by
  rw [convertAll]
  cases convert v with
  | error f => simp
  | ok x => cases convertAll convert vs <;> simp

/-- The first element that does not convert decides the error. -/
theorem convertAll_eq_error_iff {e : ConversionError} :
    convertAll convert vs = .error e ↔
      ∃ front v rest, vs = front ++ v :: rest ∧ (∀ w ∈ front, ∃ x, convert w = .ok x) ∧
        convert v = .error e := by
  induction vs with
  | nil =>
    constructor
    · nofun
    · rintro ⟨front, v, rest, parts, -⟩
      cases front <;> cases parts
  | cons v vs ih =>
    rw [convertAll_cons_eq_error_iff, ih]
    constructor
    · rintro (failed | ⟨first, front, w, rest, rfl, others, failed⟩)
      · exact ⟨[], v, vs, rfl, nofun, failed⟩
      · exact ⟨v :: front, w, rest, rfl, List.forall_mem_cons.mpr ⟨first, others⟩, failed⟩
    · rintro ⟨front, w, rest, parts, before, failed⟩
      cases front with
      | nil =>
        cases parts
        exact .inl failed
      | cons u front =>
        cases parts
        obtain ⟨first, others⟩ := List.forall_mem_cons.mp before
        exact .inr ⟨first, front, w, rest, rfl, others, failed⟩

theorem exists_convertAll_iff :
    (∃ xs, convertAll convert vs = .ok xs) ↔ ∀ v ∈ vs, ∃ x, convert v = .ok x := by
  constructor
  · rintro ⟨xs, converted⟩
    have pairs := convertAll_eq_ok_iff.mp converted
    clear converted
    induction pairs with
    | nil => nofun
    | cons here _ ih => exact List.forall_mem_cons.mpr ⟨⟨_, here⟩, ih⟩
  · intro each
    cases converted : convertAll convert vs with
    | ok xs => exact ⟨xs, rfl⟩
    | error e =>
      obtain ⟨front, v, rest, rfl, -, failed⟩ := convertAll_eq_error_iff.mp converted
      obtain ⟨x, taken⟩ := each v (List.mem_append_right front List.mem_cons_self)
      cases failed.symm.trans taken

end Elements

/-- Nothing but a list that is not null is taken for a list. -/
theorem ofValue?_listed_of_ne_list (t : FieldType) {v : Value}
    (other : ∀ vs element, v ≠ .list (some vs) element) : ∃ e, (listed t).ofValue? v = .error e := by
  cases v with
  | null => exact ⟨_, rfl⟩
  | scalar k payload => exact ⟨_, rfl⟩
  | list items element =>
    cases items with
    | none => exact ⟨_, rfl⟩
    | some vs => exact absurd rfl (other vs element)

end FieldType

/-! ### Types -/

namespace Kind

theorem ofValue?_scalar (k : Kind) (x : k.Payload) : k.ofValue? (.scalar k (some x)) = .ok x := by
  cases k <;> rfl

/-- No null is taken for a value of a kind, not even the null of that kind. -/
theorem ofValue?_null (k : Kind) {v : Value} (null : v.isNull = true) :
    ∃ e, k.ofValue? v = .error e := by
  cases v with
  | null => cases k <;> exact ⟨_, rfl⟩
  | scalar l payload =>
    cases payload with
    | none => cases k <;> cases l <;> exact ⟨_, rfl⟩
    | some x => cases null
  | list items element => cases k <;> exact ⟨_, rfl⟩

end Kind

namespace FieldType

/-- A field of the type may hold nothing. -/
def nullable : FieldType → Bool
  | .optional _ => true
  | .boxed t | .shared t => t.nullable
  | .scalar _ | .borrowed | .duration | .listed _ => false

/-- No field that may hold nothing is optional once more. -/
def plain : FieldType → Bool
  | .optional t => !t.nullable && t.plain
  | .boxed t | .shared t | .listed t => t.plain
  | .scalar _ | .borrowed | .duration => true

@[simp] theorem isNull_nullValue (t : FieldType) : t.nullValue.isNull = true := by
  induction t with
  | scalar k => rfl
  | borrowed => rfl
  | duration => rfl
  | optional t ih => exact ih
  | boxed t ih => exact ih
  | shared t ih => exact ih
  | listed t _ => rfl

/-- The value of what is held is no null where something must be held. -/
theorem isNull_toValue {t : FieldType} (held : t.nullable = false) (x : t.Carrier) :
    (t.toValue x).isNull = false := by
  induction t with
  | scalar k => rfl
  | borrowed => rfl
  | duration => rfl
  | optional t _ => cases held
  | boxed t ih => exact ih held x
  | shared t ih => exact ih held x
  | listed t _ => rfl

private theorem convertAll_map {α : Type} {convert : Value → Except ConversionError α}
    {value : α → Value} (back : ∀ x, convert (value x) = .ok x) (xs : List α) :
    convertAll convert (xs.map value) = .ok xs := by
  rw [convertAll_eq_ok_iff, List.forall₂_map_left_iff, List.forall₂_same]
  exact fun x _ => back x

/-- What a field holds is read back from its value. -/
theorem ofValue?_toValue {t : FieldType} (plain : t.plain = true) (x : t.Carrier) :
    t.ofValue? (t.toValue x) = .ok x := by
  induction t with
  | scalar k => exact k.ofValue?_scalar x
  | borrowed => rfl
  | duration =>
    rw [toValue, ofValue?, Kind.ofValue?_scalar, Except.map, Interval.toDuration_ofDuration]
  | optional t ih =>
    obtain ⟨held, plain⟩ := (Bool.and_eq_true _ _).mp plain
    rw [Bool.not_eq_true'] at held
    cases x with
    | none => rw [toValue, ofValue?, if_pos t.isNull_nullValue]
    | some x =>
      have present : ¬ (t.toValue x).isNull = true := by
        rw [isNull_toValue held]
        exact Bool.false_ne_true
      rw [toValue, ofValue?, if_neg present, ih plain, Except.map]
  | boxed t ih => exact ih plain x
  | shared t ih => exact ih plain x
  | listed t ih => exact convertAll_map (fun y => ih plain y) x

/-! ### Nulls -/

/-- The field is optional, whatever it is boxed in, and holds nothing. -/
def Absent : (t : FieldType) → t.Carrier → Prop
  | .optional _, x => x = none
  | .boxed t, x => t.Absent x
  | .shared t, x => t.Absent x
  | .scalar _, _ | .borrowed, _ | .duration, _ | .listed _, _ => False

/-- A value and the null of its field are of the same type, lists by the type of their elements. -/
theorem sameType_toValue (t : FieldType) (x : t.Carrier) :
    (t.toValue x).sameType t.nullValue = true := by
  induction t with
  | scalar k => exact beq_self_eq_true k
  | borrowed => rfl
  | duration => rfl
  | optional t ih =>
    cases x with
    | none => exact t.nullValue.sameType_self
    | some x => exact ih x
  | boxed t ih => exact ih x
  | shared t ih => exact ih x
  | listed t _ => exact t.nullValue.sameType_self

/-- The value of what a field holds is null exactly if the field holds nothing. -/
theorem isNull_toValue_iff {t : FieldType} (plain : t.plain = true) (x : t.Carrier) :
    (t.toValue x).isNull = true ↔ t.Absent x := by
  induction t with
  | scalar k => exact ⟨nofun, nofun⟩
  | borrowed => exact ⟨nofun, nofun⟩
  | duration => exact ⟨nofun, nofun⟩
  | optional t _ =>
    obtain ⟨held, -⟩ := (Bool.and_eq_true _ _).mp plain
    rw [Bool.not_eq_true'] at held
    cases x with
    | none => exact ⟨fun _ => rfl, fun _ => t.isNull_nullValue⟩
    | some x =>
      have present : (t.toValue x).isNull = false := isNull_toValue held x
      rw [toValue, present]
      exact ⟨nofun, nofun⟩
  | boxed t ih => exact ih plain x
  | shared t ih => exact ih plain x
  | listed t _ => exact ⟨nofun, nofun⟩

/-- A field that may hold nothing takes every null for nothing. -/
theorem ofValue?_null_nullable {t : FieldType} (nullable : t.nullable = true) {v : Value}
    (null : v.isNull = true) : ∃ x, t.ofValue? v = .ok x ∧ t.Absent x := by
  induction t with
  | scalar k => cases nullable
  | borrowed => cases nullable
  | duration => cases nullable
  | optional t _ => exact ⟨none, if_pos null, rfl⟩
  | boxed t ih => exact ih nullable
  | shared t ih => exact ih nullable
  | listed t _ => cases nullable

/-- A field that must hold something takes no null. -/
theorem ofValue?_null_required {t : FieldType} (required : t.nullable = false) {v : Value}
    (null : v.isNull = true) : ∃ e, t.ofValue? v = .error e := by
  induction t with
  | scalar k => exact k.ofValue?_null null
  | borrowed => exact Kind.ofValue?_null .varchar null
  | duration =>
    obtain ⟨e, refused⟩ := Kind.ofValue?_null .interval null
    exact ⟨e, by rw [ofValue?, refused, Except.map]⟩
  | optional t _ => cases required
  | boxed t ih => exact ih required
  | shared t ih => exact ih required
  | listed t _ =>
    refine t.ofValue?_listed_of_ne_list ?_
    rintro vs element rfl
    cases null

/-- What a field of any type holds is read back from its value, which is of the type of the null
of the field and is null exactly if the field is optional and holds nothing; and a null of
whatever type is read as nothing by an optional field and refused by every other one. -/
theorem survives_value {t : FieldType} (plain : t.plain = true) :
    (∀ x : t.Carrier, t.ofValue? (t.toValue x) = .ok x ∧
      (t.toValue x).sameType t.nullValue = true ∧
      ((t.toValue x).isNull = true ↔ t.Absent x)) ∧
    ∀ v : Value, v.isNull = true →
      if t.nullable then ∃ x, t.ofValue? v = .ok x ∧ t.Absent x
      else ∃ e, t.ofValue? v = .error e := by
  constructor
  · intro x
    exact ⟨ofValue?_toValue plain x, t.sameType_toValue x, isNull_toValue_iff plain x⟩
  · intro v null
    cases nullable : t.nullable with
    | true => exact ofValue?_null_nullable nullable null
    | false => exact ofValue?_null_required nullable null

/-- Shared lists of names, one of them missing, in a box that may be empty; and the box takes a
null of another kind for none. -/
theorem boxedNames_survive :
    let t : FieldType := .boxed (.optional (.shared (.listed (.optional (.scalar .varchar)))))
    let names : t.Carrier := some [some "Ada", none]
    t.plain = true ∧ t.ofValue? (t.toValue names) = .ok names ∧
      (t.toValue names).sameType t.nullValue = true ∧
      ((t.toValue names).isNull = true ↔ t.Absent names) ∧
      (Value.nullOf .uuid).isNull = true ∧
      ∃ x, t.ofValue? (.nullOf .uuid) = .ok x ∧ t.Absent x := by
  intro t names
  have plain : t.plain = true := rfl
  obtain ⟨held, nulls⟩ := survives_value plain
  obtain ⟨back, type, null⟩ := held names
  exact ⟨plain, back, type, null, rfl, nulls (.nullOf .uuid) rfl⟩

end FieldType

end TableAccess
