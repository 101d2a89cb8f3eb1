import TableAccess.Proofs.Number.Integers
import TableAccess.Proofs.Value.Conversion

/-!
Values narrowed to the integers that fields hold, and lists of them.

A narrower word takes an integer that lies within its range and no other. A decimal is taken for
the integer that it denotes, whatever its scale, and is refused when it denotes none.
-/

set_option autoImplicit false
set_option relaxedAutoImplicit false

namespace TableAccess

namespace IntegerRange

variable {ε δ α β : Type} {r inner : IntegerRange} {n : Int} {toInt : α → Int} {ofInt : Int → α}
  {result : Except ε α}

/-! ### Checked integers -/

/-- The result stands for an integer where that lies within a range, and is an error elsewhere. -/
structure Exactly (r : IntegerRange) (toInt : α → Int) (n : Int) (result : Except ε α) : Prop where
  within : r.Contains n → ∃ a, result = .ok a ∧ toInt a = n
  outside : ¬ r.Contains n → ∃ e, result = .error e

theorem exactly_check (r : IntegerRange) (n : Int) : r.Exactly id n (r.check n) where
  within inside := ⟨n, check_of_contains inside, rfl⟩
  outside := check_of_not_contains

theorem Exactly.mapError (h : r.Exactly toInt n result) (f : ε → δ) :
    r.Exactly toInt n (result.mapError f) where
  within inside := by
    obtain ⟨a, taken, same⟩ := h.within inside
    exact ⟨a, by rw [taken]; rfl, same⟩
  outside other := by
    obtain ⟨e, refused⟩ := h.outside other
    exact ⟨f e, by rw [refused]; rfl⟩

/-- The result may be put otherwise, as long as it stands for the same integer. -/
theorem Exactly.map {put : α → β} {ofPut : β → Int} (h : r.Exactly toInt n result)
    (keeps : ∀ a, r.Contains (toInt a) → ofPut (put a) = toInt a) :
    r.Exactly ofPut n (result.map put) where
  within inside := by
    obtain ⟨a, taken, rfl⟩ := h.within inside
    exact ⟨put a, by rw [taken]; rfl, keeps a inside⟩
  outside other := by
    obtain ⟨e, refused⟩ := h.outside other
    exact ⟨e, by rw [refused]; rfl⟩

/-- A further check leaves what lies within the narrower range. -/
theorem Exactly.narrower (h : r.Exactly toInt n result)
    (narrower : inner.Contains n → r.Contains n) (f : IntegerError → ε) :
    inner.Exactly id n (result >>= fun a => (inner.check (toInt a)).mapError f) := by
  by_cases inside : r.Contains n
  · obtain ⟨a, taken, rfl⟩ := h.within inside
    rw [taken]
    exact (exactly_check inner (toInt a)).mapError f
  · obtain ⟨e, refused⟩ := h.outside inside
    rw [refused]
    exact ⟨fun within => absurd (narrower within) inside, fun _ => ⟨e, rfl⟩⟩

/-! ### Words -/

/-- Words stand for the integers of a range, one for each. -/
structure Words (r : IntegerRange) (toInt : α → Int) (ofInt : Int → α) : Prop where
  contains (a : α) : r.Contains (toInt a)
  keeps {m : Int} (within : r.Contains m) : toInt (ofInt m) = m

theorem words_int16 : Words (.signed 16) Int16.toInt Int16.ofInt where
  contains m := by
    have low := m.le_toInt
    have high := m.toInt_lt
    simp only [Contains, signed]
    omega
  keeps within := by
    obtain ⟨low, high⟩ := within
    simp only [signed] at low high
    exact Int16.toInt_ofInt_of_le (by omega) (by omega)

theorem words_int32 : Words (.signed 32) Int32.toInt Int32.ofInt where
  contains m := by
    have low := m.le_toInt
    have high := m.toInt_lt
    simp only [Contains, signed]
    omega
  keeps within := by
    obtain ⟨low, high⟩ := within
    simp only [signed] at low high
    exact Int32.toInt_ofInt_of_le (by omega) (by omega)

theorem words_int64 : Words (.signed 64) Int64.toInt Int64.ofInt where
  contains m := by
    have low := m.le_toInt
    have high := m.toInt_lt
    simp only [Contains, signed]
    omega
  keeps within := by
    obtain ⟨low, high⟩ := within
    simp only [signed] at low high
    exact Int64.toInt_ofInt_of_le (by omega) (by omega)

/-- A word stands for its integer. -/
theorem Words.exactly_word (words : Words r toInt ofInt) {a : α} (same : toInt a = n) :
    r.Exactly toInt n (.ok a : Except ε α) where
  within _ := ⟨a, rfl, same⟩
  outside other := absurd (same ▸ words.contains a) other

/-- An integer is narrowed to its word, if there is one. -/
theorem Words.exactly_narrow (words : Words r toInt ofInt) (source target : Kind) :
    r.Exactly toInt n (Kind.narrow source target r ofInt n) where
  within inside := ⟨ofInt n, if_pos inside, words.keeps inside⟩
  outside other := ⟨_, if_neg other⟩

end IntegerRange

/-! ### Decimals -/

namespace Decimal

private theorem mul_eq_natCast_iff {m : Int} {p c : Nat} (positive : 0 < p) :
    m * p = c ↔ c % p = 0 ∧ ((c / p : Nat) : Int) = m := by
  constructor
  · intro product
    have above : 0 ≤ m := by
      refine Int.nonneg_of_mul_nonneg_left ?_ (Int.natCast_pos.mpr positive)
      rw [product]
      exact Int.natCast_nonneg c
    obtain ⟨k, rfl⟩ := Int.eq_ofNat_of_zero_le above
    have whole : k * p = c := by exact_mod_cast product
    rw [← whole]
    exact ⟨Nat.mul_mod_left k p, by rw [Nat.mul_div_cancel k positive]⟩
  · rintro ⟨whole, rfl⟩
    exact_mod_cast Nat.div_mul_cancel (Nat.dvd_of_mod_eq_zero whole)

/-- A decimal is as large as an integer exactly if it is a whole number and the integer its integral
part. -/
theorem mul_eq_signedCoefficient_iff {d : Decimal} {n : Int} :
    n * 10 ^ d.scale = d.signedCoefficient ↔ d.isInteger = true ∧ d.integralPart = n := by
  have positive : 0 < 10 ^ d.scale := Nat.pow_pos (by decide)
  have power : ((10 ^ d.scale : Nat) : Int) = 10 ^ d.scale := by push_cast; rfl
  simp only [isInteger, integralPart, signedCoefficient, beq_iff_eq, ← power]
  cases d.negative with
  | false => exact mul_eq_natCast_iff positive
  | true =>
    have magnitude := mul_eq_natCast_iff (m := -n) (c := d.coefficient) positive
    simp only [if_true]
    constructor
    · intro product
      obtain ⟨whole, part⟩ := magnitude.mp (by rw [Int.neg_mul, product, Int.neg_neg])
      exact ⟨whole, by rw [part, Int.neg_neg]⟩
    · rintro ⟨whole, rfl⟩
      have product := (mul_eq_natCast_iff positive).mpr ⟨whole, rfl⟩
      rw [Int.neg_mul, product]

end Decimal

/-- A decimal is taken for the integer that it denotes, if that has a word. -/
theorem IntegerRange.Words.exactly_wholeDecimal {α : Type} {r : IntegerRange} {n : Int}
    {toInt : α → Int} {ofInt : Int → α} (words : Words r toInt ofInt) (target : Kind) {d : Decimal}
    (denotes : n * 10 ^ d.scale = d.signedCoefficient) :
    r.Exactly toInt n (Kind.wholeDecimal target r ofInt d) := by
  obtain ⟨whole, rfl⟩ := Decimal.mul_eq_signedCoefficient_iff.mp denotes
  simp only [Kind.wholeDecimal, whole, Bool.not_true, Bool.false_eq_true, if_false]
  exact ⟨fun inside => ⟨_, if_pos inside, words.keeps inside⟩, fun other => ⟨_, if_neg other⟩⟩

/-- A decimal with a fractional part is taken for no integer. -/
theorem Kind.wholeDecimal_fractional {α : Type} (target : Kind) (r : IntegerRange)
    (ofInt : Int → α) {d : Decimal} (fractional : ∀ n : Int, n * 10 ^ d.scale ≠ d.signedCoefficient) :
    ∃ e, wholeDecimal target r ofInt d = .error e := by
  cases whole : d.isInteger with
  | true =>
    exact absurd (Decimal.mul_eq_signedCoefficient_iff.mpr ⟨whole, rfl⟩) (fractional d.integralPart)
  | false =>
    rw [wholeDecimal, whole]
    exact ⟨_, rfl⟩

/-! ### Integers of fields -/

/-- The kinds that hold integers. -/
inductive IntegerKind
  | int16
  | int32
  | int64
  deriving DecidableEq, Repr

namespace IntegerKind

@[reducible] def kind : IntegerKind → Kind
  | int16 => .int16
  | int32 => .int32
  | int64 => .int64

def range : IntegerKind → IntegerRange
  | int16 => .signed 16
  | int32 => .signed 32
  | int64 => .signed 64

def toInt : (t : IntegerKind) → t.kind.Payload → Int
  | int16, a => Int16.toInt a
  | int32, a => Int32.toInt a
  | int64, a => Int64.toInt a

theorem contains_toInt (t : IntegerKind) (a : t.kind.Payload) : t.range.Contains (t.toInt a) := by
  cases t with
  | int16 => exact IntegerRange.words_int16.contains a
  | int32 => exact IntegerRange.words_int32.contains a
  | int64 => exact IntegerRange.words_int64.contains a

theorem toInt_inj (t : IntegerKind) {a b : t.kind.Payload} : t.toInt a = t.toInt b ↔ a = b := by
  cases t with
  | int16 => exact Int16.toInt_inj
  | int32 => exact Int32.toInt_inj
  | int64 => exact Int64.toInt_inj

end IntegerKind

/-- The value is a word of the integer. -/
inductive Value.Word : Value → Int → Prop
  | mk (s : IntegerKind) (a : s.kind.Payload) : Word (.scalar s.kind (some a)) (s.toInt a)

/-- The value denotes the integer: its words do, and a decimal that is exactly as large, though not
to the narrowest kind. -/
inductive IntegerKind.Denotes (t : IntegerKind) : Value → Int → Prop
  | word {v : Value} {n : Int} (holds : v.Word n) : t.Denotes v n
  | decimal {d : Decimal} {n : Int} (wide : t ≠ .int16)
      (exact : n * 10 ^ d.scale = d.signedCoefficient) : t.Denotes (.scalar .decimal (some d)) n

namespace IntegerKind

variable {v : Value} {n : Int}

open IntegerRange (words_int16 words_int32 words_int64)

theorem exactly_word (t s : IntegerKind) (a : s.kind.Payload) :
    t.range.Exactly t.toInt (s.toInt a) (t.kind.ofValue? (.scalar s.kind (some a))) := by
  cases t with
  | int16 =>
    cases s with
    | int16 => exact words_int16.exactly_word rfl
    | int32 => exact words_int16.exactly_narrow .int32 .int16
    | int64 => exact words_int16.exactly_narrow .int64 .int16
  | int32 =>
    cases s with
    | int16 => exact words_int32.exactly_word (Int16.toInt_toInt32 a)
    | int32 => exact words_int32.exactly_word rfl
    | int64 => exact words_int32.exactly_narrow .int64 .int32
  | int64 =>
    cases s with
    | int16 => exact words_int64.exactly_word (Int16.toInt_toInt64 a)
    | int32 => exact words_int64.exactly_word (Int32.toInt_toInt64 a)
    | int64 => exact words_int64.exactly_word rfl

/-- Whatever denotes an integer is taken for it, if it lies within the range, and else refused. -/
theorem exactly_ofValue? {t : IntegerKind} (denotes : t.Denotes v n) :
    t.range.Exactly t.toInt n (t.kind.ofValue? v) := by
  cases denotes with
  | word holds =>
    obtain ⟨s, a⟩ := holds
    exact t.exactly_word s a
  | decimal wide exact =>
    cases t with
    | int16 => exact absurd rfl wide
    | int32 => exact words_int32.exactly_wholeDecimal .int32 exact
    | int64 => exact words_int64.exactly_wholeDecimal .int64 exact

/-- What denotes no integer is refused. -/
theorem ofValue?_of_not_denotes (t : IntegerKind) (nothing : ∀ n, ¬ t.Denotes v n) :
    ∃ e, t.kind.ofValue? v = .error e := by
  cases v with
  | null => exact t.kind.ofValue?_null rfl
  | list items element => cases t <;> exact ⟨_, rfl⟩
  | scalar k payload =>
    cases payload with
    | none => exact t.kind.ofValue?_null rfl
    | some x =>
      cases k with
      | int16 => exact absurd (.word (.mk .int16 x)) (nothing x.toInt)
      | int32 => exact absurd (.word (.mk .int32 x)) (nothing x.toInt)
      | int64 => exact absurd (.word (.mk .int64 x)) (nothing x.toInt)
      | decimal =>
        cases t with
        | int16 => exact ⟨_, rfl⟩
        | int32 =>
          exact Kind.wholeDecimal_fractional _ _ _ fun n whole => nothing n (.decimal nofun whole)
        | int64 =>
          exact Kind.wholeDecimal_fractional _ _ _ fun n whole => nothing n (.decimal nofun whole)
      | _ => cases t <;> exact ⟨_, rfl⟩

/-- A value is taken for a word exactly if it denotes the integer of the word. -/
theorem ofValue?_eq_ok_iff (t : IntegerKind) {a : t.kind.Payload} :
    t.kind.ofValue? v = .ok a ↔ t.Denotes v (t.toInt a) := by
  constructor
  · intro taken
    by_cases denotes : ∃ n, t.Denotes v n
    · obtain ⟨n, denotes⟩ := denotes
      by_cases inside : t.range.Contains n
      · obtain ⟨b, found, rfl⟩ := (exactly_ofValue? denotes).within inside
        cases taken.symm.trans found
        exact denotes
      · obtain ⟨e, refused⟩ := (exactly_ofValue? denotes).outside inside
        cases taken.symm.trans refused
    · obtain ⟨e, refused⟩ := t.ofValue?_of_not_denotes (not_exists.mp denotes)
      cases taken.symm.trans refused
  · intro denotes
    obtain ⟨b, found, same⟩ := (exactly_ofValue? denotes).within (t.contains_toInt a)
    rw [found, t.toInt_inj.mp same]

theorem exists_ofValue?_iff (t : IntegerKind) :
    (∃ a, t.kind.ofValue? v = .ok a) ↔ ∃ n, t.Denotes v n ∧ t.range.Contains n := by
  constructor
  · rintro ⟨a, taken⟩
    exact ⟨t.toInt a, t.ofValue?_eq_ok_iff.mp taken, t.contains_toInt a⟩
  · rintro ⟨n, denotes, inside⟩
    obtain ⟨a, taken, -⟩ := (exactly_ofValue? denotes).within inside
    exact ⟨a, taken⟩

theorem exists_error_iff (t : IntegerKind) :
    (∃ e, t.kind.ofValue? v = .error e) ↔ ¬ ∃ n, t.Denotes v n ∧ t.range.Contains n := by
  rw [← t.exists_ofValue?_iff]
  cases t.kind.ofValue? v with
  | ok a => exact ⟨nofun, fun refused => absurd ⟨a, rfl⟩ refused⟩
  | error e => exact ⟨fun _ => nofun, fun _ => ⟨e, rfl⟩⟩

end IntegerKind

/-- A word is taken for true exactly if its integer is not zero. -/
theorem Value.Word.ofValue?_boolean {v : Value} {n : Int} (holds : v.Word n) :
    Kind.ofValue? .boolean v = .ok (decide (n ≠ 0)) := by
  obtain ⟨s, a⟩ := holds
  have nonzero [BEq s.kind.Payload] [LawfulBEq s.kind.Payload] (b : s.kind.Payload)
      (zero : s.toInt b = 0) : (a != b) = decide (s.toInt a ≠ 0) := by
    rw [Bool.eq_iff_iff, bne_iff_ne, decide_eq_true_iff, ← zero, Ne, Ne, s.toInt_inj]
  cases s with
  | int16 => exact congrArg Except.ok (nonzero 0 rfl)
  | int32 => exact congrArg Except.ok (nonzero 0 rfl)
  | int64 => exact congrArg Except.ok (nonzero 0 rfl)

/-! ### Fields -/

namespace FieldType

/-- A field of an integer kind takes exactly what denotes an integer within its range, as this
integer, and refuses all else; a truth value is read from an integer as whether it is not zero. A
list of fields of any type, lists among them, takes a list whose elements all convert, as these in
their order, and refuses another as the first element is refused that does not. -/
theorem narrowing_exact_or_refused :
    (∀ (t : IntegerKind) (v : Value),
      (∀ a, (scalar t.kind).ofValue? v = .ok a ↔ t.Denotes v (t.toInt a)) ∧
      ((∃ a, (scalar t.kind).ofValue? v = .ok a) ↔
        ∃ n, t.Denotes v n ∧ t.range.Contains n) ∧
      ((∃ e, (scalar t.kind).ofValue? v = .error e) ↔
        ¬ ∃ n, t.Denotes v n ∧ t.range.Contains n)) ∧
    (∀ v n, v.Word n → (scalar .boolean).ofValue? v = .ok (decide (n ≠ 0))) ∧
    ∀ t : FieldType,
      (∀ vs element,
        (∀ xs, (listed t).ofValue? (.list (some vs) element) = .ok xs ↔
          List.Forall₂ (fun v x => t.ofValue? v = .ok x) vs xs) ∧
        ((∃ xs, (listed t).ofValue? (.list (some vs) element) = .ok xs) ↔
          ∀ v ∈ vs, ∃ x, t.ofValue? v = .ok x) ∧
        ∀ e, (listed t).ofValue? (.list (some vs) element) = .error e ↔
          ∃ front v rest, vs = front ++ v :: rest ∧ (∀ w ∈ front, ∃ x, t.ofValue? w = .ok x) ∧
            t.ofValue? v = .error e) ∧
      ∀ v, (∀ vs element, v ≠ .list (some vs) element) →
        ∃ e, (listed t).ofValue? v = .error e := by
  refine ⟨fun t v => ⟨fun a => t.ofValue?_eq_ok_iff, t.exists_ofValue?_iff, t.exists_error_iff⟩,
    fun v n holds => holds.ofValue?_boolean, fun t => ⟨fun vs element => ?_, fun v other => ?_⟩⟩
  · exact ⟨fun xs => convertAll_eq_ok_iff, exists_convertAll_iff,
      fun e => convertAll_eq_error_iff⟩
  · exact t.ofValue?_listed_of_ne_list other

/-- Words of two widths and a decimal whose decimals are zeros are one list of integers. Another
list fails by its fraction and not by the null behind it, and a zero is false. -/
theorem mixedNumbers_narrow :
    let whole : Decimal := ⟨false, 4200, 2, by decide, by decide⟩
    let fraction : Decimal := ⟨false, 425, 1, by decide, by decide⟩
    let t : FieldType := .listed (.scalar .int32)
    t.ofValue? (.list (some [.integer 300, .scalar .decimal (some whole),
      .scalar .int16 (some (-7))]) .null) = .ok [300, 42, -7] ∧
    t.ofValue? (.list (some [.integer 300, .scalar .decimal (some fraction), .null]) .null) =
      .error (.notInteger fraction "i32") ∧
    (Value.scalar .int32 (some 0)).Word 0 ∧
    (scalar .boolean).ofValue? (.scalar .int32 (some 0)) = .ok false ∧
    (∀ vs element, Value.list none .null ≠ .list (some vs) element) ∧
    ∃ e, t.ofValue? (.list none .null) = .error e := by
  intro whole fraction t
  obtain ⟨integers, truths, lists⟩ := narrowing_exact_or_refused
  have word : (Value.integer 300).Word 300 := .mk .int64 300
  have narrow : (Value.scalar .int16 (some (-7))).Word (-7) := .mk .int16 (-7)
  have zero : (Value.scalar .int32 (some 0)).Word 0 := .mk .int32 0
  have exact : (42 : Int) * 10 ^ whole.scale = whole.signedCoefficient := by decide
  have first := ((integers .int32 _).1 300).mpr (.word word)
  have second := ((integers .int32 _).1 42).mpr (.decimal nofun exact)
  have third := ((integers .int32 _).1 (-7)).mpr (.word narrow)
  have failed : (scalar .int32).ofValue? (.scalar .decimal (some fraction)) =
      .error (.notInteger fraction "i32") := if_pos (by decide)
  have missing : ∀ vs element, Value.list none .null ≠ .list (some vs) element := nofun
  obtain ⟨elements, others⟩ := lists (.scalar .int32)
  refine ⟨((elements _ _).1 _).mpr ?_, ((elements _ _).2.2 _).mpr ?_, zero, truths _ _ zero,
    missing, others _ missing⟩
  · exact .cons first (.cons second (.cons third .nil))
  · exact ⟨[.integer 300], _, [.null], rfl, List.forall_mem_singleton.mpr ⟨_, first⟩, failed⟩

end FieldType

end TableAccess
