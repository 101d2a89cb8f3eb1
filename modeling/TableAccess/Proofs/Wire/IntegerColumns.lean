import TableAccess.Proofs.Value.Narrowing
import TableAccess.Proofs.Wire.Words
import TableAccess.Proofs.Wire.Writing

/-!
Integers in columns of integer types.

Whatever value carries an integer, it is written as the word of exactly this integer, or not at all
when the integer lies outside of the range of the column. All checks are made before the first byte
is put out. A word is read as the integer that it was written for.
-/

set_option autoImplicit false
set_option relaxedAutoImplicit false

namespace TableAccess

namespace Wire

/-! ### Column types -/

/-- The types of columns that hold integers. -/
inductive IntegerType
  | char
  | int2
  | int4
  | int8
  | oid
  deriving DecidableEq, Repr

namespace IntegerType

def scalar : IntegerType → Scalar
  | char => .char
  | int2 => .int2
  | int4 => .int4
  | int8 => .int8
  | oid => .oid

/-- The bytes of a word of the type. -/
def width : IntegerType → Nat
  | char => 1
  | int2 => 2
  | int4 => 4
  | int8 => 8
  | oid => 4

def range : IntegerType → IntegerRange
  | char => .signed 8
  | int2 => .signed 16
  | int4 => .signed 32
  | int8 => .signed 64
  | oid => .unsigned 32

/-- An integer within a range narrower than that of its kind. -/
def ranged (r : IntegerRange) (n : Int) : Except EncodeError Int := (r.check n).mapError .range

/-- The integer that a value is written as. -/
def integer (t : IntegerType) (v : Value) : Except EncodeError Int :=
  match t with
  | char => convert .int16 v >>= fun n => ranged (.signed 8) n.toInt
  | int2 => (convert .int16 v).map Int16.toInt
  | int4 => (convert .int32 v).map Int32.toInt
  | int8 => (convert .int64 v).map Int64.toInt
  | oid => convert .int64 v >>= fun n => ranged (.unsigned 32) n.toInt

theorem encode_eq (t : IntegerType) (v : Value) :
    t.scalar.encode v = (t.integer v).map (bytesOfInt t.width) := by
  have checked (r : IntegerRange) (width : Nat) (n : Int) :
      integerImage r width n = (ranged r n).map (bytesOfInt width) := by
    rw [integerImage, ranged]
    cases r.check n <;> rfl
  cases t with
  | char =>
    simp only [scalar, Scalar.encode, reduceCtorEq, if_false, integer]
    cases convert .int16 v with
    | error e => rfl
    | ok n => exact checked (.signed 8) 1 n.toInt
  | int2 =>
    simp only [scalar, Scalar.encode, reduceCtorEq, if_false, integer]
    cases convert .int16 v <;> rfl
  | int4 =>
    simp only [scalar, Scalar.encode, reduceCtorEq, if_false, integer]
    cases convert .int32 v <;> rfl
  | int8 =>
    simp only [scalar, Scalar.encode, reduceCtorEq, if_false, integer]
    cases convert .int64 v <;> rfl
  | oid =>
    simp only [scalar, Scalar.encode, reduceCtorEq, if_false, integer]
    cases convert .int64 v with
    | error e => rfl
    | ok n => exact checked (.unsigned 32) 4 n.toInt

end IntegerType

/-! ### Carriers -/

/-- The values that carry an integer: words that have room for it, and its numeral. -/
inductive Carries (n : Int64) : Value → Prop
  | int16 (m : Int16) (same : m.toInt = n.toInt) : Carries n (.scalar .int16 (some m))
  | int32 (m : Int32) (same : m.toInt = n.toInt) : Carries n (.scalar .int32 (some m))
  | int64 : Carries n (.scalar .int64 (some n))
  | numeral : Carries n (.text (Text.intText n.toInt))

section Carriers

variable {n : Int64} {v : Value}

/-- A numeral is read as the word of its integer, if there is one. -/
private theorem exactly_numeral {α : Type} {bits : Nat} {toInt : α → Int} {ofInt : Int → α}
    (words : (IntegerRange.signed bits).Words toInt ofInt) (m : Int) :
    (IntegerRange.signed bits).Exactly toInt m ((readSigned bits (Text.intText m)).map ofInt) := by
  have power : (0 : Int) < 2 ^ (bits - 1) := Int.pow_pos (by decide)
  have negatives : (IntegerRange.signed bits).low < 0 := by
    simp only [IntegerRange.signed]
    omega
  have zero : (IntegerRange.signed bits).Contains 0 := by
    simp only [IntegerRange.Contains, IntegerRange.signed]
    omega
  have read : (IntegerRange.signed bits).Exactly id m (readSigned bits (Text.intText m)) := by
    rw [readSigned, Text.intText, String.toList_ofList,
      IntegerRange.read_signedNumeral negatives zero]
    exact (IntegerRange.exactly_check _ m).mapError _
  exact read.map fun _ => words.keeps

/-- Whatever carries an integer is taken for it, if it lies within the range, and else refused. -/
theorem exactly_convert (t : IntegerKind) (carries : Carries n v) :
    t.range.Exactly t.toInt n.toInt (convert t.kind v) := by
  have word (s : IntegerKind) (a : s.kind.Payload) (same : s.toInt a = n.toInt) :
      t.range.Exactly t.toInt n.toInt
        ((t.kind.ofValue? (.scalar s.kind (some a))).mapError EncodeError.conversion) :=
    same ▸ (t.exactly_word s a).mapError _
  cases carries with
  | int16 m same => exact word .int16 m same
  | int32 m same => exact word .int32 m same
  | int64 => exact word .int64 n rfl
  | numeral =>
    cases t with
    | int16 => exact (exactly_numeral IntegerRange.words_int16 n.toInt).mapError _
    | int32 => exact (exactly_numeral IntegerRange.words_int32 n.toInt).mapError _
    | int64 => exact (exactly_numeral IntegerRange.words_int64 n.toInt).mapError _

/-- Whatever carries an integer is written as this integer where that lies within the range. -/
theorem IntegerType.exactly_integer (t : IntegerType) (carries : Carries n v) :
    t.range.Exactly id n.toInt (t.integer v) := by
  cases t with
  | char =>
    refine (exactly_convert .int16 carries).narrower ?_ _
    simp only [range, IntegerKind.range, IntegerRange.Contains, IntegerRange.signed]
    omega
  | int2 => exact (exactly_convert .int16 carries).map fun _ _ => rfl
  | int4 => exact (exactly_convert .int32 carries).map fun _ _ => rfl
  | int8 => exact (exactly_convert .int64 carries).map fun _ _ => rfl
  | oid =>
    refine (exactly_convert .int64 carries).narrower ?_ _
    simp only [range, IntegerKind.range, IntegerRange.Contains, IntegerRange.signed,
      IntegerRange.unsigned]
    omega

end Carriers

/-! ### Words -/

/-- The word of an integer within its range is read as the integer. -/
theorem wholeInt_bytesOfInt {width : Nat} {n : Int} (positive : 0 < width)
    (within : (IntegerRange.signed (8 * width)).Contains n) :
    wholeInt width .size (bytesOfInt width n) = .ok n := by
  have fits : Fits (8 * width) n := by
    simp only [IntegerRange.Contains, IntegerRange.signed] at within
    unfold Fits
    omega
  rw [wholeInt_word (length_bytesOfInt width n), intOfBytes_bytesOfInt positive fits]

/-- The word of a number without a sign stands for the number. -/
theorem natOfBytes_bytesOfInt {width : Nat} {n : Int}
    (within : (IntegerRange.unsigned (8 * width)).Contains n) :
    natOfBytes (bytesOfInt width n) = n.toNat := by
  have states : (256 ^ width : Nat) = 2 ^ (8 * width) := (Nat.pow_mul 2 8 width).symm
  obtain ⟨low, high⟩ := within
  simp only [IntegerRange.unsigned] at low high
  have below : n < (256 ^ width : Nat) := by
    rw [states, Int.natCast_pow]
    exact Int.lt_of_le_sub_one high
  have number := (isWord_bytesOfInt width n).number
  rw [Int.emod_eq_of_lt low below] at number
  omega

theorem toInt64_int16 {n : Int64} (within : (IntegerRange.signed 16).Contains n.toInt) :
    (Int16.ofInt n.toInt).toInt64 = n := by
  rw [← Int64.toInt_inj, Int16.toInt_toInt64, IntegerRange.words_int16.keeps within]

theorem toInt64_int32 {n : Int64} (within : (IntegerRange.signed 32).Contains n.toInt) :
    (Int32.ofInt n.toInt).toInt64 = n := by
  rw [← Int64.toInt_inj, Int32.toInt_toInt64, IntegerRange.words_int32.keeps within]

/-- The word that an integer is written as is read as the integer. -/
theorem IntegerType.decode_word (t : IntegerType) {n : Int64} (within : t.range.Contains n.toInt) :
    ∃ w, decode (.scalar t.scalar) (some (bytesOfInt t.width n.toInt)) = .ok w ∧
      w.integer? = some n := by
  cases t with
  | char =>
    have wide : (IntegerRange.signed 16).Contains n.toInt := by
      simp only [range, IntegerRange.Contains, IntegerRange.signed] at within ⊢
      omega
    have word : wholeInt 1 .size (bytesOfInt 1 n.toInt) = .ok n.toInt :=
      wholeInt_bytesOfInt (by decide) within
    refine ⟨.scalar .int16 (some (Int16.ofInt n.toInt)), ?_, congrArg some (toInt64_int16 wide)⟩
    simp only [decode, scalar, Scalar.ofImage, width, word]
    rfl
  | int2 =>
    have word : wholeInt 2 .size (bytesOfInt 2 n.toInt) = .ok n.toInt :=
      wholeInt_bytesOfInt (by decide) within
    refine ⟨.scalar .int16 (some (Int16.ofInt n.toInt)), ?_, congrArg some (toInt64_int16 within)⟩
    simp only [decode, scalar, Scalar.ofImage, width, word]
    rfl
  | int4 =>
    have word : wholeInt 4 .size (bytesOfInt 4 n.toInt) = .ok n.toInt :=
      wholeInt_bytesOfInt (by decide) within
    refine ⟨.scalar .int32 (some (Int32.ofInt n.toInt)), ?_, congrArg some (toInt64_int32 within)⟩
    simp only [decode, scalar, Scalar.ofImage, width, word]
    rfl
  | int8 =>
    have word : wholeInt 8 .size (bytesOfInt 8 n.toInt) = .ok n.toInt :=
      wholeInt_bytesOfInt (by decide) within
    refine ⟨.integer (Int64.ofInt n.toInt), ?_, congrArg some (Int64.ofInt_toInt n)⟩
    simp only [decode, scalar, Scalar.ofImage, width, word]
    rfl
  | oid =>
    have number : natOfBytes (bytesOfInt 4 n.toInt) = n.toInt.toNat := natOfBytes_bytesOfInt within
    have same : Int64.ofNat n.toInt.toNat = n := by
      rw [← Int64.ofInt_eq_ofNat, Int.toNat_of_nonneg within.1, Int64.ofInt_toInt]
    refine ⟨.integer (Int64.ofNat n.toInt.toNat), ?_, congrArg some same⟩
    simp only [decode, scalar, Scalar.ofImage, width, exactly_word (length_bytesOfInt 4 n.toInt),
      Except.map, number]
    rfl

/-! ### Columns -/

/-- A value written as one of an integer type behind what a buffer holds. -/
def IntegerType.write (t : IntegerType) (v : Value) : Output Bool := Wire.write (.scalar t.scalar) v

theorem Carries.encode_eq {n : Int64} {v : Value} (carries : Carries n v) (t : IntegerType) :
    encode (.scalar t.scalar) v =
      (t.integer v).map fun m => some (bytesOfInt t.width m) := by
  have some_value : v.isNull = false := by cases carries <;> rfl
  rw [encode, some_value, if_neg Bool.false_ne_true, t.encode_eq]
  cases t.integer v <;> rfl

/-- An integer within the range of a column is written as its word, whatever carries it, and read
back from the word. Any other integer is refused, whatever carries it, and nothing is put out. -/
theorem integer_columns_exact (t : IntegerType) (n : Int64) :
    (t.range.Contains n.toInt →
      IsWord t.width n.toInt (bytesOfInt t.width n.toInt) ∧
      (∀ v, Carries n v →
        encode (.scalar t.scalar) v = .ok (some (bytesOfInt t.width n.toInt)) ∧
        ∀ out, t.write v out = .ok false (out ++ bytesOfInt t.width n.toInt)) ∧
      ∃ w, decode (.scalar t.scalar) (some (bytesOfInt t.width n.toInt)) = .ok w ∧
        w.integer? = some n) ∧
    (¬ t.range.Contains n.toInt →
      ∀ v, Carries n v → ∃ e, encode (.scalar t.scalar) v = .error e ∧
        ∀ out, t.write v out = .error e out) := by
  refine ⟨fun within => ⟨isWord_bytesOfInt t.width n.toInt, fun v carries => ?_,
    t.decode_word within⟩, fun outside v carries => ?_⟩
  · obtain ⟨m, taken, rfl⟩ := (t.exactly_integer carries).within within
    have written :
        encode (.scalar t.scalar) v = .ok (some (bytesOfInt t.width n.toInt)) := by
      rw [carries.encode_eq, taken]
      rfl
    exact ⟨written, write_of_encode written⟩
  · obtain ⟨e, refused⟩ := (t.exactly_integer carries).outside outside
    have failed : encode (.scalar t.scalar) v = .error e := by
      rw [carries.encode_eq, refused]
      rfl
    exact ⟨e, failed, write_of_refuse failed⟩

/-- The largest identifier of an object has no room in the signed words of its width. -/
theorem largest_oid_exact :
    (∀ v, Carries 4294967295 v →
      encode (.scalar .oid) v = .ok (some [255, 255, 255, 255])) ∧
    (∃ w, decode (.scalar .oid) (some [255, 255, 255, 255]) = .ok w ∧
      w.integer? = some 4294967295) ∧
    (∀ v, Carries 4294967295 v →
      ∃ e, encode (.scalar .int4) v = .error e ∧
        ∀ out, IntegerType.int4.write v out = .error e out) ∧
    Carries 4294967295 (.text "4294967295") := by
  have within : IntegerType.oid.range.Contains (4294967295 : Int64).toInt := by decide
  have outside : ¬ IntegerType.int4.range.Contains (4294967295 : Int64).toInt := by decide
  obtain ⟨-, written, read⟩ := (integer_columns_exact .oid 4294967295).1 within
  have refused := (integer_columns_exact .int4 4294967295).2 outside
  have word : bytesOfInt 4 (4294967295 : Int64).toInt = [255, 255, 255, 255] := by decide
  have text : Text.intText (4294967295 : Int64).toInt = "4294967295" := by decide +kernel
  refine ⟨fun v carries => ?_, ?_, refused, text ▸ .numeral⟩
  · exact word ▸ (written v carries).1
  · exact word ▸ read

end Wire

end TableAccess
