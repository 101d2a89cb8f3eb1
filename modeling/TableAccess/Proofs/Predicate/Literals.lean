import TableAccess.Proofs.Predicate.Reading
import TableAccess.Proofs.Text.Numeral

/-!
The texts that values have in conditions. Where a value has a text, it is one word and no
connective, so that it ends the atom that it stands in.
-/

set_option autoImplicit false
set_option relaxedAutoImplicit false

namespace TableAccess.Reading

/-- A text that can stand at the end of an atom. -/
structure Operand (s : String) : Prop where
  word : Word s.toList
  other : connective? s = none

theorem Operand.ne_empty {s : String} (h : Operand s) : s ≠ "" := by
  rintro rfl
  exact h.word.ne_nil rfl

/-- The characters of numbers. -/
def numberChars : List Char :=
  ['0', '1', '2', '3', '4', '5', '6', '7', '8', '9', '.', 'e', '-']

/-- A number, whatever its layout. -/
structure Numeric (w : List Char) : Prop where
  nonempty : w ≠ []
  chars : ∀ c ∈ w, c ∈ numberChars

private theorem connective?_eq_none {s : String} {c : Char} {cs : List Char}
    (text : s.toList = c :: cs) (unlike : c.toUpper ≠ 'A' ∧ c.toUpper ≠ 'O') :
    connective? s = none := by
  simp only [connective?, upper, text, List.map_cons, List.cons.injEq, unlike.1, unlike.2,
    false_and, if_false]

theorem Numeric.operand {s : String} (h : Numeric s.toList) : Operand s := by
  have plain : ∀ c ∈ numberChars, isPlain c = true := forall_mem_of_all (by decide)
  have unlike : ∀ c ∈ numberChars, c.toUpper ≠ 'A' ∧ c.toUpper ≠ 'O' :=
    forall_mem_of_all (by decide)
  obtain ⟨c, cs, text⟩ := List.exists_cons_of_ne_nil h.nonempty
  have first : c ∈ numberChars := h.chars c (by rw [text]; exact List.mem_cons_self)
  refine ⟨?_, connective?_eq_none text (unlike c first)⟩
  exact .plain h.nonempty fun d member => plain d (h.chars d member)

/-! ### Numbers -/

private theorem mem_numberChars_of_isDigit {c : Char} (digit : Text.isDigit c = true) :
    c ∈ numberChars := by
  have digits : ∀ n < 10, Char.ofNat (48 + n) ∈ numberChars := by decide
  simp only [Text.isDigit, Bool.and_eq_true, decide_eq_true_eq] at digit
  have place : 48 + (c.toNat - 48) = c.toNat := by omega
  have member := digits (c.toNat - 48) (by omega)
  rwa [place, Char.ofNat_toNat] at member

private theorem mem_numeral {n : Nat} {c : Char} (member : c ∈ Text.numeral n) :
    c ∈ numberChars :=
  mem_numberChars_of_isDigit (Text.isDigit_of_mem_numeral member)

private theorem mem_zeros {n : Nat} {c : Char} (member : c ∈ List.replicate n '0') :
    c ∈ numberChars := by
  obtain rfl := List.eq_of_mem_replicate member
  decide

private theorem numeric_numeral (n : Nat) : Numeric (Text.numeral n) :=
  ⟨Text.numeral_ne_nil n, fun _ => mem_numeral⟩

private theorem numeric_signed {w : List Char} (h : Numeric w) (negative : Bool) :
    Numeric ((if negative then ['-'] else []) ++ w) := by
  cases negative with
  | false => exact h
  | true => exact ⟨List.cons_ne_nil _ _, List.forall_mem_cons.mpr ⟨by decide, h.chars⟩⟩

private theorem numeric_signedNumeral (n : Int) : Numeric (Text.signedNumeral n) := by
  rw [Text.signedNumeral]
  split
  · exact numeric_signed (numeric_numeral n.natAbs) true
  · exact numeric_numeral n.natAbs

theorem numeric_intText (n : Int) : Numeric (Text.intText n).toList := by
  rw [Text.intText, String.toList_ofList]
  exact numeric_signedNumeral n

private theorem numeric_positional {d : Binary.Digits} (digits : ∀ c ∈ d.digits, c ∈ numberChars) :
    Numeric (Binary.positional d) := by
  rw [Binary.positional]
  split
  · have start : "0.".toList = ['0', '.'] := by decide
    rw [start]
    refine ⟨List.cons_ne_nil _ _, ?_⟩
    have first : ∀ c ∈ ['0', '.'], c ∈ numberChars := forall_mem_of_all (by decide)
    refine List.forall_mem_append.mpr ⟨List.forall_mem_append.mpr ⟨first, ?_⟩, digits⟩
    exact fun _ => mem_zeros
  · let whole := d.exponent.toNat + 1
    let padded := d.digits ++ List.replicate (whole - d.digits.length) '0'
    change Numeric (padded.take whole ++ '.' ::
      (if (padded.drop whole).isEmpty then ['0'] else padded.drop whole))
    have chars : ∀ c ∈ padded, c ∈ numberChars :=
      List.forall_mem_append.mpr ⟨digits, fun _ => mem_zeros⟩
    refine ⟨List.append_ne_nil_of_right_ne_nil _ (List.cons_ne_nil _ _), ?_⟩
    refine List.forall_mem_append.mpr ⟨fun c member => chars c (List.mem_of_mem_take member), ?_⟩
    refine List.forall_mem_cons.mpr ⟨by decide, ?_⟩
    split
    · exact forall_mem_of_all (by decide)
    · exact fun c member => chars c (List.mem_of_mem_drop member)

private theorem numeric_scientific {d : Binary.Digits} (digits : ∀ c ∈ d.digits, c ∈ numberChars) :
    Numeric (Binary.scientific d) := by
  obtain ⟨ds, exponent⟩ := d
  have tail : ∀ c ∈ 'e' :: Text.signedNumeral exponent, c ∈ numberChars :=
    List.forall_mem_cons.mpr ⟨by decide, (numeric_signedNumeral exponent).chars⟩
  rw [Binary.scientific]
  refine ⟨List.append_ne_nil_of_right_ne_nil _ (List.cons_ne_nil _ _), ?_⟩
  refine List.forall_mem_append.mpr ⟨?_, tail⟩
  cases ds with
  | nil => exact List.forall_mem_nil _
  | cons c rest =>
    obtain ⟨first, others⟩ := List.forall_mem_cons.mp digits
    simp only
    split
    · exact List.forall_mem_singleton.mpr first
    · exact List.forall_mem_cons.mpr ⟨first, List.forall_mem_cons.mpr ⟨by decide, others⟩⟩

private theorem mem_shortestOf {p : Precision} {mantissa : Nat} {exponent : Int} {c : Char}
    (member : c ∈ (Binary.shortestOf p mantissa exponent).digits) : c ∈ numberChars := by
  simp only [Binary.shortestOf, List.mem_reverse] at member
  have within := (List.dropWhile_sublist _).subset member
  exact mem_numeral (List.mem_reverse.mp within)

theorem numeric_finite (l : Binary.Layout) (p : Precision) (negative : Bool) (mantissa : Nat)
    (exponent : Int) : Numeric (l.finite p negative mantissa exponent).toList := by
  rw [Binary.Layout.finite, String.toList_ofList]
  refine numeric_signed ?_ negative
  split
  · have zero : "0.0".toList = ['0', '.', '0'] := by decide
    rw [zero]
    exact ⟨List.cons_ne_nil _ _, forall_mem_of_all (by decide)⟩
  · rw [Binary.Layout.write]
    split
    · exact numeric_positional fun _ => mem_shortestOf
    · exact numeric_scientific fun _ => mem_shortestOf

theorem numeric_decimal (d : Decimal) : Numeric d.text.toList := by
  let digits := Text.padded (d.scale + 1) d.coefficient
  have chars : ∀ c ∈ digits, c ∈ numberChars :=
    List.forall_mem_append.mpr ⟨fun _ => mem_zeros, fun _ => mem_numeral⟩
  have long : d.scale + 1 ≤ digits.length := by
    simp only [digits, Text.padded, List.length_append, List.length_replicate]
    omega
  have whole : Numeric (digits.take (digits.length - d.scale)) := by
    refine ⟨?_, fun c member => chars c (List.mem_of_mem_take member)⟩
    refine List.ne_nil_of_length_pos ?_
    rw [List.length_take]
    omega
  simp only [Decimal.text, List.splitAt_eq, String.toList_ofList]
  refine ⟨?_, ?_⟩
  · exact List.append_ne_nil_of_left_ne_nil (numeric_signed whole d.negative).nonempty _
  · refine List.forall_mem_append.mpr ⟨(numeric_signed whole d.negative).chars, ?_⟩
    split
    · exact List.forall_mem_nil _
    · exact List.forall_mem_cons.mpr
        ⟨by decide, fun c member => chars c (List.mem_of_mem_drop member)⟩

/-! ### Texts and other words -/

private theorem operand_quoted {s : String} (body : List Char)
    (text : s.toList = '\'' :: (body ++ ['\''])) (inside : ∀ c ∈ body, c ≠ '\'') : Operand s := by
  refine ⟨?_, connective?_eq_none text (by decide)⟩
  rw [text]
  exact .quoted (by decide) inside

private theorem upperHexDigit_ne_quote (n : Nat) : Text.upperHexDigit n ≠ '\'' := by
  have table : ∀ m < 16, Text.upperHexDigit m ≠ '\'' := by decide
  have same : Text.upperHexDigit n = Text.upperHexDigit (n % 16) := by
    simp only [Text.upperHexDigit, Nat.mod_mod]
  rw [same]
  exact table _ (Nat.mod_lt n (by decide))

/-- No text ends the quotes that it is written between. -/
theorem ne_quote_of_mem_body {s : List Char} {c : Char} (member : c ∈ Literal.body s) :
    c ≠ '\'' := by
  obtain ⟨d, -, encoded⟩ := List.mem_flatMap.mp member
  split at encoded
  · next harmless =>
    rintro rfl
    obtain rfl := List.mem_singleton.mp encoded
    exact absurd harmless (by decide)
  · obtain ⟨b, -, byte⟩ := List.mem_flatMap.mp encoded
    rcases List.mem_cons.mp byte with rfl | digits
    · decide
    · rcases List.mem_cons.mp digits with rfl | last
      · exact upperHexDigit_ne_quote _
      · obtain rfl := List.mem_singleton.mp last
        exact upperHexDigit_ne_quote _

theorem toList_string (s : String) :
    (Literal.string s).toList = '\'' :: (Literal.body s.toList ++ ['\'']) := by
  rw [Literal.string, String.toList_ofList]
  rfl

private theorem operand_string (s : String) : Operand (Literal.string s) :=
  operand_quoted (Literal.body s.toList) (toList_string s) fun _ => ne_quote_of_mem_body

theorem operand_null : Operand "null" :=
  ⟨.plain (by decide) (forall_mem_of_all (by decide)), by decide⟩

private theorem operand_boolean (b : Bool) : Operand (if b then "true" else "false") := by
  cases b with
  | false => exact ⟨.plain (by decide) (forall_mem_of_all (by decide)), by decide⟩
  | true => exact ⟨.plain (by decide) (forall_mem_of_all (by decide)), by decide⟩

private theorem operand_float {p : Precision} (x : Binary p) :
    Operand (Literal.float .generic x) := by
  rw [Literal.float]
  split
  · exact (numeric_finite _ p _ _ _).operand
  · next negative infinite =>
    cases negative with
    | false => exact operand_quoted "Infinity".toList (by decide) (forall_mem_of_all (by decide))
    | true => exact operand_quoted "-Infinity".toList (by decide) (forall_mem_of_all (by decide))
  · exact operand_quoted "NaN".toList (by decide) (forall_mem_of_all (by decide))

theorem operand_placeholder (n : Nat) : Operand (Clause.placeholder n) := by
  have text := Clause.toList_placeholder n
  have digits : ∀ c ∈ numberChars, isPlain c = true := forall_mem_of_all (by decide)
  refine ⟨?_, connective?_eq_none text (by decide)⟩
  rw [text]
  refine .plain (List.cons_ne_nil _ _) (List.forall_mem_cons.mpr ⟨by decide, ?_⟩)
  exact fun c member => digits c (mem_numeral member)

end TableAccess.Reading

namespace TableAccess

/-! ### Values -/

/-- The value has a text in conditions: bytes and lists only have one as parameters. -/
def Value.hasText (parameterized : Bool) : Value → Bool
  | .scalar .blob (some _) | .list (some _) _ => parameterized
  | _ => true

private theorem Value.hasText_parameter (v : Value) : v.hasText true = true := by
  unfold Value.hasText
  split <;> rfl

private theorem Value.hasText_null {v : Value} (null : v.isNull = true) (parameterized : Bool) :
    v.hasText parameterized = true := by
  unfold Value.hasText
  split
  · cases null
  · cases null
  · rfl

namespace Reading

private theorem literal_cases (v : Value) :
    (v.hasText false = true ∧ Operand (Dialect.generic.literal v)) ∨
      (v.hasText false = false ∧ Dialect.generic.literal v = "") := by
  cases v with
  | null => exact .inl ⟨rfl, operand_null⟩
  | list items element =>
    cases items with
    | none => exact .inl ⟨rfl, operand_null⟩
    | some vs => exact .inr ⟨rfl, rfl⟩
  | scalar kind payload =>
    cases payload with
    | none => exact .inl ⟨by cases kind <;> rfl, operand_null⟩
    | some x =>
      cases kind with
      | blob => exact .inr ⟨rfl, rfl⟩
      | boolean => exact .inl ⟨rfl, operand_boolean x⟩
      | int16 | int32 | int64 => exact .inl ⟨rfl, (numeric_intText _).operand⟩
      | float32 | float64 => exact .inl ⟨rfl, operand_float x⟩
      | decimal => exact .inl ⟨rfl, (numeric_decimal x).operand⟩
      | varchar | date | time | timestamp | zonedTimestamp | interval | zonedClock | uuid =>
        exact .inl ⟨rfl, operand_string _⟩

/-- A value with a text is one operand, and any other writes nothing. -/
theorem value_cases (v : Value) (c : WriteContext) :
    (v.hasText c.parameterized = true ∧ Operand ((Clause.value .generic v).write c).1) ∨
      (v.hasText c.parameterized = false ∧ ((Clause.value .generic v).write c).1 = "") := by
  cases bound : c.parameterized && !v.isNull with
  | true =>
    rw [Bool.and_eq_true] at bound
    refine .inl ⟨by rw [bound.1, v.hasText_parameter], ?_⟩
    simp only [Clause.value, bound.1, bound.2, Bool.and_self, if_true]
    exact operand_placeholder _
  | false =>
    have literal : ((Clause.value .generic v).write c).1 = Dialect.generic.literal v := by
      simp only [Clause.value, bound, Bool.false_eq_true, if_false]
    have same : v.hasText c.parameterized = v.hasText false := by
      rcases Bool.and_eq_false_iff.mp bound with inline | null
      · rw [inline]
      · rw [Bool.not_eq_false'] at null
        rw [v.hasText_null null, v.hasText_null null]
    rw [literal, same]
    exact literal_cases v

/-! ### Columns -/

private theorem isPlain_of_isAlphanum {c : Char} (name : (c.isAlphanum || c == '_') = true) :
    isPlain c = true := by
  rw [isPlain, isQuote, Bool.not_eq_true']
  cases found : c == ' ' || c == '(' || c == ')' || (c == '\'' || c == '"') with
  | false => rfl
  | true =>
    simp only [Bool.or_eq_true, beq_iff_eq] at found
    rcases found with ((rfl | rfl) | rfl) | rfl | rfl
    all_goals exact absurd name (by decide)

private theorem plain_of_isName {name : String} (h : isName name = true) :
    name.toList ≠ [] ∧ ∀ c ∈ name.toList, isPlain c = true := by
  rw [isName] at h
  split at h
  · cases h
  · next c cs text =>
    simp only [Bool.and_eq_true, List.all_eq_true] at h
    obtain ⟨⟨first, others⟩, -⟩ := h
    have start : (c.isAlphanum || c == '_') = true := by
      rw [Bool.or_eq_true] at first ⊢
      rcases first with letter | underscore
      · exact .inl (by rw [Char.isAlphanum, letter, Bool.true_or])
      · exact .inr underscore
    rw [text]
    refine ⟨List.cons_ne_nil _ _, List.forall_mem_cons.mpr ⟨isPlain_of_isAlphanum start, ?_⟩⟩
    exact fun d member => isPlain_of_isAlphanum (others d member)

private theorem toList_identifier {name : String} (plain : ∀ c ∈ name.toList, isPlain c = true) :
    (Literal.identifier name).toList = '"' :: (name.toList ++ ['"']) := by
  have same : Literal.replaced '"' ['"', '"'] name.toList = name.toList :=
    Literal.replaced_of_not_mem _ fun member => absurd (plain _ member) (by decide)
  rw [Literal.identifier, String.toList_ofList, same]
  rfl

/-- A column is one word wherever it stands, and is read as a column. -/
theorem column_shown {name : String} (h : isName name = true) (c : WriteContext) :
    Word ((Clause.column name).write c).1.toList ∧
      isColumn ((Clause.column name).write c).1 = true := by
  obtain ⟨nonempty, plain⟩ := plain_of_isName h
  cases quotes : c.region.quotesColumns with
  | false =>
    simp only [Clause.column, quotes, Bool.false_eq_true, if_false]
    exact ⟨.plain nonempty plain, by rw [isColumn, h, Bool.or_true]⟩
  | true =>
    simp only [Clause.column, quotes, if_true]
    refine ⟨?_, by rw [isColumn, toList_identifier plain]; rfl⟩
    rw [toList_identifier plain]
    refine .quoted (by decide) ?_
    rintro d member rfl
    exact absurd (plain _ member) (by decide)

end Reading

end TableAccess
