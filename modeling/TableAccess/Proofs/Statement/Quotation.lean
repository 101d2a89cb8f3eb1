import TableAccess.Proofs.Predicate.Literals
import TableAccess.Proofs.Statement.Lexemes
import TableAccess.Proofs.Text.Percent
import TableAccess.Statement.Draft

/-!
Texts between single quotes.

What stands between the quotes is made of harmless characters and of bytes, each a percent sign and
two digits, so that nothing in it can end the literal or start a comment. The text is decoded from
it, and a lexer reads the literal as one lexeme. A point in time that no date tells in Coordinated
Universal Time is the only value whose literal stops the program.
-/

set_option autoImplicit false
set_option relaxedAutoImplicit false

namespace TableAccess.Literal

/-- What can stand between quotes: letters and digits, some punctuation, and bytes as a percent sign
and two upper case hexadecimal digits. -/
inductive IsBody : List Char → Prop
  | nil : IsBody []
  | letter {c : Char} {s : List Char} : c.isAlphanum = true → IsBody s → IsBody (c :: s)
  | punctuation {c : Char} {s : List Char} :
    c ∈ ";,/?:@&=+$_.!~*()#".toList → IsBody s → IsBody (c :: s)
  | byte {high low : Char} {s : List Char} : high ∈ "0123456789ABCDEF".toList →
    low ∈ "0123456789ABCDEF".toList → IsBody s → IsBody ('%' :: high :: low :: s)

/-- The characters of a body. -/
theorem IsBody.mem {s : List Char} (h : IsBody s) : ∀ c ∈ s,
    c.isAlphanum = true ∨ c ∈ "%;,/?:@&=+$_.!~*()#".toList := by
  have digits : ∀ c ∈ "0123456789ABCDEF".toList, c.isAlphanum = true :=
    Reading.forall_mem_of_all (by decide)
  have marks : ∀ c ∈ ";,/?:@&=+$_.!~*()#".toList, c ∈ "%;,/?:@&=+$_.!~*()#".toList :=
    Reading.forall_mem_of_all (by decide)
  induction h with
  | nil => exact fun c member => nomatch member
  | letter letter _ ih => exact List.forall_mem_cons.mpr ⟨.inl letter, ih⟩
  | punctuation mark _ ih => exact List.forall_mem_cons.mpr ⟨.inr (marks _ mark), ih⟩
  | byte high low _ ih =>
    exact List.forall_mem_cons.mpr ⟨.inr (by decide), List.forall_mem_cons.mpr
      ⟨.inl (digits _ high), List.forall_mem_cons.mpr ⟨.inl (digits _ low), ih⟩⟩⟩

/-- A body has no quotes, backslashes, blanks or hyphens. -/
theorem IsBody.notMem {s : List Char} (h : IsBody s) {c : Char}
    (special : c ∈ ['\'', '"', '\\', ' ', '\n', '-']) : c ∉ s := by
  intro member
  have table : ∀ c ∈ ['\'', '"', '\\', ' ', '\n', '-'],
      ¬ (c.isAlphanum = true ∨ c ∈ "%;,/?:@&=+$_.!~*()#".toList) :=
    Reading.forall_mem_of_all (by decide)
  exact table c special (h.mem c member)

private theorem isAlphanum_of_isAsciiAlphanumeric {c : Char}
    (h : Text.isAsciiAlphanumeric c = true) : c.isAlphanum = true := by
  have small : c.toNat < 123 := by
    simp only [Text.isAsciiAlphanumeric, Text.isDigit, Bool.or_eq_true, Bool.and_eq_true,
      decide_eq_true_eq] at h
    omega
  exact Text.forall_char_lt
    (P := fun c => Text.isAsciiAlphanumeric c = true → c.isAlphanum = true) (by decide) small h

/-- Encoded bytes are a body in front of one. -/
private theorem IsBody.bytes (bs : List UInt8) {s : List Char} (h : IsBody s) :
    IsBody (bs.flatMap Text.percentByte ++ s) := by
  have digit (n : Nat) : Text.upperHexDigit n ∈ "0123456789ABCDEF".toList :=
    Text.upperHexDigit_induction (P := (· ∈ "0123456789ABCDEF".toList)) (by decide) n
  induction bs with
  | nil => exact h
  | cons b bs ih => exact .byte (digit _) (digit _) ih

theorem isBody_body (s : List Char) : IsBody (body s) := by
  induction s with
  | nil => exact .nil
  | cons c s ih =>
    have front : body (c :: s) =
        (if isHarmless c then [c] else (Text.utf8 c).flatMap Text.percentByte) ++ body s := rfl
    rw [front]
    split
    · next harmless =>
      rw [isHarmless, Bool.or_eq_true, List.contains_iff_mem] at harmless
      rcases harmless with letter | punctuation
      · exact .letter (isAlphanum_of_isAsciiAlphanumeric letter) ih
      · exact .punctuation punctuation ih
    · exact .bytes _ ih

private theorem ascii_of_isHarmless (c : Char) (harmless : isHarmless c = true) :
    c.toNat < 128 ∧ c ≠ '%' := by
  have marks : ∀ c ∈ ";,/?:@&=+$_.!~*()#".toList, c.toNat < 128 ∧ c ≠ '%' :=
    Reading.forall_mem_of_all (by decide)
  rw [isHarmless, Bool.or_eq_true, List.contains_iff_mem] at harmless
  rcases harmless with letter | punctuation
  · refine ⟨?_, ?_⟩
    · simp only [Text.isAsciiAlphanumeric, Text.isDigit, Bool.or_eq_true, Bool.and_eq_true,
        decide_eq_true_eq] at letter
      omega
    · rintro rfl
      exact absurd letter (by decide)
  · exact marks c punctuation

/-- A text that is written between single quotes is one lexeme. -/
theorem first?_string (s : String) {rest : List Char} (other : rest.head? ≠ some '\'') :
    Lexeme.first? ((string s).toList ++ rest) =
      some (.literal (String.ofList (body s.toList)), rest) := by
  rw [Reading.toList_string, List.cons_append, List.append_assoc, List.singleton_append,
    Lexeme.first?_literal (fun _ => Reading.ne_quote_of_mem_body) other]

theorem string_injective : Function.Injective string := by
  intro s t same
  have chars := congrArg String.toList same
  rw [Reading.toList_string, Reading.toList_string, List.cons_inj_right,
    List.append_left_inj] at chars
  exact String.toList_injective (Text.percentEncode_injective ascii_of_isHarmless chars)

/-- The kinds of values that are written between single quotes. -/
def quotedKinds : List Kind :=
  [.varchar, .date, .time, .timestamp, .zonedTimestamp, .interval, .zonedClock, .uuid]

private theorem literal_quoted (d : Dialect) {k : Kind} (quoted : k ∈ quotedKinds)
    (x : k.Payload) : ∃ text, d.literal (.scalar k (some x)) = string text := by
  cases k with
  | varchar | date | time | timestamp | zonedTimestamp | interval | zonedClock | uuid =>
    exact ⟨_, rfl⟩
  | boolean | int16 | int32 | int64 | float32 | float64 | decimal | blob =>
    exact absurd quoted (by decide)

/-- No date tells the point in time in Coordinated Universal Time. -/
def Undated (t : ZonedTimestamp) : Prop := ∀ date : Date, date.day ≠ t.instant / nanosInDay

theorem fault?_eq_some_iff {v : Value} {e : Fault} : v.fault? = some e ↔
    e = .beyondCalendar ∧ ∃ t, v = .scalar .zonedTimestamp (some t) ∧ Undated t := by
  have undated (t : ZonedTimestamp) : t.toUtc?.isNone = true ↔ Undated t := by
    rw [ZonedTimestamp.toUtc?, Timestamp.ofNanos?, Option.isNone_map, Option.isNone_iff_eq_none]
    exact Date.ofDay?_eq_none_iff
  constructor
  · intro fault
    unfold Value.fault? at fault
    split at fault
    · next t =>
      split at fault
      · next none =>
        cases fault
        exact ⟨rfl, t, rfl, (undated t).mp none⟩
      · cases fault
    · cases fault
  · rintro ⟨rfl, t, rfl, none⟩
    exact if_pos ((undated t).mpr none)

theorem literal?_eq_ok_iff {d : Dialect} {v : Value} {s : String} :
    d.literal? v = .ok s ↔ v.fault? = none ∧ s = d.literal v := by
  rw [Dialect.literal?_eq]
  cases v.fault? with
  | some e => exact iff_of_false (by rintro ⟨⟩) (by rintro ⟨⟨⟩, -⟩)
  | none =>
    rw [Except.ok.injEq, and_iff_right rfl]
    exact eq_comm

theorem literal?_eq_error_iff {d : Dialect} {v : Value} {e : Fault} :
    d.literal? v = .error e ↔
      e = .beyondCalendar ∧ ∃ t, v = .scalar .zonedTimestamp (some t) ∧ Undated t := by
  rw [Dialect.literal?_eq, ← fault?_eq_some_iff]
  cases v.fault? with
  | some e' => rw [Except.error.injEq, Option.some.injEq]
  | none => exact iff_of_false (by rintro ⟨⟩) (by rintro ⟨⟩)

/-- A value that is not bound is written as its literal. -/
theorem attempt_value {x : Draft} (unbound : x.context.parameterized = false) (d : Dialect)
    (v : Value) : x.attempt [v] (fun y => y.value d v) = (d.literal? v).map x.push := by
  rw [Draft.attempt, unbound, if_neg Bool.false_ne_true, Draft.value, unbound, Bool.false_and,
    if_neg Bool.false_ne_true, Dialect.literal?_eq, List.findSome?_singleton]
  cases v.fault? <;> rfl

/-- What writes values stops exactly if it does not bind them and one of them is a point in time
that no date tells. -/
theorem attempt_eq_error_iff {α : Type} {x : Draft} {vs : List Value} {write : Draft → α}
    {e : Fault} : x.attempt vs write = .error e ↔ x.context.parameterized = false ∧
      e = .beyondCalendar ∧ ∃ t, Undated t ∧ .scalar .zonedTimestamp (some t) ∈ vs := by
  have stopped : vs.findSome? Value.fault? = some e ↔
      e = .beyondCalendar ∧ ∃ t, Undated t ∧ .scalar .zonedTimestamp (some t) ∈ vs := by
    induction vs with
    | nil => exact iff_of_false (by rintro ⟨⟩) (by rintro ⟨-, t, -, ⟨⟩⟩)
    | cons v vs ih =>
      rw [List.findSome?_cons]
      cases fault : v.fault? with
      | none =>
        have other (t : ZonedTimestamp) (undated : Undated t) :
            .scalar .zonedTimestamp (some t) ≠ v := by
          rintro rfl
          rw [fault?_eq_some_iff.mpr ⟨rfl, t, rfl, undated⟩] at fault
          cases fault
        rw [ih]
        refine and_congr_right fun _ => exists_congr fun t => and_congr_right fun undated => ?_
        rw [List.mem_cons, or_iff_right (other t undated)]
      | some e' =>
        obtain ⟨rfl, t, rfl, undated⟩ := fault?_eq_some_iff.mp fault
        rw [Option.some.injEq, eq_comm (a := Fault.beyondCalendar)]
        exact ⟨fun same => ⟨same, t, undated, List.mem_cons_self⟩, fun h => h.1⟩
  rw [Draft.attempt]
  cases x.context.parameterized with
  | true => exact iff_of_false (by rintro ⟨⟩) (by rintro ⟨⟨⟩, -⟩)
  | false =>
    rw [if_neg Bool.false_ne_true, and_iff_right rfl, ← stopped]
    cases vs.findSome? Value.fault? with
    | none => exact iff_of_false (by rintro ⟨⟩) (by rintro ⟨⟩)
    | some e' => rw [Except.error.injEq, Option.some.injEq]

/-- A text between quotes consists of harmless characters and encoded bytes, none of which can end
it, from which its bytes are decoded. So different texts have different literals, and a text made of
two is written as they are, one after the other. The values that are written like this, for whatever
server, are texts, dates, times, intervals and identifiers, and each of their literals is one lexeme
up to any text that does not start with a quote. A point in time has such a literal exactly if some
date tells it in Coordinated Universal Time; otherwise the program stops, as with no other value. -/
theorem quoted_literals_lose_nothing :
    (∀ s : String, (string s).toList = '\'' :: (body s.toList ++ ['\'']) ∧ IsBody (body s.toList) ∧
      (∀ c ∈ ['\'', '"', '\\', ' ', '\n', '-'], c ∉ body s.toList) ∧
      (Text.percentDecode (Text.utf8Bytes (body s.toList))).toByteArray = s.toUTF8) ∧
    Function.Injective string ∧
    (∀ s t : String, body (s ++ t).toList = body s.toList ++ body t.toList) ∧
    (∀ (d : Dialect) (s : String), d.literal? (.text s) = .ok (string s)) ∧
    (∀ (d : Dialect) (v : Value) (e : Fault), d.literal? v = .error e ↔
      e = .beyondCalendar ∧ ∃ t, v = .scalar .zonedTimestamp (some t) ∧ Undated t) ∧
    (∀ (d : Dialect) (v : Value) (s : String), d.literal? v = .ok s → s = d.literal v) ∧
    ∀ (d : Dialect), ∀ k ∈ quotedKinds, ∀ x : k.Payload,
      d.literal? (.scalar k (some x)) ≠ .error .beyondCalendar →
        ∃ text, d.literal? (.scalar k (some x)) = .ok (string text) ∧
          ∀ rest : List Char, rest.head? ≠ some '\'' →
            Lexeme.first? ((string text).toList ++ rest) =
              some (.literal (String.ofList (body text.toList)), rest) := by
  refine ⟨fun s => ⟨?_, isBody_body s.toList, ?_, ?_⟩, string_injective, ?_, fun _ _ => rfl,
    fun d v e => literal?_eq_error_iff, fun d v s written => (literal?_eq_ok_iff.mp written).2, ?_⟩
  · exact Reading.toList_string s
  · exact fun c special => (isBody_body s.toList).notMem special
  · have bytes : Text.percentDecode (Text.utf8Bytes (body s.toList)) = Text.utf8Bytes s.toList :=
      Text.percentDecode_percentEncode ascii_of_isHarmless s.toList
    rw [bytes, Text.utf8Bytes_toList]
  · intro s t
    rw [String.toList_append]
    exact Text.percentEncode_append _ _ _
  · intro d k quoted x told
    obtain ⟨text, literal⟩ := literal_quoted d quoted x
    refine ⟨text, ?_, fun rest other => first?_string text other⟩
    cases written : d.literal? (.scalar k (some x)) with
    | ok s => rw [(literal?_eq_ok_iff.mp written).2, literal]
    | error e =>
      obtain ⟨rfl, -⟩ := literal?_eq_error_iff.mp written
      exact absurd written told

/-- A text that would start a comment, and the last second of the calendar at a place to the west,
which no date tells in Coordinated Universal Time. -/
theorem comment_in_quotes_loses_nothing :
    Kind.varchar ∈ quotedKinds ∧ "--'".toList.head? ≠ some '\'' ∧
    Dialect.postgres.literal? (.text "5% isn't\n--é") =
      .ok "'5%25%20isn%27t%0A%2D%2D%C3%A9'" ∧
    Lexeme.first? ("'5%25%20isn%27t%0A%2D%2D%C3%A9'".toList ++ "--'".toList) =
      some (.literal "5%25%20isn%27t%0A%2D%2D%C3%A9", "--'".toList) ∧
    Dialect.postgres.literal? (.scalar .zonedTimestamp
      (some ⟨⟨⟨2921939, by decide, by decide⟩, ⟨86399000000000, by decide⟩⟩,
        ⟨-3600, by decide, by decide⟩⟩)) = .error .beyondCalendar := by
  obtain ⟨-, injective, -, texts, stopped, -, literals⟩ := quoted_literals_lose_nothing
  have varchar : Kind.varchar ∈ quotedKinds := by decide
  have other : "--'".toList.head? ≠ some '\'' := by decide
  have written := texts .postgres "5% isn't\n--é"
  obtain ⟨text, same, lexeme⟩ := literals .postgres .varchar varchar "5% isn't\n--é"
    (by rintro ⟨⟩)
  obtain rfl : "5% isn't\n--é" = text := injective (Except.ok.inj (written.symm.trans same))
  have body : String.ofList (body "5% isn't\n--é".toList) = "5%25%20isn%27t%0A%2D%2D%C3%A9" := by
    decide
  have string : string "5% isn't\n--é" = "'5%25%20isn%27t%0A%2D%2D%C3%A9'" := by decide
  rw [← string, ← body]
  refine ⟨varchar, other, written, lexeme _ other, (stopped _ _ _).mpr ⟨rfl, _, rfl, ?_⟩⟩
  intro date
  have last := date.day_le
  have day : (ZonedTimestamp.instant ⟨⟨⟨2921939, by decide, by decide⟩,
      ⟨86399000000000, by decide⟩⟩, ⟨-3600, by decide, by decide⟩⟩) / nanosInDay = 2921940 := by
    decide
  omega

end TableAccess.Literal
