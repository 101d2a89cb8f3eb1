import TableAccess.Proofs.Text.Numeral
import TableAccess.Proofs.Text.Utf8

/-!
Percent encoding read back.

A byte is written as a percent sign and two digits, from which it is read again. When the harmless
characters are ASCII and the percent sign is none of them, nothing else starts with one, so that
decoding gives the bytes of the text, whatever it is.
-/

set_option autoImplicit false
set_option relaxedAutoImplicit false

namespace TableAccess.Text

/-! ### Digits -/

private theorem upperHexDigit_mod (n : Nat) : upperHexDigit n = upperHexDigit (n % 16) := by
  simp only [upperHexDigit, Nat.mod_mod]

/-- What holds of the sixteen digits holds of the digit of every number. -/
theorem upperHexDigit_induction {P : Char → Prop} (digits : ∀ m < 16, P (upperHexDigit m))
    (n : Nat) : P (upperHexDigit n) := by
  rw [upperHexDigit_mod]
  exact digits _ (Nat.mod_lt n (by decide))

theorem hexValue?_upperHexDigit (n : Nat) : hexValue? (upperHexDigit n) = some (n % 16) := by
  have table : ∀ m < 16, hexValue? (upperHexDigit m) = some m := by decide
  rw [upperHexDigit_mod]
  exact table _ (Nat.mod_lt n (by decide))

/-! ### Bytes -/

/-- An ASCII character is one byte. -/
theorem utf8_ascii {c : Char} (ascii : c.toNat < 128) : utf8 c = [UInt8.ofNat c.toNat] :=
  forall_char_lt (P := fun c => utf8 c = [UInt8.ofNat c.toNat]) (by decide) ascii

private theorem utf8_upperHexDigit (n : Nat) :
    utf8 (upperHexDigit n) = [UInt8.ofNat (upperHexDigit n).toNat] :=
  upperHexDigit_induction (P := fun c => utf8 c = [UInt8.ofNat c.toNat]) (by decide) n

private theorem hexValue?_byte (n : Nat) :
    hexValue? (Char.ofNat (UInt8.ofNat (upperHexDigit n).toNat).toNat) = some (n % 16) := by
  have same : Char.ofNat (UInt8.ofNat (upperHexDigit n).toNat).toNat = upperHexDigit n :=
    upperHexDigit_induction
      (P := fun c => Char.ofNat (UInt8.ofNat c.toNat).toNat = c) (by decide) n
  rw [same, hexValue?_upperHexDigit]

/-- The bytes of a text are those that it is stored as. -/
theorem utf8Bytes_toList (s : String) : (utf8Bytes s.toList).toByteArray = s.toUTF8 :=
  String.utf8Encode_toList

theorem percentDecode_plain {b : UInt8} (plain : b ≠ 0x25) (rest : List UInt8) :
    percentDecode (b :: rest) = b :: percentDecode rest := by
  rw [percentDecode]
  intro _ _ _ same
  exact absurd same plain

/-- The two digits of a byte stand for it. -/
theorem percentDecode_percentByte (b : UInt8) (rest : List UInt8) :
    percentDecode (utf8Bytes (percentByte b) ++ rest) = b :: percentDecode rest := by
  have bytes : utf8Bytes (percentByte b) = [0x25, UInt8.ofNat (upperHexDigit (b.toNat / 16)).toNat,
      UInt8.ofNat (upperHexDigit b.toNat).toNat] := by
    simp only [utf8Bytes, percentByte, List.flatMap_cons, utf8_upperHexDigit, List.flatMap_nil]
    rfl
  have number : 16 * (b.toNat / 16 % 16) + b.toNat % 16 = b.toNat := by
    have range := b.toNat_lt
    omega
  rw [bytes, List.cons_append, List.cons_append, List.cons_append, List.nil_append, percentDecode,
    hexValue?_byte, hexValue?_byte]
  simp only [number, UInt8.ofNat_toNat]

theorem utf8Bytes_append (s t : List Char) :
    utf8Bytes (s ++ t) = utf8Bytes s ++ utf8Bytes t := List.flatMap_append

private theorem percentDecode_bytes (bs rest : List UInt8) :
    percentDecode (utf8Bytes (bs.flatMap percentByte) ++ rest) = bs ++ percentDecode rest := by
  induction bs with
  | nil => rfl
  | cons b bs ih =>
    rw [List.flatMap_cons, utf8Bytes_append, List.append_assoc, percentDecode_percentByte, ih,
      List.cons_append]

/-! ### Texts -/

theorem percentEncode_append (harmless : Char → Bool) (s t : List Char) :
    percentEncode harmless (s ++ t) = percentEncode harmless s ++ percentEncode harmless t :=
  List.flatMap_append

/-- What is written is harmless, a percent sign or a digit. -/
theorem mem_percentEncode {harmless : Char → Bool} {s : List Char} {c : Char}
    (h : c ∈ percentEncode harmless s) :
    c ∈ s ∧ harmless c = true ∨ c ∈ "%0123456789ABCDEF".toList := by
  obtain ⟨d, inside, written⟩ := List.mem_flatMap.mp h
  split at written
  · next kept =>
    obtain rfl := List.mem_singleton.mp written
    exact .inl ⟨inside, kept⟩
  · have digit (n : Nat) : upperHexDigit n ∈ "%0123456789ABCDEF".toList :=
      upperHexDigit_induction (P := (· ∈ "%0123456789ABCDEF".toList)) (by decide) n
    obtain ⟨b, -, byte⟩ := List.mem_flatMap.mp written
    have either : c = '%' ∨ c = upperHexDigit (b.toNat / 16) ∨ c = upperHexDigit b.toNat := by
      simpa only [percentByte, List.mem_cons, List.not_mem_nil, or_false] using byte
    rcases either with rfl | rfl | rfl
    · exact .inr (by decide)
    · exact .inr (digit _)
    · exact .inr (digit _)

section Harmless

variable {harmless : Char → Bool} (ascii : ∀ c, harmless c = true → c.toNat < 128 ∧ c ≠ '%')

include ascii

private theorem percentDecode_char (c : Char) (rest : List UInt8) :
    percentDecode (utf8Bytes (percentEncode harmless [c]) ++ rest) =
      utf8 c ++ percentDecode rest := by
  have encoded : percentEncode harmless [c] =
      if harmless c then [c] else (utf8 c).flatMap percentByte := List.flatMap_singleton _ c
  rw [encoded]
  split
  · next kept =>
    obtain ⟨small, other⟩ := ascii c kept
    have bytes : utf8Bytes [c] = utf8 c := List.flatMap_singleton utf8 c
    have plain : UInt8.ofNat c.toNat ≠ 0x25 := by
      intro same
      have number := congrArg UInt8.toNat same
      rw [UInt8.toNat_ofNat', Nat.mod_eq_of_lt (by omega)] at number
      exact other (Char.ext (UInt32.toNat_inj.mp number))
    rw [bytes, utf8_ascii small, List.singleton_append, percentDecode_plain plain,
      List.singleton_append]
  · exact percentDecode_bytes (utf8 c) rest

/-- Decoding goes on behind a text that was encoded. -/
theorem percentDecode_percentEncode_append (s : List Char) (rest : List UInt8) :
    percentDecode (utf8Bytes (percentEncode harmless s) ++ rest) =
      utf8Bytes s ++ percentDecode rest := by
  induction s with
  | nil => rfl
  | cons c s ih =>
    have front : percentEncode harmless (c :: s) =
        percentEncode harmless [c] ++ percentEncode harmless s :=
      percentEncode_append harmless [c] s
    rw [front, utf8Bytes_append, List.append_assoc, percentDecode_char ascii, ih]
    exact (List.append_assoc _ _ _).symm

/-- Decoding gives the bytes of a text that was encoded. -/
theorem percentDecode_percentEncode (s : List Char) :
    percentDecode (utf8Bytes (percentEncode harmless s)) = utf8Bytes s := by
  have whole := percentDecode_percentEncode_append ascii s []
  rwa [List.append_nil, percentDecode, List.append_nil] at whole

/-- Different texts are encoded differently. -/
theorem percentEncode_injective : Function.Injective (percentEncode harmless) := by
  intro s t same
  have bytes := congrArg (percentDecode <| utf8Bytes ·) same
  simp only [percentDecode_percentEncode ascii] at bytes
  have read := congrArg ofUtf8 bytes
  rw [ofUtf8_utf8Bytes, ofUtf8_utf8Bytes] at read
  cases read
  rfl

end Harmless

end TableAccess.Text
