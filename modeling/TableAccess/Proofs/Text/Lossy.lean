import Mathlib.Data.List.Forall2
import TableAccess.Proofs.Text.Percent

/-!
Texts that bytes come closest to.

Bytes that make up a text are read as that text. A byte of a plus sign takes no part in a character
of several bytes, and neither does one of a blank, so that blanks in place of plus signs leave
everything else as it is read.
-/

set_option autoImplicit false
set_option relaxedAutoImplicit false

namespace TableAccess.Text

/-! ### Whole texts -/

private theorem go_ok {index : Nat} {first : UInt8} {width n count : Nat} {r : Char × Nat}
    (bytes : List UInt8) (read : utf8Char.go index first width n count bytes = .ok r)
    (index' : Nat) : utf8Char.go index' first width n count bytes = .ok r := by
  induction bytes generalizing n count with
  | nil =>
    rw [utf8Char.go.eq_def] at read ⊢
    by_cases done : width ≤ count
    · rwa [if_pos done] at read ⊢
    · rw [if_neg done] at read
      cases read
  | cons b bytes ih =>
    rw [utf8Char.go.eq_def] at read ⊢
    by_cases done : width ≤ count
    · rwa [if_pos done] at read ⊢
    · rw [if_neg done] at read ⊢
      dsimp only at read ⊢
      generalize (if count = 1 then secondRange first else (0x80, 0xBF)) = range at read ⊢
      obtain ⟨low, high⟩ := range
      dsimp only at read ⊢
      by_cases inside : (decide (low ≤ b) && decide (b ≤ high)) = true
      · rw [if_pos inside] at read ⊢
        exact ih read
      · rw [if_neg inside] at read
        cases read

/-- Where a character stands does not matter to it. -/
private theorem utf8Char_ok {index : Nat} {first : UInt8} {bytes : List UInt8} {r : Char × Nat}
    (read : utf8Char index first bytes = .ok r) (index' : Nat) :
    utf8Char index' first bytes = .ok r := by
  rw [utf8Char] at read ⊢
  cases width : utf8Width first with
  | none =>
    rw [width] at read
    cases read
  | some w =>
    rw [width] at read
    exact go_ok bytes read index'

private theorem lossyChars_of_utf8Chars {fuel index : Nat} {bytes : List UInt8} {cs : List Char}
    (read : utf8Chars fuel index bytes = .ok cs) : lossyChars fuel bytes = cs := by
  induction fuel generalizing index bytes cs with
  | zero =>
    cases bytes with
    | nil =>
      cases read
      rfl
    | cons b bytes => cases read
  | succ fuel ih =>
    cases bytes with
    | nil =>
      cases read
      rfl
    | cons b bytes =>
      rw [utf8Chars] at read
      cases first : utf8Char index b bytes with
      | error e =>
        rw [first] at read
        cases read
      | ok r =>
        obtain ⟨c, width⟩ := r
        rw [first] at read
        dsimp only at read
        cases rest : utf8Chars fuel (index + width) (bytes.drop (width - 1)) with
        | error e =>
          rw [rest] at read
          cases read
        | ok cs' =>
          rw [rest] at read
          cases read
          rw [lossyChars, utf8Char_ok first 0]
          exact congrArg (c :: ·) (ih rest)

/-- Bytes that make up a text are read as that text. -/
theorem lossy_of_ofUtf8 {bytes : List UInt8} {cs : List Char} (read : ofUtf8 bytes = .ok cs) :
    lossy bytes = cs :=
  lossyChars_of_utf8Chars read

theorem lossy_utf8Bytes (s : List Char) : lossy (utf8Bytes s) = s :=
  lossy_of_ofUtf8 (ofUtf8_utf8Bytes s)

/-! ### Blanks in place of plus signs -/

/-- The same byte, or that of a blank in place of that of a plus sign. -/
def BlankedByte (b b' : UInt8) : Prop := b = b' ∨ b = 0x2B ∧ b' = 0x20

/-- The same character, or a blank in place of a plus sign. -/
def BlankedChar (c c' : Char) : Prop := c = c' ∨ c = '+' ∧ c' = ' '

variable {bytes bytes' : List UInt8}

theorem blankedByte_refl (bs : List UInt8) : List.Forall₂ BlankedByte bs bs :=
  List.forall₂_same.mpr fun _ _ => .inl rfl

private theorem go_blanked {index : Nat} {first : UInt8} {width n count : Nat}
    (h : List.Forall₂ BlankedByte bytes bytes') :
    utf8Char.go index first width n count bytes = utf8Char.go index first width n count bytes' := by
  induction h generalizing n count with
  | nil => rfl
  | @cons b b' bytes bytes' same _ ih =>
    rw [utf8Char.go.eq_def, utf8Char.go.eq_def index first width n count (b' :: bytes')]
    dsimp only
    by_cases done : width ≤ count
    · rw [if_pos done, if_pos done]
    · rw [if_neg done, if_neg done]
      rcases same with rfl | ⟨rfl, rfl⟩
      · simp only [ih]
      · -- No byte of a longer character is that of a plus sign or a blank.
        have above :
            (0x2B : UInt8) < (if count = 1 then secondRange first else (0x80, 0xBF)).1 := by
          unfold secondRange
          split_ifs <;> decide
        have above' :
            (0x20 : UInt8) < (if count = 1 then secondRange first else (0x80, 0xBF)).1 :=
          UInt8.lt_trans (by decide) above
        simp only [UInt8.not_le.mpr above, UInt8.not_le.mpr above', decide_false, Bool.false_and,
          Bool.false_eq_true, if_false]

private theorem utf8Char_blanked {index : Nat} {first : UInt8}
    (h : List.Forall₂ BlankedByte bytes bytes') :
    utf8Char index first bytes = utf8Char index first bytes' := by
  rw [utf8Char, utf8Char]
  cases utf8Width first with
  | none => rfl
  | some width => exact go_blanked h

private theorem utf8Char_ascii {index : Nat} {b : UInt8} (small : b < 0x80) (bytes : List UInt8) :
    utf8Char index b bytes = .ok (Char.ofNat b.toNat, 1) := by
  rw [utf8Char, utf8Width, if_pos small]
  dsimp only
  rw [utf8Char.go.eq_def, if_pos (Nat.le_refl 1)]
  rfl

private theorem lossyChars_blanked (fuel : Nat) (h : List.Forall₂ BlankedByte bytes bytes') :
    List.Forall₂ BlankedChar (lossyChars fuel bytes) (lossyChars fuel bytes') := by
  induction fuel generalizing bytes bytes' with
  | zero => cases h <;> exact .nil
  | succ fuel ih =>
    cases h with
    | nil => exact .nil
    | @cons b b' bytes bytes' same rest =>
      rw [lossyChars, lossyChars]
      rcases same with rfl | ⟨rfl, rfl⟩
      · rw [utf8Char_blanked rest]
        cases utf8Char 0 b bytes' with
        | ok r => exact .cons (.inl rfl) (ih (List.forall₂_drop _ rest))
        | error e =>
          cases e with
          | invalid count index => exact .cons (.inl rfl) (ih (List.forall₂_drop _ rest))
          | incomplete index => exact .cons (.inl rfl) .nil
      · rw [utf8Char_ascii (by decide), utf8Char_ascii (by decide)]
        exact .cons (.inr (by decide)) (ih rest)

/-- Blanks in place of plus signs show as such and nowhere else. -/
theorem lossy_blanked (h : List.Forall₂ BlankedByte bytes bytes') :
    List.Forall₂ BlankedChar (lossy bytes) (lossy bytes') := by
  rw [lossy, lossy, ← h.length_eq]
  exact lossyChars_blanked _ h

private theorem hexValue?_blanked {b b' : UInt8} (h : BlankedByte b b') :
    hexValue? (Char.ofNat b.toNat) = hexValue? (Char.ofNat b'.toNat) := by
  rcases h with rfl | ⟨rfl, rfl⟩
  · rfl
  · decide

private theorem percentDecode_unencoded {c : UInt8} {rest : List UInt8}
    (h : ∀ a b rest', c = 0x25 → rest = a :: b :: rest' → False) :
    percentDecode (c :: rest) = c :: percentDecode rest := by
  rw [percentDecode]
  exact h

private theorem percent_blanked {b : UInt8} (h : BlankedByte 0x25 b) : b = 0x25 := by
  rcases h with rfl | ⟨impossible, -⟩
  · rfl
  · cases impossible

/-- Neither a plus sign nor a blank is a digit, so that the same bytes are encoded. -/
theorem percentDecode_blanked (h : List.Forall₂ BlankedByte bytes bytes') :
    List.Forall₂ BlankedByte (percentDecode bytes) (percentDecode bytes') := by
  induction bytes using percentDecode.induct generalizing bytes' with
  | case1 a b rest high low lowDigit highDigit ih =>
    obtain ⟨sign, _, same, others, rfl⟩ := List.forall₂_cons_left_iff.mp h
    obtain rfl := percent_blanked same
    obtain ⟨a', _, first, behind, rfl⟩ := List.forall₂_cons_left_iff.mp others
    obtain ⟨b', rest', second, behind, rfl⟩ := List.forall₂_cons_left_iff.mp behind
    rw [percentDecode, percentDecode, ← hexValue?_blanked first, ← hexValue?_blanked second,
      highDigit, lowDigit]
    exact .cons (.inl rfl) (ih (List.forall₂_cons.mp behind).2)
  | case2 a b rest digitless ih =>
    obtain ⟨sign, _, same, others, rfl⟩ := List.forall₂_cons_left_iff.mp h
    obtain rfl := percent_blanked same
    have later := ih others
    obtain ⟨a', _, first, behind, rfl⟩ := List.forall₂_cons_left_iff.mp others
    obtain ⟨b', rest', second, behind, rfl⟩ := List.forall₂_cons_left_iff.mp behind
    rw [percentDecode, percentDecode, ← hexValue?_blanked first, ← hexValue?_blanked second]
    cases high : hexValue? (Char.ofNat a.toNat) with
    | none => exact .cons (.inl rfl) later
    | some m =>
      cases low : hexValue? (Char.ofNat b.toNat) with
      | none => exact .cons (.inl rfl) later
      | some n => exact (digitless m n high low).elim
  | case3 c rest unencoded ih =>
    obtain ⟨c', rest', same, others, rfl⟩ := List.forall₂_cons_left_iff.mp h
    have unencoded' (a' b' : UInt8) (rest₁ : List UInt8) (sign : c' = 0x25)
        (digits : rest' = a' :: b' :: rest₁) : False := by
      subst sign digits
      obtain ⟨a, _, -, behind, rfl⟩ := List.forall₂_cons_right_iff.mp others
      obtain ⟨b, rest, -, -, rfl⟩ := List.forall₂_cons_right_iff.mp behind
      rcases same with rfl | ⟨-, impossible⟩
      · exact unencoded _ _ _ rfl rfl
      · cases impossible
    rw [percentDecode_unencoded unencoded, percentDecode_unencoded unencoded']
    exact .cons same (ih others)
  | case4 =>
    cases h
    exact .nil

end TableAccess.Text
