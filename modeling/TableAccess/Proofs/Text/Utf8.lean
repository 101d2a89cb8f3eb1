import TableAccess.Text.Percent
import TableAccess.Text.Utf8

/-!
Texts read back from their bytes in UTF-8.

The first byte of a character tells how many follow it and has the leading digits of its number to
the base 64; each follower has one more. The second byte stays in the range that the first one
leaves it, since no character has a shorter form than its own and none is a surrogate.
-/

set_option autoImplicit false
set_option relaxedAutoImplicit false

namespace TableAccess.Text

/-- The byte of a further digit to the base 64. -/
private def follower (n : Nat) : UInt8 := UInt8.ofNat (n % 64 + 128)

private theorem toNat_follower (n : Nat) : (follower n).toNat = n % 64 + 128 := by
  rw [follower, UInt8.toNat_ofNat']
  omega

private theorem toNat_byte {a : Nat} (byte : a < 256) : (UInt8.ofNat a).toNat = a := by
  rw [UInt8.toNat_ofNat', Nat.mod_eq_of_lt byte]

private theorem follower_within (n : Nat) : 0x80 ≤ follower n ∧ follower n ≤ 0xBF := by
  have value := toNat_follower n
  constructor <;> rw [UInt8.le_iff_toNat_le, value]
  · exact Nat.le_add_left _ _
  · change n % 64 + 128 ≤ 191
    omega

/-- A follower is a second byte unless it makes up a surrogate, a number that is too great or one
that has a shorter form. -/
private theorem follower_second {a n : Nat} (byte : a < 256) (e0 : a = 0xE0 → 32 ≤ n % 64)
    (ed : a = 0xED → n % 64 < 32) (f0 : a = 0xF0 → 16 ≤ n % 64) (f4 : a = 0xF4 → n % 64 < 16) :
    (secondRange (UInt8.ofNat a)).1 ≤ follower n ∧
      follower n ≤ (secondRange (UInt8.ofNat a)).2 := by
  have value := toNat_follower n
  have lead {b : UInt8} (same : UInt8.ofNat a = b) : a = b.toNat := by
    rw [← same, toNat_byte byte]
  unfold secondRange
  split
  · next same =>
    have digit := e0 (lead same)
    constructor <;> rw [UInt8.le_iff_toNat_le, value]
    · change 160 ≤ n % 64 + 128
      omega
    · change n % 64 + 128 ≤ 191
      omega
  · split
    · next same =>
      have digit := ed (lead same)
      constructor <;> rw [UInt8.le_iff_toNat_le, value]
      · change 128 ≤ n % 64 + 128
        omega
      · change n % 64 + 128 ≤ 159
        omega
    · split
      · next same =>
        have digit := f0 (lead same)
        constructor <;> rw [UInt8.le_iff_toNat_le, value]
        · change 144 ≤ n % 64 + 128
          omega
        · change n % 64 + 128 ≤ 191
          omega
      · split
        · next same =>
          have digit := f4 (lead same)
          constructor <;> rw [UInt8.le_iff_toNat_le, value]
          · change 128 ≤ n % 64 + 128
            omega
          · change n % 64 + 128 ≤ 143
            omega
        · exact follower_within n

section Followers

variable {index : Nat} {first : UInt8} {width count : Nat} (n m : Nat) (rest : List UInt8)

/-- A follower adds a digit to the number. -/
private theorem go_follower (more : count < width) (second : count = 1 →
      (secondRange first).1 ≤ follower m ∧ follower m ≤ (secondRange first).2) :
    utf8Char.go index first width n count (follower m :: rest) =
      utf8Char.go index first width (n * 64 + m % 64) (count + 1) rest := by
  have digit : (follower m).toNat % 64 = m % 64 := by
    rw [toNat_follower]
    omega
  rw [utf8Char.go, if_neg (Nat.not_le_of_lt more)]
  by_cases here : count = 1
  · obtain ⟨low, high⟩ := second here
    simp only [if_pos here, low, high, decide_true, Bool.and_self, if_true, digit]
  · obtain ⟨low, high⟩ := follower_within m
    simp only [if_neg here, low, high, decide_true, Bool.and_self, if_true, digit]

private theorem go_end :
    utf8Char.go index first width n width rest = .ok (Char.ofNat n, width) := by
  rw [utf8Char.go.eq_def, if_pos (Nat.le_refl width)]

end Followers

/-- The number of a character. -/
private theorem char_valid (c : Char) :
    c.val.toNat < 0xD800 ∨ 0xDFFF < c.val.toNat ∧ c.val.toNat < 0x110000 := c.valid

/-- The first byte of a character of some width. -/
private theorem lead_byte {a width : Nat} (byte : a < 256)
    (range : width = 1 ∧ a < 0x80 ∨ width = 2 ∧ 0xC2 ≤ a ∧ a < 0xE0 ∨
      width = 3 ∧ 0xE0 ≤ a ∧ a < 0xF0 ∨ width = 4 ∧ 0xF0 ≤ a ∧ a < 0xF5) :
    utf8Width (UInt8.ofNat a) = some width := by
  have compare (b : UInt8) : UInt8.ofNat a < b ↔ a < b.toNat := by
    rw [UInt8.lt_iff_toNat_lt, toNat_byte byte]
  have c80 : (0x80 : UInt8).toNat = 128 := rfl
  have cC2 : (0xC2 : UInt8).toNat = 194 := rfl
  have cE0 : (0xE0 : UInt8).toNat = 224 := rfl
  have cF0 : (0xF0 : UInt8).toNat = 240 := rfl
  have cF5 : (0xF5 : UInt8).toNat = 245 := rfl
  simp only [utf8Width, compare, c80, cC2, cE0, cF0, cF5]
  rcases range with ⟨rfl, h⟩ | ⟨rfl, h⟩ | ⟨rfl, h⟩ | ⟨rfl, h⟩
  · rw [if_pos h]
  · rw [if_neg (by omega), if_neg (by omega), if_pos (by omega)]
  · rw [if_neg (by omega), if_neg (by omega), if_neg (by omega), if_pos (by omega)]
  · rw [if_neg (by omega), if_neg (by omega), if_neg (by omega), if_neg (by omega),
      if_pos (by omega)]

private theorem utf8Char_lead {index a width : Nat} {rest : List UInt8}
    (lead : utf8Width (UInt8.ofNat a) = some width) :
    utf8Char index (UInt8.ofNat a) rest =
      utf8Char.go index (UInt8.ofNat a) width (leadBits width (UInt8.ofNat a)) 1 rest := by
  rw [utf8Char, lead]

/-- A character is read from its bytes, whatever follows them. -/
theorem utf8Char_utf8 (index : Nat) (c : Char) (rest : List UInt8) :
    ∃ b tail, utf8 c = b :: tail ∧
      utf8Char index b (tail ++ rest) = .ok (c, tail.length + 1) := by
  have valid := char_valid c
  have same : Char.ofNat c.val.toNat = c := Char.ofNat_toNat c
  have later {count : Nat} {P : Prop} (h : 1 < count) : count = 1 → P := fun one => by omega
  generalize number : c.val.toNat = v at valid same
  simp only [utf8, String.utf8EncodeChar, number]
  -- The number of bytes is that of the number of the character.
  split
  · next small =>
    refine ⟨_, [], rfl, ?_⟩
    have bits : leadBits 1 (UInt8.ofNat v) = v := by
      rw [leadBits, if_pos rfl, toNat_byte (by omega)]
    rw [utf8Char_lead (lead_byte (by omega) (.inl ⟨rfl, by omega⟩)), go_end, bits, same]
    rfl
  · split
    · next small =>
      refine ⟨_, [follower v], rfl, ?_⟩
      have byte : v / 64 % 32 + 192 < 256 := by omega
      have bits : leadBits 2 (UInt8.ofNat (v / 64 % 32 + 192)) = v / 64 % 32 := by
        rw [leadBits, if_neg (by decide), toNat_byte byte]
        omega
      have whole : v / 64 % 32 * 64 + v % 64 = v := by omega
      rw [utf8Char_lead (lead_byte byte (.inr (.inl ⟨rfl, by omega, by omega⟩))), bits,
        List.singleton_append, go_follower _ _ _ (by decide) fun _ =>
          follower_second byte (by omega) (by omega) (by omega) (by omega), go_end, whole, same]
      rfl
    · split
      · next small =>
        refine ⟨_, [follower (v / 64), follower v], rfl, ?_⟩
        have byte : v / 4096 % 16 + 224 < 256 := by omega
        have bits : leadBits 3 (UInt8.ofNat (v / 4096 % 16 + 224)) = v / 4096 % 16 := by
          rw [leadBits, if_neg (by decide), toNat_byte byte]
          omega
        have whole : (v / 4096 % 16 * 64 + v / 64 % 64) * 64 + v % 64 = v := by omega
        rw [utf8Char_lead (lead_byte byte (.inr (.inr (.inl ⟨rfl, by omega, by omega⟩)))), bits,
          List.cons_append, List.singleton_append, go_follower _ _ _ (by decide) fun _ =>
            follower_second byte (by omega) (by omega) (by omega) (by omega),
          go_follower _ _ _ (by decide) (later (by decide)), go_end, whole, same]
        rfl
      · next large =>
        refine ⟨_, [follower (v / 4096), follower (v / 64), follower v], rfl, ?_⟩
        have byte : v / 262144 % 8 + 240 < 256 := by omega
        have bits : leadBits 4 (UInt8.ofNat (v / 262144 % 8 + 240)) = v / 262144 % 8 := by
          rw [leadBits, if_neg (by decide), toNat_byte byte]
          omega
        have whole : ((v / 262144 % 8 * 64 + v / 4096 % 64) * 64 + v / 64 % 64) * 64 + v % 64 =
            v := by omega
        rw [utf8Char_lead (lead_byte byte (.inr (.inr (.inr ⟨rfl, by omega, by omega⟩)))), bits,
          List.cons_append, List.cons_append, List.singleton_append,
          go_follower _ _ _ (by decide) fun _ =>
            follower_second byte (by omega) (by omega) (by omega) (by omega),
          go_follower _ _ _ (by decide) (later (by decide)),
          go_follower _ _ _ (by decide) (later (by decide)), go_end, whole, same]
        rfl

/-- There are as many characters as bytes at most, so that the bytes are enough to read them. -/
private theorem utf8Chars_utf8Bytes (s : List Char) (fuel index : Nat)
    (enough : (utf8Bytes s).length ≤ fuel) : utf8Chars fuel index (utf8Bytes s) = .ok s := by
  induction s generalizing fuel index with
  | nil => cases fuel <;> rfl
  | cons c s ih =>
    obtain ⟨b, tail, bytes, char⟩ := utf8Char_utf8 index c (utf8Bytes s)
    have front : utf8Bytes (c :: s) = b :: (tail ++ utf8Bytes s) := by
      rw [utf8Bytes, List.flatMap_cons, bytes]
      rfl
    rw [front, List.length_cons, List.length_append] at enough
    obtain ⟨fuel, rfl⟩ : ∃ n, fuel = n + 1 := ⟨fuel - 1, by omega⟩
    have rest := ih fuel (index + (tail.length + 1)) (by omega)
    rw [front, utf8Chars]
    simp only [char, Nat.add_sub_cancel, List.drop_left, rest]

/-- A text is read back from its bytes. -/
theorem ofUtf8_utf8Bytes (s : List Char) : ofUtf8 (utf8Bytes s) = .ok s :=
  utf8Chars_utf8Bytes s _ _ (Nat.le_refl _)

end TableAccess.Text
