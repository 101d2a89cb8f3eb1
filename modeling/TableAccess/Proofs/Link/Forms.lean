import TableAccess.Link.Form
import TableAccess.Link.Target
import TableAccess.Proofs.Text.Cuts
import TableAccess.Proofs.Text.Lossy

/-!
Queries in two readings.

A form writes a blank as a plus sign, and reads a plus sign as a blank. What a form writes, it reads
again. A connection text keeps plus signs as they are, so that it reads a form with plus signs in
place of blanks. A part that stands for texts in a connection text stands for the same texts in a
form, but for blanks in place of plus signs.
-/

set_option autoImplicit false
set_option relaxedAutoImplicit false

namespace TableAccess.Link

/-- A plus sign in place of a blank. -/
def plusChar (c : Char) : Char := if c == ' ' then '+' else c

/-- A text with plus signs in place of blanks. -/
def plussed (s : String) : String := String.ofList (s.toList.map plusChar)

/-- A text without blanks. -/
def Blankless (s : String) : Prop := ' ' ∉ s.toList

instance (s : String) : Decidable (Blankless s) := inferInstanceAs (Decidable (_ ∉ _))

theorem blankless_plussed (s : String) : Blankless (plussed s) := by
  rw [Blankless, plussed, String.toList_ofList]
  intro member
  obtain ⟨c, -, same⟩ := List.mem_map.mp member
  by_cases blank : c = ' '
  · subst blank
    exact absurd same (by decide)
  · rw [plusChar, if_neg fun h => blank (beq_iff_eq.mp h)] at same
    exact blank same

theorem plussed_eq_self {s : String} (h : Blankless s) : plussed s = s := by
  have kept : s.toList.map plusChar = s.toList := by
    refine (List.map_congr_left fun c member => ?_).trans (List.map_id _)
    have other : c ≠ ' ' := by
      rintro rfl
      exact h member
    rw [plusChar, if_neg fun blank => other (beq_iff_eq.mp blank)]
    rfl
  rw [plussed, kept, String.ofList_toList]

namespace Form

/-! ### What is written -/

/-- The characters that a form writes as they are. -/
private def isHarmless (c : Char) : Bool :=
  Text.isAsciiAlphanumeric c || c == '*' || c == '-' || c == '.' || c == '_'

/-- What a form writes for a character. -/
private def written (c : Char) : List Char :=
  if c == ' ' then ['+'] else Text.percentEncode isHarmless [c]

private theorem encode_eq (s : String) : encode s = s.toList.flatMap written := rfl

private theorem isHarmless_ascii {c : Char} (h : isHarmless c = true) : c.toNat < 128 := by
  simp only [isHarmless, Text.isAsciiAlphanumeric, Text.isDigit, Bool.or_eq_true, Bool.and_eq_true,
    decide_eq_true_eq, beq_iff_eq] at h
  rcases h with (((letter | rfl) | rfl) | rfl) | rfl
  · omega
  all_goals decide

private theorem isHarmless_plain (c : Char) (h : isHarmless c = true) :
    c.toNat < 128 ∧ c ≠ '%' := by
  refine ⟨isHarmless_ascii h, ?_⟩
  rintro rfl
  exact absurd h (by decide)

/-- What is written for a text has none of the characters that separate. -/
theorem not_mem_encode {s : String} {c : Char} (special : c ∈ ['&', '=', '@', '?', '#', ' ']) :
    c ∉ encode s := by
  have facts : isHarmless c = false ∧ c ≠ '+' ∧ c ∉ "%0123456789ABCDEF".toList := by
    simp only [List.mem_cons, List.not_mem_nil, or_false] at special
    rcases special with rfl | rfl | rfl | rfl | rfl | rfl <;> decide
  obtain ⟨harmful, other, noDigit⟩ := facts
  intro member
  obtain ⟨d, -, inside⟩ := List.mem_flatMap.mp (encode_eq s ▸ member)
  rw [written] at inside
  split at inside
  · exact other (List.mem_singleton.mp inside)
  · rcases Text.mem_percentEncode inside with ⟨-, harmless⟩ | digit
    · rw [harmful] at harmless
      cases harmless
    · exact noDigit digit

/-! ### What is read again -/

/-- A blank in place of a plus sign. -/
private def blankChar (c : Char) : Char := if c == '+' then ' ' else c

private theorem decode_eq (s : List Char) : decode s =
    String.ofList (Text.lossy (Text.percentDecode (Text.utf8Bytes (s.map blankChar)))) := rfl

/-- With blanks in place of plus signs, a text is percent encoded but for its blanks. -/
private theorem blanked_encode (s : String) : (encode s).map blankChar =
    Text.percentEncode (fun c => isHarmless c || c == ' ') s.toList := by
  rw [encode_eq, List.map_flatMap, Text.percentEncode]
  refine List.flatMap_congr fun c _ => ?_
  by_cases blank : c = ' '
  · subst blank
    rfl
  · have other : (c == ' ') = false := beq_eq_false_iff_ne.mpr blank
    have single : Text.percentEncode isHarmless [c] =
        if isHarmless c then [c] else (Text.utf8 c).flatMap Text.percentByte :=
      List.flatMap_singleton _ c
    have plain : ∀ d ∈ Text.percentEncode isHarmless [c], blankChar d = d := by
      intro d member
      have unlike : d ≠ '+' := by
        rintro rfl
        rcases Text.mem_percentEncode member with ⟨-, harmless⟩ | digit
        · exact absurd harmless (by decide)
        · exact absurd digit (by decide)
      exact if_neg fun h => unlike (beq_iff_eq.mp h)
    have kept := (List.map_congr_left plain).trans (List.map_id _)
    rw [written, other, if_neg Bool.false_ne_true, kept, single, Bool.or_false]

/-- A text is read from what is written for it. -/
theorem decode_encode (s : String) : decode (encode s) = s := by
  have plain (c : Char) (h : (isHarmless c || c == ' ') = true) : c.toNat < 128 ∧ c ≠ '%' := by
    rcases Bool.or_eq_true_iff.mp h with harmless | blank
    · exact isHarmless_plain c harmless
    · obtain rfl := beq_iff_eq.mp blank
      decide
  rw [decode_eq, blanked_encode, Text.percentDecode_percentEncode plain, Text.lossy_utf8Bytes,
    String.ofList_toList]

theorem readPair_writePair (pair : String × String) : readPair (writePair pair) = pair := by
  have before := Text.beq_false_of_not_mem
    (not_mem_encode (by decide) : '=' ∉ encode pair.1)
  rw [readPair, writePair, Text.cutFirst_append before rfl]
  simp only [Option.getD_some, decode_encode]

private theorem not_mem_writePair {pair : String × String} {c : Char}
    (special : c ∈ ['&', '@', '?', '#', ' ']) : c ∉ writePair pair := by
  have listed : c ∈ ['&', '=', '@', '?', '#', ' '] :=
    (by decide : ['&', '@', '?', '#', ' '].Sublist ['&', '=', '@', '?', '#', ' ']).subset special
  have other : c ≠ '=' := by
    rintro rfl
    exact absurd special (by decide)
  intro member
  rcases List.mem_append.mp member with key | value
  · exact not_mem_encode listed key
  · rcases List.mem_cons.mp value with same | value
    · exact other same
    · exact not_mem_encode listed value

theorem write_cons_cons (pair next : String × String) (f : Form) :
    write (pair :: next :: f) = writePair pair ++ '&' :: write (next :: f) := by
  rw [write, List.map_cons, List.map_cons, List.intercalate_cons_cons]
  simp only [List.append_assoc, List.singleton_append]
  rfl

theorem write_singleton (pair : String × String) : write [pair] = writePair pair :=
  List.intercalate_singleton

/-- A form has the ampersands between its pairs and none of the other signs. -/
theorem not_mem_write {f : Form} {c : Char} (special : c ∈ ['@', '?', '#', ' ']) : c ∉ write f := by
  have listed : c ∈ ['&', '@', '?', '#', ' '] := List.mem_cons_of_mem '&' special
  have other : c ∉ ['&'] := by
    intro same
    obtain rfl := List.mem_singleton.mp same
    exact absurd special (by decide)
  refine Text.not_mem_intercalate other fun s member => ?_
  obtain ⟨pair, -, rfl⟩ := List.mem_map.mp member
  exact not_mem_writePair listed

/-- What a form writes, it reads again. -/
theorem read_write (f : Form) : read (write f) = f := by
  have unseparated (pair : String × String) := Text.beq_false_of_not_mem
    (not_mem_writePair (by decide) : '&' ∉ writePair pair)
  have filled (pair : String × String) (parts : List (List Char)) :
      (writePair pair :: parts).filter (fun s => !s.isEmpty) =
        writePair pair :: parts.filter fun s => !s.isEmpty := by
    refine List.filter_cons_of_pos ?_
    rw [writePair]
    cases encode pair.1 <;> rfl
  induction f with
  | nil => rfl
  | cons pair f ih =>
    cases f with
    | nil =>
      rw [write_singleton, read, Text.pieces_eq_singleton (unseparated pair), filled,
        List.filter_nil, List.map_singleton, readPair_writePair]
    | cons next f =>
      rw [write_cons_cons, read, Text.pieces_append (unseparated pair) rfl, filled, List.map_cons,
        readPair_writePair]
      exact congrArg (pair :: ·) ih

/-! ### What a connection text reads -/

/-- Without the sign for blanks, what is written for a text stands for it with plus signs. -/
theorem percentDecode_encode (s : String) :
    Text.percentDecode (Text.utf8Bytes (encode s)) = Text.utf8Bytes (s.toList.map plusChar) := by
  rw [encode_eq]
  induction s.toList with
  | nil => rfl
  | cons c cs ih =>
    have front : Text.utf8Bytes ((c :: cs).map plusChar) =
        Text.utf8 (plusChar c) ++ Text.utf8Bytes (cs.map plusChar) := List.flatMap_cons
    rw [List.flatMap_cons, Text.utf8Bytes_append, front, ← ih]
    by_cases blank : c = ' '
    · subst blank
      exact Text.percentDecode_plain (by decide) _
    · have other : (c == ' ') = false := beq_eq_false_iff_ne.mpr blank
      have single : Text.utf8Bytes [c] = Text.utf8 c := List.flatMap_singleton _ c
      rw [written, plusChar, other, if_neg Bool.false_ne_true, if_neg Bool.false_ne_true,
        Text.percentDecode_percentEncode_append isHarmless_plain, single]

private theorem utf8Bytes_blanked (s : List Char) : List.Forall₂ Text.BlankedByte
    (Text.utf8Bytes s) (Text.utf8Bytes (s.map blankChar)) := by
  induction s with
  | nil => exact .nil
  | cons c s ih =>
    refine List.rel_append ?_ ih
    by_cases plus : c = '+'
    · subst plus
      exact .cons (.inr ⟨rfl, rfl⟩) .nil
    · rw [blankChar, if_neg fun h => plus (beq_iff_eq.mp h)]
      exact Text.blankedByte_refl _

/-- A form and a connection text read the same, but for blanks in place of plus signs. -/
theorem plussed_decode (s : List Char) : plussed (decode s) =
    plussed (String.ofList (Text.lossy (Text.percentDecode (Text.utf8Bytes s)))) := by
  have related := Text.lossy_blanked (Text.percentDecode_blanked (utf8Bytes_blanked s))
  rw [decode_eq, plussed, plussed, String.toList_ofList, String.toList_ofList]
  refine congrArg String.ofList ?_
  generalize Text.lossy (Text.percentDecode (Text.utf8Bytes s)) = cs at related ⊢
  generalize Text.lossy (Text.percentDecode (Text.utf8Bytes (s.map blankChar))) = cs' at related ⊢
  induction related with
  | nil => rfl
  | @cons c c' cs cs' same _ ih =>
    have first : plusChar c' = plusChar c := by
      rcases same with rfl | ⟨rfl, rfl⟩
      · rfl
      · decide
    rw [List.map_cons, List.map_cons, first, ih]

end Form

end TableAccess.Link
