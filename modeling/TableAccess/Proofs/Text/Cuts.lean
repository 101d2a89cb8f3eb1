import TableAccess.Proofs.Text.Numeral
import TableAccess.Text.Blank
import TableAccess.Text.Split

/-!
Texts that are cut and trimmed.

A text is cut at the first character of a class when none of the class stands before it, at the
last one when none stands behind it, and not at all when it has none. Trimming takes the blanks
around a text away and nothing else.
-/

set_option autoImplicit false
set_option relaxedAutoImplicit false

namespace TableAccess.Text

/-- A character that a text does not have is none of its characters. -/
theorem beq_false_of_not_mem {s : List Char} {d : Char} (h : d ∉ s) :
    ∀ c ∈ s, (c == d) = false := by
  intro c member
  rw [beq_eq_false_iff_ne]
  rintro rfl
  exact h member

/-- A text is cut at the first character of a class. -/
theorem cutFirst_append {p : Char → Bool} {front : List Char} {c : Char}
    (before : ∀ d ∈ front, p d = false) (here : p c = true) (rest : List Char) :
    cutFirst p (front ++ c :: rest) = some (front, rest) := by
  induction front with
  | nil => rw [List.nil_append, cutFirst, if_pos here]
  | cons d front ih =>
    obtain ⟨first, others⟩ := List.forall_mem_cons.mp before
    rw [List.cons_append, cutFirst, first, if_neg Bool.false_ne_true, ih others]
    rfl

/-- A text without a character of a class is not cut. -/
theorem cutFirst_eq_none {p : Char → Bool} {s : List Char} (h : ∀ c ∈ s, p c = false) :
    cutFirst p s = none := by
  induction s with
  | nil => rfl
  | cons c s ih =>
    obtain ⟨first, others⟩ := List.forall_mem_cons.mp h
    rw [cutFirst, first, if_neg Bool.false_ne_true, ih others]
    rfl

/-- A text that is not cut has no character of the class. -/
theorem classless_of_cutFirst {p : Char → Bool} {s : List Char} (h : cutFirst p s = none) :
    ∀ c ∈ s, p c = false := by
  induction s with
  | nil => exact List.forall_mem_nil _
  | cons c s ih =>
    rw [cutFirst] at h
    split at h
    · cases h
    · next other =>
      exact List.forall_mem_cons.mpr
        ⟨Bool.eq_false_iff.mpr other, ih (Option.map_eq_none_iff.mp h)⟩

/-- What stands behind a text that is cut stands behind the cut. -/
theorem cutFirst_append_of_some {p : Char → Bool} {s a b : List Char}
    (h : cutFirst p s = some (a, b)) (rest : List Char) :
    cutFirst p (s ++ rest) = some (a, b ++ rest) := by
  induction s generalizing a with
  | nil => cases h
  | cons c s ih =>
    rw [cutFirst] at h
    rw [List.cons_append, cutFirst]
    split at h
    · next here =>
      cases h
      rw [if_pos here]
    · next other =>
      obtain ⟨⟨front, behind⟩, later, same⟩ := Option.map_eq_some_iff.mp h
      cases same
      rw [if_neg other, ih later]
      rfl

/-- The parts of a cut at the first character of a class, with that character between them, are the
text. -/
theorem eq_of_cutFirst {p : Char → Bool} {s a b : List Char} (h : cutFirst p s = some (a, b)) :
    ∃ c, s = a ++ c :: b ∧ p c = true := by
  induction s generalizing a with
  | nil => cases h
  | cons d s ih =>
    rw [cutFirst] at h
    split at h
    · next here =>
      cases h
      exact ⟨d, rfl, here⟩
    · obtain ⟨⟨front, rest⟩, later, same⟩ := Option.map_eq_some_iff.mp h
      cases same
      obtain ⟨c, rfl, here⟩ := ih later
      exact ⟨c, rfl, here⟩

/-- A text is cut at the last character of a class. -/
theorem cutLast_append {p : Char → Bool} {c : Char} {rest : List Char} (here : p c = true)
    (behind : ∀ d ∈ rest, p d = false) (front : List Char) :
    cutLast p (front ++ c :: rest) = some (front, c, rest) := by
  have uncut : cutLast p rest = none := by
    induction rest with
    | nil => rfl
    | cons d rest ih =>
      obtain ⟨first, others⟩ := List.forall_mem_cons.mp behind
      rw [cutLast, ih others]
      simp only [first, Bool.false_eq_true, if_false]
  induction front with
  | nil =>
    rw [List.nil_append, cutLast, uncut]
    exact if_pos here
  | cons d front ih => rw [List.cons_append, cutLast, ih]

/-- Behind the last character of a class there is none of it. -/
theorem behind_cutLast {p : Char → Bool} {s a b : List Char} {c : Char}
    (h : cutLast p s = some (a, c, b)) : ∀ d ∈ b, p d = false := by
  have classless {s : List Char} (uncut : cutLast p s = none) : ∀ d ∈ s, p d = false := by
    induction s with
    | nil => exact List.forall_mem_nil _
    | cons d s ih =>
      rw [cutLast] at uncut
      split at uncut
      · cases uncut
      · next later =>
        split at uncut
        · cases uncut
        · next first => exact List.forall_mem_cons.mpr ⟨Bool.eq_false_iff.mpr first, ih later⟩
  induction s generalizing a with
  | nil => cases h
  | cons d s ih =>
    rw [cutLast] at h
    split at h
    · next later =>
      cases h
      exact ih later
    · next uncut =>
      split at h
      · cases h
        exact classless uncut
      · cases h

/-! ### Pieces -/

/-- The first piece of a text ends at the first character of a class. -/
theorem pieces_append {p : Char → Bool} {front : List Char} {c : Char}
    (before : ∀ d ∈ front, p d = false) (here : p c = true) (rest : List Char) :
    pieces p (front ++ c :: rest) = front :: pieces p rest := by
  induction front with
  | nil => rw [List.nil_append, pieces, if_pos here]
  | cons d front ih =>
    obtain ⟨first, others⟩ := List.forall_mem_cons.mp before
    rw [List.cons_append, pieces, first, if_neg Bool.false_ne_true, ih others]

/-- A text without a character of a class is one piece. -/
theorem pieces_eq_singleton {p : Char → Bool} {s : List Char} (h : ∀ c ∈ s, p c = false) :
    pieces p s = [s] := by
  induction s with
  | nil => rfl
  | cons c s ih =>
    obtain ⟨first, others⟩ := List.forall_mem_cons.mp h
    rw [pieces, first, if_neg Bool.false_ne_true, ih others]

/-- The characters of a piece are characters of the text. -/
theorem mem_of_mem_pieces {p : Char → Bool} {s q : List Char} {c : Char} (h : q ∈ pieces p s)
    (member : c ∈ q) : c ∈ s := by
  induction s generalizing q with
  | nil =>
    obtain rfl := List.mem_singleton.mp h
    exact member
  | cons d s ih =>
    rw [pieces] at h
    split at h
    · rcases List.mem_cons.mp h with rfl | later
      · cases member
      · exact List.mem_cons_of_mem d (ih later member)
    · split at h
      · obtain rfl := List.mem_singleton.mp h
        obtain rfl := List.mem_singleton.mp member
        exact List.mem_cons_self
      · next r rs split =>
        rcases List.mem_cons.mp h with rfl | later
        · rcases List.mem_cons.mp member with rfl | member
          · exact List.mem_cons_self
          · exact List.mem_cons_of_mem d (ih (split ▸ List.mem_cons_self) member)
        · exact List.mem_cons_of_mem d (ih (split ▸ List.mem_cons_of_mem r later) member)

/-- What is in none of the texts and not in what is put between them is not in the whole. -/
theorem not_mem_intercalate {c : Char} {separator : List Char} {ss : List (List Char)}
    (between : c ∉ separator) (each : ∀ s ∈ ss, c ∉ s) : c ∉ separator.intercalate ss := by
  induction ss with
  | nil => exact List.not_mem_nil
  | cons s ss ih =>
    obtain ⟨first, others⟩ := List.forall_mem_cons.mp each
    cases ss with
    | nil =>
      rw [List.intercalate_singleton]
      exact first
    | cons t ss =>
      rw [List.intercalate_cons_cons, List.mem_append, List.mem_append]
      rintro ((here | here) | later)
      · exact first here
      · exact between here
      · exact ih others later

/-! ### Blanks -/

/-- A text without blanks has none to lose. -/
theorem trim_eq_self {s : List Char} (h : ∀ c ∈ s, isBlank c = false) : trim s = s := by
  have unblank {s : List Char} (h : ∀ c ∈ s, isBlank c = false) : trimStart s = s :=
    trimStart_eq_self fun c first => h c (List.mem_of_mem_head? first)
  have reversed : trimStart s.reverse = s.reverse :=
    unblank fun c mem => h c (List.mem_reverse.mp mem)
  rw [trim, unblank h]
  exact (congrArg List.reverse reversed).trans (List.reverse_reverse s)

/-- The text is another one with blanks around it, if any. -/
def Surrounds (s core : List Char) : Prop :=
  ∃ before after, (∀ c ∈ before, isBlank c = true) ∧ (∀ c ∈ after, isBlank c = true) ∧
    s = before ++ core ++ after

/-- A text is what is left of it by trimming, with blanks around it. -/
theorem surrounds_trim (s : List Char) : Surrounds s (trim s) := by
  have start (s : List Char) : s.takeWhile isBlank ++ trimStart s = s :=
    List.takeWhile_append_dropWhile
  have stop (s : List Char) : trimEnd s ++ (s.reverse.takeWhile isBlank).reverse = s := by
    rw [trimEnd, ← List.reverse_append, List.takeWhile_append_dropWhile, List.reverse_reverse]
  have blanks {s : List Char} : ∀ c ∈ s.takeWhile isBlank, isBlank c = true :=
    List.all_eq_true.mp List.all_takeWhile
  refine ⟨s.takeWhile isBlank, ((trimStart s).reverse.takeWhile isBlank).reverse, blanks,
    fun c mem => blanks c (List.mem_reverse.mp mem), ?_⟩
  rw [List.append_assoc, trim, stop, start]

/-- Blanks around a text that has none are taken away. -/
theorem trim_of_surrounds {s core : List Char} (surrounds : Surrounds s core)
    (unblank : ∀ c ∈ core, isBlank c = false) : trim s = core := by
  obtain ⟨before, after, front, back, rfl⟩ := surrounds
  have trailing : trimEnd (core ++ after) = core := by
    have reversed : (core ++ after).reverse.dropWhile isBlank = core.reverse := by
      rw [List.reverse_append,
        List.dropWhile_append_of_pos fun c mem => back c (List.mem_reverse.mp mem)]
      exact trimStart_eq_self fun c first =>
        unblank c (List.mem_reverse.mp (List.mem_of_mem_head? first))
    rw [trimEnd, reversed, List.reverse_reverse]
  have leading : trimStart (before ++ (core ++ after)) = trimStart (core ++ after) :=
    List.dropWhile_append_of_pos front
  rw [List.append_assoc, trim, leading]
  cases core with
  | nil =>
    have empty : trimStart (after ++ []) = [] := List.dropWhile_append_of_pos back
    rw [List.append_nil] at empty
    rw [List.nil_append, empty]
    rfl
  | cons c core =>
    have kept : trimStart (c :: core ++ after) = c :: core ++ after :=
      trimStart_eq_self fun d first => by
        cases first
        exact unblank c List.mem_cons_self
    rw [kept, trailing]

/-- A digit is no blank. -/
theorem isBlank_of_isDigit {c : Char} (digit : isDigit c = true) : isBlank c = false := by
  simp only [isDigit, Bool.and_eq_true, decide_eq_true_eq] at digit
  simp only [isBlank, Bool.or_eq_false_iff, Bool.and_eq_false_iff, beq_eq_false_iff_ne,
    decide_eq_false_iff_not]
  omega

/-- A digit is none of the other characters. -/
theorem ne_of_isDigit {c d : Char} (digit : isDigit c = true) (other : isDigit d = false) :
    (c == d) = false := by
  rw [beq_eq_false_iff_ne]
  rintro rfl
  rw [digit] at other
  cases other

end TableAccess.Text
