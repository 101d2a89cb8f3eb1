import TableAccess.Proofs.Text.Cuts
import TableAccess.Text.Words

/-!
The words of a query, and the texts in which words can stand.

Words stand in a text in order, with a run of blanks and commas between each two of them, and maybe
with one in front of the first and behind the last. Main statement: the words of a query are the
only words that stand in it so, and there are none exactly in a run of blanks and commas.
-/

set_option autoImplicit false
set_option relaxedAutoImplicit false

namespace TableAccess.Text

/-- A run of blanks and commas, which may be empty. -/
def Breaks (s : List Char) : Prop := ∀ c ∈ s, isBlank c = true ∨ c = ','

/-- A word has at least one character, and no blank or comma among them. -/
structure IsWord (w : List Char) : Prop where
  filled : w ≠ []
  unbroken : ∀ c ∈ w, isBlank c = false ∧ c ≠ ','

/-- Words in order, each with the breaks behind it. There is a break wherever another word
follows. -/
inductive Spelled : List (List Char) → List Char → Prop
  | nil : Spelled [] []
  | word {w gap rest : List Char} {ws : List (List Char)} : IsWord w → Breaks gap →
      (ws ≠ [] → gap ≠ []) → Spelled ws rest → Spelled (w :: ws) (w ++ (gap ++ rest))

/-- Words in order, with breaks between them and maybe around them. -/
def Spaced (ws : List (List Char)) (s : List Char) : Prop :=
  ∃ lead body, Breaks lead ∧ Spelled ws body ∧ s = lead ++ body

variable {s w : List Char} {ws : List (List Char)}

theorem isWordBreak_iff {c : Char} : isWordBreak c = true ↔ isBlank c = true ∨ c = ',' := by
  rw [isWordBreak, Bool.or_eq_true, beq_iff_eq]

theorem not_isWordBreak_iff {c : Char} :
    isWordBreak c = false ↔ isBlank c = false ∧ c ≠ ',' := by
  rw [isWordBreak, Bool.or_eq_false_iff, beq_eq_false_iff_ne]

/-! ### The words of a text in parts -/

/-- A break in front of a text belongs to no word. -/
theorem wordsOf_break {c : Char} (here : isWordBreak c = true) (s : List Char) :
    wordsOf (c :: s) = wordsOf s := by
  rw [wordsOf, pieces, if_pos here]
  rfl

theorem wordsOf_breaks_append {gap : List Char} (breaks : Breaks gap) (s : List Char) :
    wordsOf (gap ++ s) = wordsOf s := by
  induction gap with
  | nil => rfl
  | cons c gap ih =>
    obtain ⟨first, others⟩ := List.forall_mem_cons.mp breaks
    rw [List.cons_append, wordsOf_break (isWordBreak_iff.mpr first), ih others]

/-- A word is one of the words of a text that it starts, if a break or nothing follows it. -/
theorem wordsOf_word_append (word : IsWord w) {rest : List Char}
    (stops : ∀ c ∈ rest.head?, isWordBreak c = true) :
    wordsOf (w ++ rest) = w :: wordsOf rest := by
  have unbroken : ∀ c ∈ w, isWordBreak c = false :=
    fun c member => not_isWordBreak_iff.mpr (word.unbroken c member)
  have kept (others : List (List Char)) : (w :: others).filter (fun w => !w.isEmpty) =
      w :: others.filter fun w => !w.isEmpty := by
    apply List.filter_cons_of_pos
    rw [List.isEmpty_eq_false_iff.mpr word.filled]
    rfl
  cases rest with
  | nil =>
    rw [List.append_nil, wordsOf, pieces_eq_singleton unbroken, kept]
    rfl
  | cons c rest =>
    have here : isWordBreak c = true := stops c rfl
    rw [wordsOf_break here, wordsOf, pieces_append unbroken here, kept]
    rfl

/-! ### Words that stand in a text -/

/-- Behind a word stands a break, or nothing. -/
private theorem head_gap {gap rest : List Char} (breaks : Breaks gap) (apart : ws ≠ [] → gap ≠ [])
    (spelled : Spelled ws rest) : ∀ c ∈ (gap ++ rest).head?, isWordBreak c = true := by
  intro c first
  cases gap with
  | cons d gap =>
    cases first
    exact isWordBreak_iff.mpr (breaks c List.mem_cons_self)
  | nil =>
    cases spelled with
    | nil => cases first
    | word => exact absurd rfl (apart (List.cons_ne_nil _ _))

/-- Words that stand in a text are its words. -/
theorem Spelled.wordsOf_eq (spelled : Spelled ws s) : wordsOf s = ws := by
  induction spelled with
  | nil => rfl
  | word isWord breaks apart spelled ih =>
    rw [wordsOf_word_append isWord (head_gap breaks apart spelled), wordsOf_breaks_append breaks,
      ih]

theorem Spaced.wordsOf_eq (spaced : Spaced ws s) : wordsOf s = ws := by
  obtain ⟨lead, body, breaks, spelled, rfl⟩ := spaced
  rw [wordsOf_breaks_append breaks, spelled.wordsOf_eq]

/-- A character that is no break is a word by itself in front of a break, and makes the word longer
that it is in front of. -/
private theorem exists_spaced_cons {c : Char} (unbroken : isBlank c = false ∧ c ≠ ',')
    (spaced : Spaced ws s) : ∃ vs, Spaced vs (c :: s) := by
  have single : IsWord [c] := ⟨List.cons_ne_nil c [], List.forall_mem_singleton.mpr unbroken⟩
  have unled : Breaks [] := List.forall_mem_nil _
  obtain ⟨lead, body, breaks, spelled, rfl⟩ := spaced
  cases lead with
  | cons d lead =>
    exact ⟨_, [], _, unled, .word single breaks (fun _ => List.cons_ne_nil d lead) spelled, rfl⟩
  | nil =>
    cases spelled with
    | nil => exact ⟨_, [], _, unled, .word single unled (fun none => absurd rfl none) .nil, rfl⟩
    | @word w gap rest ws isWord breaks apart spelled =>
      have longer : IsWord (c :: w) :=
        ⟨List.cons_ne_nil c w, List.forall_mem_cons.mpr ⟨unbroken, isWord.unbroken⟩⟩
      exact ⟨_, [], _, unled, .word longer breaks apart spelled, rfl⟩

/-- In every text stand some words. -/
theorem exists_spaced (s : List Char) : ∃ ws, Spaced ws s := by
  induction s with
  | nil => exact ⟨[], [], [], List.forall_mem_nil _, .nil, rfl⟩
  | cons c s ih =>
    obtain ⟨ws, spaced⟩ := ih
    cases here : isWordBreak c with
    | false => exact exists_spaced_cons (not_isWordBreak_iff.mp here) spaced
    | true =>
      obtain ⟨lead, body, breaks, spelled, rfl⟩ := spaced
      exact ⟨ws, c :: lead, body, List.forall_mem_cons.mpr ⟨isWordBreak_iff.mp here, breaks⟩,
        spelled, rfl⟩

/-- The words of a text are exactly those that stand in it. -/
theorem wordsOf_eq_iff : wordsOf s = ws ↔ Spaced ws s := by
  constructor
  · rintro rfl
    obtain ⟨vs, spaced⟩ := exists_spaced s
    rw [spaced.wordsOf_eq]
    exact spaced
  · exact Spaced.wordsOf_eq

theorem spaced_nil_iff : Spaced [] s ↔ Breaks s := by
  constructor
  · rintro ⟨lead, body, breaks, spelled, rfl⟩
    cases spelled
    rwa [List.append_nil]
  · intro breaks
    exact ⟨s, [], breaks, .nil, (List.append_nil s).symm⟩

theorem words_eq_iff {query : String} {words : List String} :
    Text.words query = words ↔ wordsOf query.toList = words.map String.toList := by
  have text : String.ofList ∘ String.toList = id := funext fun _ => String.ofList_toList
  have chars : String.toList ∘ String.ofList = id := funext fun _ => String.toList_ofList
  constructor
  · rintro rfl
    rw [Text.words, List.map_map, chars, List.map_id]
  · intro same
    rw [Text.words, same, List.map_map, text, List.map_id]

/-- The words of a query are those that stand in it with breaks between them and maybe around them,
and no other words do. So whatever the breaks are, exactly the words that they separate are found,
and none are found exactly where there is nothing but breaks. -/
theorem words_exactly_spaced (query : String) :
    (∀ ws, words query = ws ↔ Spaced (ws.map String.toList) query.toList) ∧
    (words query = [] ↔ Breaks query.toList) := by
  have exactly (ws : List String) :
      words query = ws ↔ Spaced (ws.map String.toList) query.toList :=
    words_eq_iff.trans wordsOf_eq_iff
  exact ⟨exactly, (exactly []).trans spaced_nil_iff⟩

/-- Blanks of one, two and three bytes, and commas. -/
example : words " ,\u00a0new\u3000,york,\u2028 \t1,5\u0085" = ["new", "york", "1", "5"] := by decide

end TableAccess.Text
