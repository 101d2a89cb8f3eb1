import TableAccess.Proofs.Predicate.Tokens
import TableAccess.Proofs.Text.Numeral
import TableAccess.Text.Blank

/-!
The lexemes of statements: names between double quotes, texts between single quotes, the places of
parameters, other words, and punctuation.

Between quotes a quote that is written twice stands for one, and the first one by itself closes
them. A text lexes to some lexemes when it does so before whatever may follow it, up to what would
continue its last lexeme, so that texts can be put together.
-/

set_option autoImplicit false
set_option relaxedAutoImplicit false

namespace TableAccess

/-- What a statement is made of. A quote that is never closed is stray. -/
inductive Lexeme
  | name (text : String)
  | literal (text : String)
  | place (number : Nat)
  | word (text : String)
  | mark (c : Char)
  | stray
  deriving DecidableEq

namespace Lexeme

open Reading (isQuote)

/-- The punctuation, each character of which is a lexeme. -/
def isMark (c : Char) : Bool := c == '(' || c == ')' || c == ',' || c == '.' || c == '='

/-- A character that belongs to a word. -/
def isPlain (c : Char) : Bool := !(Text.isBlank c || isMark c || isQuote c)

/-- A word. The place of a parameter is one of a dollar sign and digits. -/
def ofWord (w : List Char) : Lexeme :=
  match w with
  | '$' :: d :: ds =>
    if (d :: ds).all Text.isDigit then .place (Text.valueOf (d :: ds)) else .word (String.ofList w)
  | _ => .word (String.ofList w)

def ofQuoted (quote : Char) (s : List Char) : Lexeme :=
  if quote = '"' then .name (String.ofList s) else .literal (String.ofList s)

/-- What has been read of the current lexeme: the characters of a word, maybe none; those of a
quoted text; or a quoted text and a quote that closes it unless another one follows. -/
inductive Pending
  | word (w : List Char)
  | quoted (quote : Char) (s : List Char)
  | closing (quote : Char) (s : List Char)

namespace Pending

def flush (w : List Char) : List Lexeme := if w.isEmpty then [] else [ofWord w]

/-- A character outside quotes, after those of a word. -/
def next (w : List Char) (c : Char) : List Lexeme × Pending :=
  if isQuote c then (flush w, .quoted c [])
  else if isMark c then (flush w ++ [.mark c], .word [])
  else if Text.isBlank c then (flush w, .word [])
  else ([], .word (w ++ [c]))

def step : Pending → Char → List Lexeme × Pending
  | .word w, c => next w c
  | .quoted q s, c => ([], if c = q then .closing q s else .quoted q (s ++ [c]))
  | .closing q s, c =>
    if c = q then ([], .quoted q (s ++ [q])) else (ofQuoted q s :: (next [] c).1, (next [] c).2)

def finish : Pending → List Lexeme
  | .word w => flush w
  | .quoted _ _ => [.stray]
  | .closing q s => [ofQuoted q s]

/-- The lexemes of the characters that follow. -/
def read (p : Pending) : List Char → List Lexeme
  | [] => p.finish
  | c :: cs => (p.step c).1 ++ (p.step c).2.read cs

/-- The first lexeme to end, and the characters behind it. -/
def first? (p : Pending) : List Char → Option (Lexeme × List Char)
  | [] => p.finish.head?.map (·, [])
  | c :: cs =>
    match (p.step c).1 with
    | [] => (p.step c).2.first? cs
    | l :: _ => some (l, if l = .mark c then cs else c :: cs)

end Pending

def read (s : List Char) : List Lexeme := (Pending.word []).read s

/-- The lexeme that a text starts with, and the characters behind it. -/
def first? (s : List Char) : Option (Lexeme × List Char) := (Pending.word []).first? s

/-- What can follow a lexeme without continuing it. -/
def Boundary (rest : List Char) : Prop :=
  ∀ c ∈ rest.head?, (isMark c || Text.isBlank c) = true

/-- A text lexes to lexemes, whatever follows it. -/
def Lexes (s : String) (ls : List Lexeme) : Prop :=
  ∀ rest, Boundary rest → read (s.toList ++ rest) = ls ++ read rest

/-- A name that needs no quotes: a word that does not start with a dollar sign. -/
structure PlainName (s : String) : Prop where
  filled : s ≠ ""
  chars : ∀ c ∈ s.toList, isPlain c = true
  start : s.toList.head? ≠ some '$'

instance (s : String) : Decidable (PlainName s) :=
  letI : Decidable (∀ c ∈ s.toList, isPlain c = true) := List.decidableBAll _ _
  decidable_of_iff (s ≠ "" ∧ (∀ c ∈ s.toList, isPlain c = true) ∧ s.toList.head? ≠ some '$')
    ⟨fun h => ⟨h.1, h.2.1, h.2.2⟩, fun h => ⟨h.filled, h.chars, h.start⟩⟩

/-- Lexemes with a comma between each two lists of them. -/
def commas (items : List (List Lexeme)) : List Lexeme := [mark ','].intercalate items

/-! ### Boundaries -/

private theorem isQuote_of_ends {c : Char} (ends : (isMark c || Text.isBlank c) = true) :
    isQuote c = false := by
  cases quote : isQuote c with
  | false => rfl
  | true =>
    rw [isQuote, Bool.or_eq_true, beq_iff_eq, beq_iff_eq] at quote
    rcases quote with rfl | rfl
    · exact absurd ends (by decide)
    · exact absurd ends (by decide)

theorem boundary_nil : Boundary [] := fun _ none => nomatch none

theorem boundary_cons {c : Char} (ends : (isMark c || Text.isBlank c) = true) (rest : List Char) :
    Boundary (c :: rest) := by
  rintro d ⟨⟩
  exact ends

/-- A quote continues no text that ends at a boundary. -/
theorem Boundary.ne_quote {rest : List Char} (boundary : Boundary rest) {q : Char}
    (quote : isQuote q = true) : rest.head? ≠ some q := by
  intro first
  have unquoted := isQuote_of_ends (boundary q first)
  rw [quote] at unquoted
  cases unquoted

theorem Boundary.append {s rest : List Char} (front : Boundary s) (back : Boundary rest) :
    Boundary (s ++ rest) := by
  cases s with
  | nil => exact back
  | cons c s => exact front

/-- A character that belongs to no word ends one. -/
private theorem read_break {c : Char} (ends : isPlain c = false) (w rest : List Char) :
    (Pending.word w).read (c :: rest) = Pending.flush w ++ read (c :: rest) := by
  simp only [read, Pending.read, Pending.step, Pending.next]
  cases quote : isQuote c with
  | true => simp [Pending.flush]
  | false =>
    cases punctuation : isMark c with
    | true => simp [Pending.flush]
    | false =>
      have blank : Text.isBlank c = true := by
        rwa [isPlain, quote, punctuation, Bool.or_false, Bool.or_false, Bool.not_eq_false'] at ends
      simp [blank, Pending.flush]

/-- A word ends at a boundary. -/
private theorem read_boundary {rest : List Char} (boundary : Boundary rest) (w : List Char) :
    (Pending.word w).read rest = Pending.flush w ++ read rest := by
  cases rest with
  | nil => exact (List.append_nil _).symm
  | cons c rest =>
    refine read_break ?_ w rest
    have ends := boundary c rfl
    rw [isPlain, Bool.or_comm (Text.isBlank c), ends, Bool.true_or, Bool.not_true]

private theorem step_plain {c : Char} (plain : isPlain c = true) (w : List Char) :
    (Pending.word w).step c = ([], .word (w ++ [c])) := by
  simp only [isPlain, Bool.not_eq_true', Bool.or_eq_false_iff] at plain
  obtain ⟨⟨blank, punctuation⟩, quote⟩ := plain
  simp only [Pending.step, Pending.next, blank, punctuation, quote, Bool.false_eq_true, if_false]

/-! ### The first lexeme -/

private theorem ofWord_ne_mark (w : List Char) (c : Char) : ofWord w ≠ .mark c := by
  unfold ofWord
  split
  · split <;> exact fun h => nomatch h
  · exact fun h => nomatch h

private theorem ofQuoted_ne_mark (q : Char) (s : List Char) (c : Char) :
    ofQuoted q s ≠ .mark c := by
  unfold ofQuoted
  split <;> exact fun h => nomatch h

private theorem first?_break {w : List Char} {c : Char} {cs rest : List Char} {l : Lexeme}
    (ends : isPlain c = false) (filled : w ≠ [])
    (h : (Pending.word w).first? (c :: cs) = some (l, rest)) : l = ofWord w ∧ rest = c :: cs := by
  have emitted : ∃ more, ((Pending.word w).step c).1 = ofWord w :: more := by
    simp only [Pending.step, Pending.next, Pending.flush, List.isEmpty_iff, filled, if_false]
    split
    · exact ⟨[], rfl⟩
    · split
      · exact ⟨[mark c], rfl⟩
      · split
        · exact ⟨[], rfl⟩
        · next quote punctuation blank =>
          simp [isPlain, quote, punctuation, blank] at ends
  obtain ⟨more, emitted⟩ := emitted
  rw [Pending.first?, emitted] at h
  simp only [if_neg (ofWord_ne_mark w c), Option.some_inj, Prod.mk.injEq] at h
  exact ⟨h.1.symm, h.2.symm⟩

/-- Reading goes on behind the first lexeme. -/
theorem Pending.read_of_first? {p : Pending} {s rest : List Char} {l : Lexeme}
    (h : p.first? s = some (l, rest)) : p.read s = l :: Lexeme.read rest := by
  induction s generalizing p with
  | nil =>
    cases p with
    | word w =>
      cases w with
      | nil => cases h
      | cons c w => cases h; rfl
    | quoted q s => cases h; rfl
    | closing q s => cases h; rfl
  | cons c cs ih =>
    -- What emits nothing is continued.
    have silent (none : (p.step c).1 = []) : p.read (c :: cs) = l :: Lexeme.read rest := by
      rw [first?, none] at h
      rw [Pending.read, none, List.nil_append]
      exact ih h
    cases p with
    | quoted q s => exact silent rfl
    | closing q s =>
      by_cases same : c = q
      · exact silent (by simp only [step, if_pos same])
      · simp only [first?, step, if_neg same, if_neg (ofQuoted_ne_mark q s c)] at h
        cases h
        simp only [Lexeme.read, Pending.read, step, if_neg same, List.cons_append]
    | word w =>
      cases plain : isPlain c with
      | true => exact silent (by rw [step_plain plain])
      | false =>
        cases w with
        | cons d w =>
          obtain ⟨rfl, rfl⟩ := first?_break plain (List.cons_ne_nil d w) h
          exact read_break plain (d :: w) cs
        | nil =>
          cases quote : isQuote c with
          | true => exact silent (by simp only [step, next, quote, if_true]; rfl)
          | false =>
            cases punctuation : isMark c with
            | true =>
              simp only [first?, step, next, quote, punctuation, Bool.false_eq_true, if_false,
                if_true] at h
              cases h
              simp only [Pending.read, step, next, quote, punctuation, Bool.false_eq_true, if_false,
                if_true]
              rfl
            | false =>
              refine silent ?_
              simp only [step, next, quote, punctuation, Bool.false_eq_true, if_false]
              split <;> rfl

theorem read_of_first? {s rest : List Char} {l : Lexeme} (h : first? s = some (l, rest)) :
    read s = l :: read rest := Pending.read_of_first? h

/-! ### Words -/

private theorem read_plain {w : List Char} (plain : ∀ c ∈ w, isPlain c = true)
    (before rest : List Char) :
    (Pending.word before).read (w ++ rest) = (Pending.word (before ++ w)).read rest := by
  induction w generalizing before with
  | nil => rw [List.append_nil, List.nil_append]
  | cons c w ih =>
    obtain ⟨first, others⟩ := List.forall_mem_cons.mp plain
    rw [List.cons_append, Pending.read, step_plain first, List.nil_append, ih others,
      List.append_assoc, List.singleton_append]

/-- The characters of a word are one lexeme. -/
private theorem lexes_plain {s : String} (filled : s ≠ "")
    (plain : ∀ c ∈ s.toList, isPlain c = true) : Lexes s [ofWord s.toList] := by
  intro rest boundary
  have some_chars : s.toList.isEmpty = false := by
    rw [List.isEmpty_eq_false_iff]
    exact fun none => filled (String.toList_injective none)
  rw [read, read_plain plain, List.nil_append, read_boundary boundary, Pending.flush, some_chars]
  rfl

theorem PlainName.lexes {s : String} (h : PlainName s) : Lexes s [word s] := by
  have lexes := lexes_plain h.filled h.chars
  have shown : ofWord s.toList = word s := by
    have start := h.start
    unfold ofWord
    split
    · next text =>
      rw [text] at start
      exact absurd rfl start
    · rw [String.ofList_toList]
  rwa [shown] at lexes

private theorem isPlain_of_isDigit {c : Char} (digit : Text.isDigit c = true) :
    isPlain c = true := by
  have table : ∀ n < 58, Text.isDigit (Char.ofNat n) = true → isPlain (Char.ofNat n) = true := by
    decide
  have small : c.toNat < 58 := by
    simp only [Text.isDigit, Bool.and_eq_true, decide_eq_true_eq] at digit
    omega
  exact Text.forall_char_lt (P := fun c => Text.isDigit c = true → isPlain c = true) table small
    digit

theorem lexes_natText (n : Nat) : Lexes (Text.natText n) [word (Text.natText n)] := by
  have digits : (Text.natText n).toList = Text.numeral n := String.toList_ofList
  have digit : ∀ c ∈ (Text.natText n).toList, Text.isDigit c = true := by
    intro c member
    rw [digits] at member
    exact Text.isDigit_of_mem_numeral member
  refine PlainName.lexes ⟨fun none => ?_, fun c member => isPlain_of_isDigit (digit c member), ?_⟩
  · rw [none] at digits
    exact Text.numeral_ne_nil n digits.symm
  · intro start
    exact absurd (digit '$' (List.mem_of_mem_head? start)) (by decide)

/-- The place of a parameter is one lexeme. -/
theorem lexes_placeholder (n : Nat) : Lexes (Clause.placeholder n) [place n] := by
  have text := Clause.toList_placeholder n
  have plain : ∀ c ∈ (Clause.placeholder n).toList, isPlain c = true := by
    rw [text]
    exact List.forall_mem_cons.mpr
      ⟨by decide, fun c member => isPlain_of_isDigit (Text.isDigit_of_mem_numeral member)⟩
  have lexes := lexes_plain (by simp [Clause.placeholder]) plain
  have digits : (Text.numeral n).all Text.isDigit = true :=
    List.all_eq_true.mpr fun c => Text.isDigit_of_mem_numeral
  have shown : ofWord (Clause.placeholder n).toList = place n := by
    obtain ⟨d, ds, numeral⟩ := List.exists_cons_of_ne_nil (Text.numeral_ne_nil n)
    have number := Text.valueOf_numeral n
    rw [numeral] at digits number
    rw [text, numeral, ofWord, if_pos digits, number]
  rwa [shown] at lexes

/-! ### Quoted texts -/

/-- A quote within a text is written twice and read once. -/
private theorem first?_replaced (q : Char) (before s rest : List Char) :
    (Pending.quoted q before).first? (Literal.replaced q [q, q] s ++ q :: rest) =
      (Pending.closing q (before ++ s)).first? rest := by
  induction s generalizing before with
  | nil =>
    rw [List.append_nil]
    simp only [Literal.replaced, List.flatMap_nil, List.nil_append, Pending.first?, Pending.step,
      if_true]
  | cons c s ih =>
    have tail := Literal.replaced_cons q [q, q] c s
    have whole : before ++ c :: s = before ++ [c] ++ s := by
      rw [List.append_assoc, List.singleton_append]
    rw [tail, whole, ← ih]
    by_cases same : c = q
    · subst same
      simp only [if_true, List.cons_append, List.nil_append, Pending.first?, Pending.step]
    · simp only [if_neg same, List.cons_append, List.nil_append, Pending.first?, Pending.step]

private theorem first?_closing {q : Char} {rest : List Char} (other : rest.head? ≠ some q)
    (s : List Char) : (Pending.closing q s).first? rest = some (ofQuoted q s, rest) := by
  cases rest with
  | nil => rfl
  | cons c rest =>
    have unlike : ¬ c = q := fun same => other (congrArg some same)
    simp only [Pending.first?, Pending.step, if_neg unlike, if_neg (ofQuoted_ne_mark q s c)]

/-- A text between quotes is one lexeme, up to any text that does not start with the quote. -/
private theorem first?_quoted {q : Char} (quote : isQuote q = true) {rest : List Char}
    (other : rest.head? ≠ some q) (s : List Char) :
    first? (q :: (Literal.replaced q [q, q] s ++ q :: rest)) = some (ofQuoted q s, rest) := by
  have opened : (Pending.word []).step q = ([], .quoted q []) := by
    simp only [Pending.step, Pending.next, quote, if_true]
    rfl
  rw [first?, Pending.first?, opened]
  simp only [first?_replaced, List.nil_append, first?_closing other]

/-- A quoted name is read as the name, up to any text that does not start with a double quote. -/
theorem first?_identifier (s : String) {rest : List Char} (other : rest.head? ≠ some '"') :
    first? ((Literal.identifier s).toList ++ rest) = some (name s, rest) := by
  have text : (Literal.identifier s).toList ++ rest =
      '"' :: (Literal.replaced '"' ['"', '"'] s.toList ++ '"' :: rest) := by
    rw [Literal.identifier, String.toList_ofList, List.cons_append, List.cons_append,
      List.append_assoc, List.singleton_append]
  rw [text, first?_quoted (by decide) other, ofQuoted, if_pos rfl, String.ofList_toList]

/-- A text without single quotes between two of them is one lexeme, up to any text that does not
start with one. -/
theorem first?_literal {s rest : List Char} (quoteless : ∀ c ∈ s, c ≠ '\'')
    (other : rest.head? ≠ some '\'') :
    first? ('\'' :: (s ++ '\'' :: rest)) = some (literal (String.ofList s), rest) := by
  have same : Literal.replaced '\'' ['\'', '\''] s = s :=
    Literal.replaced_of_not_mem _ fun member => quoteless _ member rfl
  have whole := first?_quoted (by decide) other s
  rw [same, ofQuoted, if_neg (by decide)] at whole
  exact whole

theorem lexes_identifier (s : String) : Lexes (Literal.identifier s) [name s] :=
  fun _ boundary => read_of_first? (first?_identifier s (boundary.ne_quote (by decide)))

/-! ### Texts put together -/

section Together

variable {s t : String} {ls ks : List Lexeme}

theorem Lexes.read_eq (h : Lexes s ls) : read s.toList = ls := by
  have whole := h [] boundary_nil
  rw [List.append_nil] at whole
  exact whole.trans (List.append_nil ls)

theorem Lexes.append (h : Lexes s ls) (k : Lexes t ks) (apart : Boundary t.toList) :
    Lexes (s ++ t) (ls ++ ks) := by
  intro rest boundary
  rw [String.toList_append, List.append_assoc, h _ (apart.append boundary), k rest boundary,
    List.append_assoc]

/-- Parts with a comma between each two, none of which is empty. -/
theorem lexes_joined {α : Type} (shown : α → String) (lexemes : α → List Lexeme)
    (each : ∀ x, Lexes (shown x) (lexemes x)) (filled : ∀ x, shown x ≠ "") (xs : List α) :
    Lexes (Text.joined ", " (xs.map shown)) (commas (xs.map lexemes)) := by
  have comma (rest : List Char) : read (", ".toList ++ rest) = mark ',' :: read rest := rfl
  have start (rest : List Char) : Boundary (", ".toList ++ rest) := boundary_cons (by decide) _
  induction xs with
  | nil => exact fun _ _ => rfl
  | cons x xs ih =>
    cases xs with
    | nil =>
      rw [List.map_singleton, List.map_singleton, Text.joined_singleton, commas,
        List.intercalate_singleton]
      exact each x
    | cons y xs =>
      intro rest boundary
      have list : commas ((x :: y :: xs).map lexemes) =
          lexemes x ++ mark ',' :: commas ((y :: xs).map lexemes) := by
        simp only [commas, List.map_cons, List.intercalate_cons_cons, List.append_assoc,
          List.singleton_append]
      rw [list, List.map_cons, List.map_cons, Text.joined_cons_cons, if_neg (filled x),
        String.toList_append, String.toList_append, List.append_assoc, List.append_assoc,
        each x _ (start _), comma, ← List.map_cons, ih rest boundary, List.append_assoc,
        List.cons_append]

end Together

end Lexeme

end TableAccess
