import TableAccess.Statement.Clause

/-!
The tokens of a condition: parentheses, and the words that blanks and parentheses separate.
What stands between two equal quotes belongs to one word.

A text lexes to some tokens when it does so before whatever blank or closing parenthesis may
follow it, so that texts can be put together.
-/

set_option autoImplicit false
set_option relaxedAutoImplicit false

namespace TableAccess.Reading

/-- A token. A quote that is never closed is stray. -/
inductive Token
  | opening
  | closing
  | word (text : String)
  | stray
  deriving DecidableEq

/-- The quotes of texts and of names. -/
def isQuote (c : Char) : Bool := c == '\'' || c == '"'

/-- The word that has been read so far, if it has any characters. -/
def flush (pending : List Char) : List Token :=
  if pending.isEmpty then [] else [.word (String.ofList pending)]

/-- The tokens after the characters of an unfinished word, maybe within a quote. -/
def lexFrom (pending : List Char) : Option Char → List Char → List Token
  | none, [] => flush pending
  | some _, [] => [.stray]
  | some q, c :: cs => lexFrom (pending ++ [c]) (if c = q then none else some q) cs
  | none, c :: cs =>
    if c = ' ' then flush pending ++ lexFrom [] none cs
    else if c = '(' then flush pending ++ .opening :: lexFrom [] none cs
    else if c = ')' then flush pending ++ .closing :: lexFrom [] none cs
    else lexFrom (pending ++ [c]) (if isQuote c then some c else none) cs

def lex (s : List Char) : List Token := lexFrom [] none s

/-- A character that stands for itself within a word. -/
def isPlain (c : Char) : Bool := !(c == ' ' || c == '(' || c == ')' || isQuote c)

/-- What can follow a word. -/
def Boundary (rest : List Char) : Prop := ∀ c ∈ rest.head?, c = ' ' ∨ c = ')'

/-- The characters of a word: plain ones, or others between quotes. -/
inductive Word : List Char → Prop
  | plain {w : List Char} (nonempty : w ≠ []) (plain : ∀ c ∈ w, isPlain c = true) : Word w
  | quoted {q : Char} (quote : isQuote q = true) {body : List Char}
      (inside : ∀ c ∈ body, c ≠ q) : Word (q :: (body ++ [q]))

/-- A text lexes to tokens, whatever follows it. -/
def Lexes (s : String) (ts : List Token) : Prop :=
  ∀ rest, Boundary rest → lex (s.toList ++ rest) = ts ++ lex rest

/-! ### Words -/

/-- What holds of the characters of a list one by one. -/
theorem forall_mem_of_all {cs : List Char} {p : Char → Prop} [DecidablePred p]
    (h : cs.all (fun c => decide (p c)) = true) : ∀ c ∈ cs, p c :=
  fun c member => of_decide_eq_true (List.all_eq_true.mp h c member)

private theorem plain_step {c : Char} (plain : isPlain c = true) (pending rest : List Char) :
    lexFrom pending none (c :: rest) = lexFrom (pending ++ [c]) none rest := by
  simp only [isPlain, Bool.not_eq_true', Bool.or_eq_false_iff, beq_eq_false_iff_ne] at plain
  obtain ⟨⟨⟨blank, opening⟩, closing⟩, quote⟩ := plain
  rw [lexFrom, if_neg blank, if_neg opening, if_neg closing, quote]
  rfl

private theorem quote_step {q : Char} (quote : isQuote q = true) (pending rest : List Char) :
    lexFrom pending none (q :: rest) = lexFrom (pending ++ [q]) (some q) rest := by
  have unlike {c : Char} (other : isQuote c = false) : q ≠ c := by
    rintro rfl
    rw [quote] at other
    cases other
  rw [lexFrom, if_neg (unlike (by decide)), if_neg (unlike (by decide)),
    if_neg (unlike (by decide)), quote]
  rfl

private theorem lexFrom_plain {w : List Char} (plain : ∀ c ∈ w, isPlain c = true)
    (pending rest : List Char) :
    lexFrom pending none (w ++ rest) = lexFrom (pending ++ w) none rest := by
  induction w generalizing pending with
  | nil => rw [List.append_nil, List.nil_append]
  | cons c w ih =>
    rw [List.cons_append, plain_step (plain c List.mem_cons_self),
      ih (fun d member => plain d (List.mem_cons_of_mem c member)), List.append_assoc,
      List.singleton_append]

private theorem lexFrom_inside {q : Char} {body : List Char} (inside : ∀ c ∈ body, c ≠ q)
    (pending rest : List Char) :
    lexFrom pending (some q) (body ++ q :: rest) =
      lexFrom (pending ++ (body ++ [q])) none rest := by
  induction body generalizing pending with
  | nil => rw [List.nil_append, lexFrom, if_pos rfl, List.nil_append]
  | cons c body ih =>
    have unlike : c ≠ q := inside c List.mem_cons_self
    rw [List.cons_append, lexFrom, if_neg unlike,
      ih fun d member => inside d (List.mem_cons_of_mem c member), List.append_assoc,
      List.singleton_append, List.cons_append]

private theorem lexFrom_word {w : List Char} (word : Word w) (rest : List Char) :
    lexFrom [] none (w ++ rest) = lexFrom w none rest := by
  cases word with
  | plain _ plain => rw [lexFrom_plain plain, List.nil_append]
  | quoted quote inside =>
    rw [List.cons_append, quote_step quote, List.append_assoc, List.singleton_append,
      lexFrom_inside inside]
    rfl

/-- A word ends before what can follow it. -/
private theorem lexFrom_boundary {rest : List Char} (boundary : Boundary rest)
    (pending : List Char) : lexFrom pending none rest = flush pending ++ lex rest := by
  cases rest with
  | nil => exact (List.append_nil _).symm
  | cons c rest =>
    have ends : c = ' ' ∨ c = ')' := boundary c rfl
    rcases ends with rfl | rfl
    · rw [lex, lexFrom, lexFrom, if_pos rfl]
      rfl
    · have blank : ¬ ')' = ' ' := by decide
      have opening : ¬ ')' = '(' := by decide
      rw [lex, lexFrom, lexFrom, if_neg blank, if_neg opening, if_pos rfl]
      rfl

theorem Word.ne_nil {w : List Char} (word : Word w) : w ≠ [] := by
  cases word with
  | plain nonempty _ => exact nonempty
  | quoted _ _ => exact List.cons_ne_nil _ _

theorem Lexes.word {s : String} (word : Word s.toList) : Lexes s [.word s] := by
  intro rest boundary
  have filled : s.toList.isEmpty = false := by
    rw [List.isEmpty_eq_false_iff]
    exact word.ne_nil
  rw [lex, lexFrom_word word, lexFrom_boundary boundary, flush, filled]
  simp only [Bool.false_eq_true, if_false, String.ofList_toList]

theorem Lexes.plain {s : String} (nonempty : s.toList ≠ []) (plain : s.toList.all isPlain = true) :
    Lexes s [.word s] :=
  .word (.plain nonempty (List.all_eq_true.mp plain))

/-! ### Texts put together -/

private theorem lex_blank (rest : List Char) : lex (' ' :: rest) = lex rest := by
  rw [lex, lexFrom, if_pos rfl]
  rfl

private theorem lex_opening (rest : List Char) : lex ('(' :: rest) = .opening :: lex rest := by
  have blank : ¬ '(' = ' ' := by decide
  rw [lex, lexFrom, if_neg blank, if_pos rfl]
  rfl

private theorem lex_closing (rest : List Char) : lex (')' :: rest) = .closing :: lex rest := by
  have blank : ¬ ')' = ' ' := by decide
  have opening : ¬ ')' = '(' := by decide
  rw [lex, lexFrom, if_neg blank, if_neg opening, if_pos rfl]
  rfl

theorem boundary_nil : Boundary [] := by
  intro c member
  cases member

theorem boundary_blank (rest : List Char) : Boundary (' ' :: rest) := by
  intro c member
  obtain rfl := Option.some.inj member
  exact .inl rfl

theorem boundary_closing (rest : List Char) : Boundary (')' :: rest) := by
  intro c member
  obtain rfl := Option.some.inj member
  exact .inr rfl

namespace Lexes

variable {s t : String} {ts us : List Token}

theorem lex_eq (h : Lexes s ts) : lex s.toList = ts := by
  have whole := h [] boundary_nil
  rw [List.append_nil] at whole
  exact whole.trans (List.append_nil ts)

theorem spaced (h : Lexes s ts) (k : Lexes t us) : Lexes (s ++ " " ++ t) (ts ++ us) := by
  intro rest boundary
  have text : (s ++ " " ++ t).toList ++ rest = s.toList ++ ' ' :: (t.toList ++ rest) := by
    rw [String.toList_append, String.toList_append, List.append_assoc, List.append_assoc]
    rfl
  rw [text, h _ (boundary_blank _), lex_blank, k rest boundary, List.append_assoc]

theorem enclosed (h : Lexes s ts) :
    Lexes ("(" ++ s ++ ")") (.opening :: (ts ++ [.closing])) := by
  intro rest boundary
  have text : ("(" ++ s ++ ")").toList ++ rest = '(' :: (s.toList ++ ')' :: rest) := by
    rw [String.toList_append, String.toList_append, List.append_assoc, List.append_assoc]
    rfl
  rw [text, lex_opening, h _ (boundary_closing rest), lex_closing, List.cons_append,
    List.append_assoc]
  rfl

end Lexes

/-- Any text without stray quotes can be put in parentheses. -/
private theorem lexFrom_closed {s : List Char} {pending : List Char} {quote : Option Char}
    (closed : Token.stray ∉ lexFrom pending quote s) (rest : List Char) :
    lexFrom pending quote (s ++ ')' :: rest) = lexFrom pending quote s ++ .closing :: lex rest := by
  induction s generalizing pending quote with
  | nil =>
    cases quote with
    | none =>
      rw [List.nil_append, lexFrom_boundary (boundary_closing rest) pending, lex_closing]
      rfl
    | some q =>
      -- A text that ends within a quote has a stray one.
      exact absurd (List.mem_singleton.mpr rfl) closed
  | cons c s ih =>
    rw [List.cons_append]
    cases quote with
    | some q =>
      rw [lexFrom] at closed ⊢
      rw [lexFrom]
      exact ih closed
    | none =>
      rw [lexFrom] at closed ⊢
      rw [lexFrom]
      split at closed
      · next blank =>
        have later : Token.stray ∉ lexFrom [] none s :=
          fun member => closed (List.mem_append_right _ member)
        rw [if_pos blank, if_pos blank, ih later, List.append_assoc]
      · next blank =>
        rw [if_neg blank, if_neg blank]
        split at closed
        · next opening =>
          have later : Token.stray ∉ lexFrom [] none s :=
            fun member => closed (List.mem_append_right _ (List.mem_cons_of_mem _ member))
          rw [if_pos opening, if_pos opening, ih later, List.append_assoc, List.cons_append]
        · next opening =>
          rw [if_neg opening, if_neg opening]
          split at closed
          · next closing =>
            have later : Token.stray ∉ lexFrom [] none s :=
              fun member => closed (List.mem_append_right _ (List.mem_cons_of_mem _ member))
            rw [if_pos closing, if_pos closing, ih later, List.append_assoc, List.cons_append]
          · next closing =>
            rw [if_neg closing, if_neg closing]
            exact ih closed

theorem lexes_enclosed {s : String} (closed : Token.stray ∉ lex s.toList) :
    Lexes ("(" ++ s ++ ")") (.opening :: (lex s.toList ++ [.closing])) := by
  intro rest boundary
  have text : ("(" ++ s ++ ")").toList ++ rest = '(' :: (s.toList ++ ')' :: rest) := by
    rw [String.toList_append, String.toList_append, List.append_assoc, List.append_assoc]
    rfl
  have whole := lexFrom_closed closed rest
  rw [text, lex_opening, lex, whole, List.cons_append, List.append_assoc]
  rfl

end TableAccess.Reading
