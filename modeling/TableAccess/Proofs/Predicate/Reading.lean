import TableAccess.Filter
import TableAccess.Proofs.Predicate.Tokens
import TableAccess.Text.Joined

/-!
Conditions read as they are read in a statement: parentheses first, then `AND`, then `OR`. What
is between them is an atom, a column and what it is compared with.

A connective only joins what is complete, and an atom has at least three words.
-/

set_option autoImplicit false
set_option relaxedAutoImplicit false

namespace TableAccess.Reading

/-- Which atoms hold, by their words. -/
abbrev Assignment := List String → Bool

/-- A condition that has been read. -/
inductive Expr
  | atom (words : List String)
  | and (a b : Expr)
  | or (a b : Expr)

def Expr.eval (ρ : Assignment) : Expr → Bool
  | .atom words => ρ words
  | .and a b => a.eval ρ && b.eval ρ
  | .or a b => a.eval ρ || b.eval ρ

def upper (w : String) : List Char := w.toList.map Char.toUpper

/-- The connective that a word is, in whatever case it is written. -/
def connective? (w : String) : Option Operator :=
  if upper w = ['A', 'N', 'D'] then some .and
  else if upper w = ['O', 'R'] then some .or
  else none

/-- The words that are no names of columns. -/
def keywords : List (List Char) :=
  [['A', 'N', 'D'], ['O', 'R'], ['N', 'O', 'T'], ['I', 'S'], ['N', 'U', 'L', 'L'],
    ['T', 'R', 'U', 'E'], ['F', 'A', 'L', 'S', 'E'], ['I', 'L', 'I', 'K', 'E']]

/-- A word of letters, digits and underscores that is no keyword and does not start with a
digit. -/
def isName (w : String) : Bool :=
  match w.toList with
  | [] => false
  | c :: cs => (c.isAlpha || c == '_') && cs.all (fun d => d.isAlphanum || d == '_') &&
      !keywords.contains (upper w)

/-- A name, or a word that starts with the quote of names. -/
def isColumn (w : String) : Bool := w.toList.head? == some '"' || isName w

/-- The alternatives before the current one, and the conditions before the current one in it. -/
structure Level where
  alternatives : Option Expr
  conjuncts : Option Expr

def Level.empty : Level := ⟨none, none⟩

namespace Level

/-- The current alternative, when its last condition is complete. -/
def alternative (l : Level) (e : Expr) : Expr :=
  match l.conjuncts with
  | none => e
  | some c => .and c e

/-- All alternatives, when the last condition of the last one is complete. -/
def close (l : Level) (e : Expr) : Expr :=
  match l.alternatives with
  | none => l.alternative e
  | some a => .or a (l.alternative e)

/-- What stands before the condition that a connective opens. -/
def after (l : Level) (op : Operator) (e : Expr) : Level :=
  match op with
  | .or => ⟨some (l.close e), none⟩
  | _ => ⟨l.alternatives, some (l.alternative e)⟩

end Level

/-- What is read of the current condition: the words of an atom, or parentheses. -/
inductive Factor
  | words (ws : List String)
  | enclosed (e : Expr)

/-- The condition, when it is complete. -/
def Factor.expr? : Factor → Option Expr
  | .words ws => if 3 ≤ ws.length then some (.atom ws) else none
  | .enclosed e => some e

/-- The levels around the open parentheses, the innermost first, the level within them, and the
current condition. -/
structure Stack where
  outer : List Level
  level : Level
  factor : Factor

namespace Stack

/-- A level at its start. -/
def opened (outer : List Level) (level : Level) : Stack := ⟨outer, level, .words []⟩

/-- A word that does not join complete conditions is a further word of an atom. -/
def further (r : Stack) (w : String) : Option Stack :=
  match r.factor with
  | .enclosed _ => none
  | .words [] => if isColumn w then some { r with factor := .words [w] } else none
  | .words (c :: ws) => some { r with factor := .words (c :: ws ++ [w]) }

def step (r : Stack) : Token → Option Stack
  | .stray => none
  | .opening =>
    match r.factor with
    | .words [] => some (opened (r.level :: r.outer) .empty)
    | _ => none
  | .closing =>
    match r.factor.expr?, r.outer with
    | some e, level :: outer => some ⟨outer, level, .enclosed (r.level.close e)⟩
    | _, _ => none
  | .word w =>
    match r.factor.expr?, connective? w with
    | some e, some op => some (opened r.outer (r.level.after op e))
    | _, _ => r.further w

def run (r : Stack) : List Token → Option Stack
  | [] => some r
  | t :: ts => (r.step t).bind fun r => run r ts

/-- The whole condition, when all parentheses are closed. -/
def expr? (r : Stack) : Option Expr :=
  match r.outer with
  | [] => r.factor.expr?.map r.level.close
  | _ :: _ => none

end Stack

def read (s : String) : Option Expr :=
  ((Stack.opened [] .empty).run (lex s.toList)).bind Stack.expr?

/-- A text is a condition with a meaning. -/
def Means (s : String) (v : Assignment → Bool) : Prop :=
  ∃ e, read s = some e ∧ ∀ ρ, e.eval ρ = v ρ

/-! ### Reading in parts -/

namespace Stack

theorem run_append (r : Stack) (ts us : List Token) :
    r.run (ts ++ us) = (r.run ts).bind fun r => r.run us := by
  induction ts generalizing r with
  | nil => rfl
  | cons t ts ih =>
    rw [List.cons_append, run, run, Option.bind_assoc]
    exact congrArg _ (funext ih)

theorem run_trans {r s : Stack} {ts : List Token} (first : r.run ts = some s) (us : List Token) :
    r.run (ts ++ us) = s.run us := by
  rw [run_append, first, Option.bind_some]

/-- What can be read has no stray quotes. -/
theorem stray_notMem {r s : Stack} {ts : List Token} (ran : r.run ts = some s) :
    Token.stray ∉ ts := by
  induction ts generalizing r with
  | nil => exact List.not_mem_nil
  | cons t ts ih =>
    rw [run, Option.bind_eq_some_iff] at ran
    obtain ⟨r', stepped, ran⟩ := ran
    rintro (_ | ⟨_, member⟩)
    · cases stepped
    · exact ih ran member

/-- Levels further out do not change what is read. -/
private theorem step_within {r s : Stack} {t : Token} (base : List Level)
    (stepped : r.step t = some s) :
    Stack.step { r with outer := r.outer ++ base } t =
      some { s with outer := s.outer ++ base } := by
  obtain ⟨outer, level, factor⟩ := r
  cases t with
  | stray => cases stepped
  | opening =>
    simp only [step] at stepped ⊢
    split at stepped
    · next start =>
      cases stepped
      rfl
    · cases stepped
  | closing =>
    simp only [step] at stepped ⊢
    split at stepped
    · next e level' outer' complete =>
      cases stepped
      simp only [complete, List.cons_append]
    · cases stepped
  | word w =>
    simp only [step] at stepped ⊢
    split at stepped
    · next e op complete connective =>
      cases stepped
      rfl
    · simp only [further] at stepped ⊢
      split at stepped
      · cases stepped
      · split at stepped
        · next column =>
          cases stepped
          exact if_pos column
        · cases stepped
      · cases stepped
        rfl

theorem run_within {r s : Stack} {ts : List Token} (base : List Level)
    (ran : r.run ts = some s) :
    Stack.run { r with outer := r.outer ++ base } ts =
      some { s with outer := s.outer ++ base } := by
  induction ts generalizing r with
  | nil =>
    cases ran
    rfl
  | cons t ts ih =>
    rw [run, Option.bind_eq_some_iff] at ran
    obtain ⟨r', stepped, ran⟩ := ran
    rw [run, step_within base stepped, Option.bind_some]
    exact ih ran

end Stack

end TableAccess.Reading
