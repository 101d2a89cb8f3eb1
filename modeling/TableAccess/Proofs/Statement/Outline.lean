import Mathlib.Data.List.Forall2
import TableAccess.Text.Joined

/-!
The outline of a text: what is left of it without the content of its single quotes.

Outlines can be taken part by part, as long as every part closes the quotes that it opens.
-/

set_option autoImplicit false
set_option relaxedAutoImplicit false

namespace TableAccess

namespace Text

/-- A text without what stands between single quotes; `inside` says whether it starts there. -/
def outlineFrom : Bool → List Char → List Char
  | _, [] => []
  | inside, c :: cs =>
    if c = '\'' then c :: outlineFrom (!inside) cs
    else if inside then outlineFrom inside cs
    else c :: outlineFrom inside cs

def outline (s : String) : String := String.ofList (outlineFrom false s.toList)

/-- A text that starts inside or outside of single quotes ends inside of them. -/
def endsInside : Bool → List Char → Bool
  | inside, [] => inside
  | inside, c :: cs => endsInside (if c = '\'' then !inside else inside) cs

/-- The text closes the quotes that it opens. -/
def Closed (s : String) : Prop := endsInside false s.toList = false

instance (s : String) : Decidable (Closed s) :=
  inferInstanceAs (Decidable (endsInside false s.toList = false))

/-- The text has no single quotes. -/
def Quoteless (s : String) : Prop := ∀ c ∈ s.toList, c ≠ '\''

instance (s : String) : Decidable (Quoteless s) := List.decidableBAll _ _

theorem outlineFrom_append (inside : Bool) (s t : List Char) :
    outlineFrom inside (s ++ t) = outlineFrom inside s ++ outlineFrom (endsInside inside s) t := by
  induction s generalizing inside with
  | nil => rfl
  | cons c s ih =>
    simp only [List.cons_append, outlineFrom, endsInside, ih]
    split
    · rfl
    · split <;> rfl

theorem endsInside_append (inside : Bool) (s t : List Char) :
    endsInside inside (s ++ t) = endsInside (endsInside inside s) t := by
  induction s generalizing inside with
  | nil => rfl
  | cons c s ih => exact ih _

theorem endsInside_quoteless (inside : Bool) {s : List Char} (h : ∀ c ∈ s, c ≠ '\'') :
    endsInside inside s = inside := by
  induction s with
  | nil => rfl
  | cons c s ih =>
    obtain ⟨first, others⟩ := List.forall_mem_cons.mp h
    rw [endsInside, if_neg first, ih others]

theorem Quoteless.closed {s : String} (h : Quoteless s) : Closed s := endsInside_quoteless false h

theorem Closed.append {s t : String} (first : Closed s) (last : Closed t) : Closed (s ++ t) := by
  rw [Closed, String.toList_append, endsInside_append, first]
  exact last

theorem outline_append {s : String} (first : Closed s) (t : String) :
    outline (s ++ t) = outline s ++ outline t := by
  rw [outline, String.toList_append, outlineFrom_append, first, String.ofList_append]
  rfl

theorem outline_eq_empty {s : String} : outline s = "" ↔ s = "" := by
  constructor
  · intro none_left
    have chars : outlineFrom false s.toList = [] := by
      rw [← String.toList_ofList (l := outlineFrom false s.toList)]
      exact congrArg String.toList none_left
    cases text : s.toList with
    | nil => exact String.toList_inj.mp text
    | cons c cs =>
      rw [text, outlineFrom] at chars
      split at chars <;> cases chars
  · rintro rfl
    rfl

/-- What stands between the quotes of a text does not show in its outline. -/
theorem quoted_outline {s : String} {body : List Char} (text : s.toList = '\'' :: (body ++ ['\'']))
    (inside : ∀ c ∈ body, c ≠ '\'') : Closed s ∧ outline s = "''" := by
  have hidden : outlineFrom true body = [] := by
    induction body generalizing s with
    | nil => rfl
    | cons c body ih =>
      obtain ⟨first, others⟩ := List.forall_mem_cons.mp inside
      rw [outlineFrom, if_neg first, if_pos rfl]
      exact ih (String.toList_ofList (l := '\'' :: (body ++ ['\'']))) others
  have stays : endsInside true body = true := endsInside_quoteless true inside
  constructor
  · rw [Closed, text, endsInside, if_pos rfl, Bool.not_false, endsInside_append, stays]
    rfl
  · rw [outline, text, outlineFrom, if_pos rfl, Bool.not_false, outlineFrom_append, hidden, stays]
    rfl

/-- Two texts that close their quotes and have the same outline. -/
structure Alike (s t : String) : Prop where
  left : Closed s
  right : Closed t
  outline : outline s = outline t

theorem Alike.refl {s : String} (h : Closed s) : Alike s s := ⟨h, h, rfl⟩

theorem Alike.symm {s t : String} (h : Alike s t) : Alike t s := ⟨h.right, h.left, h.outline.symm⟩

theorem Alike.trans {s t u : String} (h : Alike s t) (k : Alike t u) : Alike s u :=
  ⟨h.left, k.right, h.outline.trans k.outline⟩

end Text

open Text (Closed Alike Quoteless)

/-! ### Relations of texts that statements respect -/

/-- A relation that holds of a text that closes its quotes and itself, that passes from parts to
the text made of them, and under which no text is empty without the other. -/
structure Congruence (R : String → String → Prop) : Prop where
  closed : ∀ {s}, Closed s → R s s
  append : ∀ {s t s' t'}, R s t → R s' t' → R (s ++ s') (t ++ t')
  empty : ∀ {s t}, R s t → (s = "" ↔ t = "")

theorem congruence_eq : Congruence (· = ·) where
  closed _ := rfl
  append first last := by rw [first, last]
  empty same := by rw [same]

theorem congruence_alike : Congruence Alike where
  closed := .refl
  append first last :=
    ⟨first.left.append last.left, first.right.append last.right, by
      rw [Text.outline_append first.left, Text.outline_append first.right, first.outline,
        last.outline]⟩
  empty same := by rw [← Text.outline_eq_empty, same.outline, Text.outline_eq_empty]

namespace Congruence

variable {R : String → String → Prop}

theorem between (hR : Congruence R) {before after : String} (front : Closed before)
    (back : Closed after) {s t : String} (h : R s t) :
    R (before ++ s ++ after) (before ++ t ++ after) :=
  hR.append (hR.append (hR.closed front) h) (hR.closed back)

theorem joined (hR : Congruence R) {separator : String} (closed : Closed separator)
    {ss ts : List String} (h : List.Forall₂ R ss ts) :
    R (Text.joined separator ss) (Text.joined separator ts) := by
  induction h with
  | nil => exact hR.closed rfl
  | cons first others ih =>
    cases others with
    | nil => exact first
    | cons second rest =>
      rw [Text.joined_cons_cons, Text.joined_cons_cons]
      refine hR.append (hR.append first ?_) ih
      simp only [hR.empty first]
      split
      · exact hR.closed rfl
      · exact hR.closed closed

end Congruence

end TableAccess
