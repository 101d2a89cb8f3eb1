/-!
Cutting a text at the characters of a class: at all of them, or at the first or last one.
-/

set_option autoImplicit false
set_option relaxedAutoImplicit false

namespace TableAccess.Text

/-- The pieces between the characters that satisfy `p`, empty ones included. -/
def pieces (p : Char → Bool) : List Char → List (List Char)
  | [] => [[]]
  | c :: s =>
    if p c then [] :: pieces p s
    else match pieces p s with
      | [] => [[c]]
      | q :: qs => (c :: q) :: qs

/-- What stands before and after the first character that satisfies `p`. -/
def cutFirst (p : Char → Bool) : List Char → Option (List Char × List Char)
  | [] => none
  | c :: s => if p c then some ([], s) else (cutFirst p s).map fun (a, b) => (c :: a, b)

/-- What stands before the last character that satisfies `p`, that character, and the rest. -/
def cutLast (p : Char → Bool) : List Char → Option (List Char × Char × List Char)
  | [] => none
  | c :: s =>
    match cutLast p s with
    | some (a, d, b) => some (c :: a, d, b)
    | none => if p c then some ([], c, s) else none

/-- `s` without `start` in front of it, when it begins so. -/
def dropLead? (start s : List Char) : Option (List Char) :=
  match start, s with
  | [], s => some s
  | _ :: _, [] => none
  | c :: start, d :: s => if c = d then dropLead? start s else none

/-- A text has at least one piece, the empty one if nothing else. -/
theorem pieces_ne_nil (p : Char → Bool) (s : List Char) : pieces p s ≠ [] := by
  cases s with
  | nil => simp [pieces]
  | cons c s =>
    unfold pieces
    split
    · simp
    · split <;> simp

/-- What follows a cut is shorter than the text. -/
theorem length_lt_of_cutFirst {p : Char → Bool} {s a b : List Char}
    (h : cutFirst p s = some (a, b)) : b.length < s.length := by
  induction s generalizing a with
  | nil => simp [cutFirst] at h
  | cons c s ih =>
    unfold cutFirst at h
    split at h
    · simp only [Option.some.injEq, Prod.mk.injEq] at h
      rw [← h.2]
      simp
    · obtain ⟨⟨a', b'⟩, hs, he⟩ := Option.map_eq_some_iff.mp h
      simp only [Prod.mk.injEq] at he
      obtain ⟨rfl, rfl⟩ := he
      exact Nat.lt_succ_of_lt (ih hs)

/-- The parts of a cut, with the character between them, are the text. -/
theorem eq_of_cutLast {p : Char → Bool} {s a b : List Char} {c : Char}
    (h : cutLast p s = some (a, c, b)) : s = a ++ c :: b ∧ p c = true := by
  induction s generalizing a with
  | nil => simp [cutLast] at h
  | cons d s ih =>
    unfold cutLast at h
    split at h
    · rename_i a' d' b' hs
      simp only [Option.some.injEq, Prod.mk.injEq] at h
      obtain ⟨rfl, rfl, rfl⟩ := h
      obtain ⟨rfl, hp⟩ := ih hs
      exact ⟨rfl, hp⟩
    · split at h
      · simp only [Option.some.injEq, Prod.mk.injEq] at h
        obtain ⟨rfl, rfl, rfl⟩ := h
        exact ⟨rfl, by assumption⟩
      · simp at h

end TableAccess.Text
