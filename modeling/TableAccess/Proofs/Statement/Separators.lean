import TableAccess.Proofs.Statement.Drafts

/-!
Where separators stand.

A separator is written in front of a part when the part before it has written something, and it is
not known then whether anything follows. So separators stand between the pieces that are not empty,
wherever empty ones are among them, and one more stands behind the last of these pieces when an
empty piece ends the list.
-/

set_option autoImplicit false
set_option relaxedAutoImplicit false

namespace TableAccess

namespace Text

/-- The pieces that are not empty, in order. -/
def filled (pieces : List String) : List String := pieces.filter fun s => s ≠ ""

/-- Something is written, and an empty piece comes last. -/
def Trails (pieces : List String) : Prop := filled pieces ≠ [] ∧ pieces.getLast? = some ""

instance (pieces : List String) : Decidable (Trails pieces) :=
  inferInstanceAs (Decidable (_ ∧ _))

private theorem filled_cons_of_ne {s : String} (first : s ≠ "") (pieces : List String) :
    filled (s :: pieces) = s :: filled pieces := by
  rw [filled, List.filter_cons_of_pos (by simpa using first)]
  rfl

private theorem joined_empty_cons_cons (separator t : String) (pieces : List String) :
    joined separator ("" :: t :: pieces) = joined separator (t :: pieces) := by
  rw [joined_cons_cons, if_pos rfl, String.append_empty, String.empty_append]

/-- Separators stand between the pieces that are not empty, and one behind them where an empty piece
ends the list. -/
theorem joined_eq_filled (separator : String) (pieces : List String) :
    joined separator pieces =
      separator.intercalate (filled pieces) ++ if Trails pieces then separator else "" := by
  induction pieces with
  | nil => rfl
  | cons s pieces ih =>
    cases pieces with
    | nil =>
      by_cases first : s = ""
      · subst first
        rfl
      · have unended : ¬ Trails [s] := fun trails => first (Option.some.inj trails.2)
        rw [joined_singleton, filled_cons_of_ne first, if_neg unended, String.append_empty]
        exact String.intercalate_singleton.symm
    | cons t pieces =>
      by_cases first : s = ""
      · subst first
        rw [joined_empty_cons_cons]
        exact ih
      · rw [joined_cons_cons, if_neg first, ih, filled_cons_of_ne first]
        by_cases rest : filled (t :: pieces) = []
        · -- Nothing is written behind this piece, and so the last one is empty.
          have last : (s :: t :: pieces).getLast? = some "" := by
            have silent := List.filter_eq_nil_iff.mp rest _
              (List.getLast_mem (List.cons_ne_nil t pieces))
            have empty : (t :: pieces).getLast (List.cons_ne_nil t pieces) = "" := by
              simpa using silent
            rw [List.getLast?_cons_cons, List.getLast?_eq_some_getLast (List.cons_ne_nil t pieces),
              empty]
          have trails : Trails (s :: t :: pieces) := by
            refine ⟨?_, last⟩
            rw [filled_cons_of_ne first]
            exact List.cons_ne_nil s _
          have unended : ¬ Trails (t :: pieces) := fun trails => trails.1 rest
          rw [if_neg unended, if_pos trails, rest, String.intercalate_nil,
            String.intercalate_singleton, String.append_empty, String.append_empty]
        · have same : Trails (s :: t :: pieces) ↔ Trails (t :: pieces) := by
            rw [Trails, Trails, filled_cons_of_ne first, List.getLast?_cons_cons]
            exact and_congr_left fun _ =>
              iff_of_true (List.cons_ne_nil s _) rest
          simp only [String.intercalate_cons_of_ne_nil rest, same, String.append_assoc]

end Text

namespace Draft

/-- The pieces that parts write one after another, behind a draft. -/
def pieces (x : Draft) (parts : List Clause) : List String := (Clause.writeAll parts x.context).1

/-- Parts with separators append the pieces that are not empty, in order and with one separator
between each two of them. They append nothing else exactly if the separator is empty, nothing is
written at all, or the last piece is not empty; otherwise one more separator. -/
theorem separated_between_iff (x : Draft) (separator : String) (parts : List Clause) :
    x.separated separator (parts.map fun a y => y.after a) =
        ⟨x.text ++ (separator.intercalate (Text.filled (x.pieces parts)) ++
            if Text.Trails (x.pieces parts) then separator else ""),
          (Clause.writeAll parts x.context).2⟩ ∧
      ((x.separated separator (parts.map fun a y => y.after a)).text =
          x.text ++ separator.intercalate (Text.filled (x.pieces parts)) ↔
        separator = "" ∨ Text.filled (x.pieces parts) = [] ∨
          (x.pieces parts).getLast? ≠ some "") := by
  have whole : x.separated separator (parts.map fun a y => y.after a) =
      ⟨x.text ++ (separator.intercalate (Text.filled (x.pieces parts)) ++
          if Text.Trails (x.pieces parts) then separator else ""),
        (Clause.writeAll parts x.context).2⟩ := by
    rw [separated_after, pieces, ← Text.joined_eq_filled]
    rfl
  refine ⟨whole, ?_⟩
  rw [whole, ← String.append_assoc, String.append_eq_left_iff]
  by_cases trails : Text.Trails (x.pieces parts)
  · rw [if_pos trails]
    exact ⟨Or.inl, fun cases => cases.resolve_right fun
      | .inl silent => trails.1 silent
      | .inr ending => ending trails.2⟩
  · rw [if_neg trails]
    refine iff_of_true rfl (Or.inr ?_)
    by_cases silent : Text.filled (x.pieces parts) = []
    · exact Or.inl silent
    · exact Or.inr fun ending => trails ⟨silent, ending⟩

theorem pushAll_eq_filled (x : Draft) (separator : String) (texts : List String) :
    x.pushAll separator texts =
      x.push (separator.intercalate (Text.filled texts) ++
        if Text.Trails texts then separator else "") := by
  rw [pushAll_eq, Text.joined_eq_filled]
  rfl

/-- An empty piece at the end leaves a separator behind the piece before it. -/
theorem pushAll_trails : (pushAll ⟨"", .inline⟩ ", " ["a", ""]).text = "a, " ∧
    (pushAll ⟨"", .inline⟩ ", " ["a", ""]).text ≠
      "" ++ String.intercalate ", " (Text.filled ["a", ""]) := by
  decide

end Draft

end TableAccess
