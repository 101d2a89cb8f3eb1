import TableAccess.Proofs.Text.Numeral
import TableAccess.Proofs.Transaction.Server

/-!
The levels of a client, and the marks of the server that they stand for.

Closing a level does not take its mark from the server, and the next level at the same depth
sets a mark of the same name. The marks of the open levels are nevertheless the latest ones of
their names, and each lies before the marks of the levels within it.
-/

set_option autoImplicit false
set_option relaxedAutoImplicit false

namespace TableAccess.Reference

open Client (savepointName)

private theorem savepointName_injective {i j : Nat} (h : savepointName i = savepointName j) :
    i = j := by
  have lists := congrArg String.toList h
  simp only [savepointName, String.toList_append] at lists
  have texts := List.append_cancel_left lists
  exact Text.natText_injective (String.toList_injective texts)

/-- The names of a number of open levels, the outermost first. -/
def levelNames (depth : Nat) : List String := (List.range depth).map savepointName

theorem levelNames_succ (depth : Nat) :
    levelNames (depth + 1) = levelNames depth ++ [savepointName depth] := by
  simp only [levelNames, List.range_succ, List.map_append, List.map_cons, List.map_nil]

@[simp] theorem length_levelNames (depth : Nat) : (levelNames depth).length = depth := by
  simp only [levelNames, List.length_map, List.length_range]

/-- The marks of the open levels, the innermost first, within all marks of the server: no mark
that is later than the one of a level has the name of that level or of one around it. -/
inductive Tracks : List Mark → List Mark → Prop
  | outermost (marks : List Mark) : Tracks marks []
  | level {later older levels : List Mark} {mark : Mark}
      (named : mark.name = savepointName levels.length)
      (fresh : ∀ m ∈ later, ∀ i ≤ levels.length, m.name ≠ savepointName i)
      (outer : Tracks older levels) : Tracks (later ++ mark :: older) (mark :: levels)

namespace Tracks

theorem push {marks levels : List Mark} (h : Tracks marks levels) {mark : Mark}
    (named : mark.name = savepointName levels.length) :
    Tracks (mark :: marks) (mark :: levels) := by
  have latest : Tracks ([] ++ mark :: marks) (mark :: levels) := level named (by simp) h
  exact latest

/-- Marks that carry no name of an open level do not disturb the levels. -/
private theorem prepend {later marks levels : List Mark} (h : Tracks marks levels)
    (fresh : ∀ m ∈ later, ∀ i < levels.length, m.name ≠ savepointName i) :
    Tracks (later ++ marks) levels := by
  cases h with
  | outermost marks => exact outermost (later ++ marks)
  | @level later' older levels mark named fresh' outer =>
    rw [← List.append_assoc]
    refine level named ?_ outer
    intro m member i bound
    rcases List.mem_append.mp member with new | old
    · exact fresh m new i (Nat.lt_succ_of_le bound)
    · exact fresh' m old i bound

/-- A closed level leaves its mark behind, and the levels around it keep theirs. -/
theorem pop {marks levels : List Mark} {mark : Mark} (h : Tracks marks (mark :: levels)) :
    Tracks marks levels := by
  cases h with
  | @level later older _ _ named fresh outer =>
    rw [List.append_cons]
    refine outer.prepend ?_
    intro m member i bound same
    rcases List.mem_append.mp member with new | own
    · exact fresh m new i (Nat.le_of_lt bound) same
    · obtain rfl := List.mem_singleton.mp own
      rw [named] at same
      have := savepointName_injective same
      omega

/-- The latest mark of the name of the innermost level is the mark of that level. -/
theorem latest {marks levels : List Mark} {mark : Mark} (h : Tracks marks (mark :: levels)) :
    ∃ older, marks.dropWhile (fun m => m.name != savepointName levels.length) = mark :: older ∧
      Tracks (mark :: older) (mark :: levels) := by
  cases h with
  | @level later older _ _ named fresh outer =>
    refine ⟨older, ?_, outer.push named⟩
    -- Whatever is later has another name, so the search for the latest mark passes it by.
    have passed : ∀ m ∈ later, (m.name != savepointName levels.length) = true := by
      intro m member
      exact bne_iff_ne.mpr (fresh m member levels.length (Nat.le_refl _))
    rw [List.dropWhile_append_of_pos passed]
    exact List.dropWhile_cons_of_neg (by simp [named])

end Tracks

end TableAccess.Reference
