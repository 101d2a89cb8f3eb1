import TableAccess.Proofs.Predicate.Literals
import TableAccess.Proofs.Predicate.Parts
import TableAccess.Statement.Write

/-!
The condition of a search: columns that are like the words, of which one must be.
-/

set_option autoImplicit false
set_option relaxedAutoImplicit false

namespace TableAccess

open Reading (Assignment Stands Operand Lexes Token)

/-- The words of a column that is like a parameter, at its start or anywhere. -/
def matchWords (atStart : Bool) (p : String × Nat) : List String :=
  if atStart then [p.1, "ILIKE", Clause.placeholder p.2, "||", "'%'"]
  else [p.1, "ILIKE", "'%'", "||", Clause.placeholder p.2, "||", "'%'"]

/-- The text of a column that is like a parameter. -/
def matchText (atStart : Bool) (p : String × Nat) : String :=
  p.1 ++ ((if atStart then " ILIKE " else " ILIKE '%' || ") ++ Clause.placeholder p.2 ++ " || '%'")

private theorem stands_match {p : String × Nat} (name : Reading.isName p.1 = true)
    (atStart : Bool) : Stands (matchText atStart p) fun ρ => ρ (matchWords atStart p) := by
  have read : Reading.isColumn p.1 = true := (Reading.column_shown name .inline).2
  have column : Lexes p.1 [.word p.1] := .word (Reading.column_shown name .inline).1
  have like : Lexes "ILIKE" [.word "ILIKE"] := .plain (by decide) (by decide)
  have joint : Lexes "||" [.word "||"] := .plain (by decide) (by decide)
  have any : Lexes "'%'" [.word "'%'"] :=
    .word (.quoted (by decide) (Reading.forall_mem_of_all (by decide) : ∀ c ∈ ['%'], c ≠ '\''))
  have operand := Reading.operand_placeholder p.2
  have place : Lexes (Clause.placeholder p.2) [.word (Clause.placeholder p.2)] :=
    .word operand.word
  have last : " || '%'" = " " ++ "||" ++ " " ++ "'%'" := by decide +kernel
  cases atStart with
  | true =>
    have others : ∀ w ∈ ["||", "'%'"], Reading.connective? w = none := by decide
    have text : matchText true p =
        p.1 ++ " " ++ "ILIKE" ++ " " ++ Clause.placeholder p.2 ++ " " ++ "||" ++ " " ++ "'%'" := by
      have first : " ILIKE " = " " ++ "ILIKE" ++ " " := by decide +kernel
      rw [matchText, if_pos rfl, first, last]
      simp only [String.append_assoc]
    rw [text]
    exact ⟨_, (((column.spaced like).spaced place).spaced joint).spaced any,
      Reading.reads_atom read others⟩
  | false =>
    have others : ∀ w ∈ ["||", Clause.placeholder p.2, "||", "'%'"],
        Reading.connective? w = none := by
      refine List.forall_mem_cons.mpr ⟨by decide, ?_⟩
      exact List.forall_mem_cons.mpr ⟨operand.other, by decide⟩
    have text : matchText false p = p.1 ++ " " ++ "ILIKE" ++ " " ++ "'%'" ++ " " ++ "||" ++ " " ++
        Clause.placeholder p.2 ++ " " ++ "||" ++ " " ++ "'%'" := by
      have first : " ILIKE '%' || " = " " ++ "ILIKE" ++ " " ++ "'%'" ++ " " ++ "||" ++ " " := by
        decide +kernel
      rw [matchText, if_neg Bool.false_ne_true, first, last]
      simp only [String.append_assoc]
    rw [text]
    exact ⟨_, (((((column.spaced like).spaced any).spaced joint).spaced place).spaced
      joint).spaced any, Reading.reads_atom read others⟩

/-- The matches of a search, one for each column with each of the words. -/
theorem write_searchMatch (columns : List String) (places : List Nat) (atStart : Bool)
    {c : WriteContext} (bare : c.region.quotesColumns = false) :
    (Statement.searchMatch columns places atStart).write c =
      ("(" ++ Text.joined " OR " ((Statement.pairs columns places).map (matchText atStart)) ++ ")",
        c) := by
  have matched (p : String × Nat) : (Clause.column p.1 ++ Clause.text
      ((if atStart then " ILIKE " else " ILIKE '%' || ") ++ Clause.placeholder p.2 ++
        " || '%'")).write c = (matchText atStart p, c) := by
    simp only [Clause.write_append, Clause.write_text, Clause.column, bare, Bool.false_eq_true,
      if_false, matchText]
  have all := Clause.write_joined matched " OR " (Statement.pairs columns places)
  simp only [Statement.searchMatch, Clause.write_append, Clause.write_text, all]

/-- The matches of a search are a part of a condition: one of the columns is like one of the
words. -/
theorem stands_searchMatch {columns : List String} {places : List Nat}
    (names : ∀ name ∈ columns, Reading.isName name = true)
    (nonempty : Statement.pairs columns places ≠ []) (atStart : Bool) {c : WriteContext}
    (bare : c.region.quotesColumns = false) :
    Stands ((Statement.searchMatch columns places atStart).write c).1
      fun ρ => (Statement.pairs columns places).any fun p => ρ (matchWords atStart p) := by
  let parts := (Statement.pairs columns places).map fun p =>
    (matchText atStart p, fun (ρ : Assignment) => ρ (matchWords atStart p))
  have stand : ∀ q ∈ parts, Stands q.1 q.2 := by
    intro q member
    obtain ⟨p, pair, rfl⟩ := List.mem_map.mp member
    obtain ⟨name, column, found⟩ := List.mem_flatMap.mp pair
    obtain ⟨n, -, rfl⟩ := List.mem_map.mp found
    exact stands_match (names name column) atStart
  have filled : parts ≠ [] := by
    intro none
    exact nonempty (List.map_eq_nil_iff.mp none)
  have joined := Reading.stands_joined (.inr rfl) filled stand
  have separated : Reading.separator .or = " OR " := by decide +kernel
  have text : ((Statement.searchMatch columns places atStart).write c).1 =
      "(" ++ Text.joined (Reading.separator .or) (parts.map Prod.fst) ++ ")" := by
    have texts : parts.map Prod.fst =
        (Statement.pairs columns places).map (matchText atStart) := by
      simp only [parts, List.map_map]
      rfl
    rw [write_searchMatch columns places atStart bare, texts, separated]
  have value : (fun ρ => Operator.joins .or (parts.map fun q => q.2 ρ)) = fun ρ =>
      (Statement.pairs columns places).any fun p => ρ (matchWords atStart p) := by
    funext ρ
    simp only [parts, Operator.joins, List.map_map, List.any_map]
    rfl
  rw [text, ← value]
  exact joined

end TableAccess
