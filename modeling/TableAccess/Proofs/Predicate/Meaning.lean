import TableAccess.Proofs.Predicate.Formula
import TableAccess.Proofs.Predicate.Matches

/-!
The predicate of a filter means what the filter says.

What is written for a part of a filter is read as a part of a condition, with the meaning of the
live parts of its formula, and nothing is written for a part that is not live. The proof follows
the writing of the filter; the formula threads the same contexts.
-/

set_option autoImplicit false
set_option relaxedAutoImplicit false

namespace TableAccess

open Reading (Assignment Stands Means IsConnective Operand separator)

/-- What has been written for a formula says what it holds, and nothing has been written for one
that is not live. -/
inductive Says : Option String → Formula → Prop
  | dead {φ : Formula} (dead : φ.live = false) : Says none φ
  | live {s : String} {φ : Formula} (live : φ.live = true) (stands : Stands s φ.holds) :
      Says (some s) φ

inductive SaysAll : List String → List Formula → Prop
  | nil : SaysAll [] []
  | cons {s : Option String} {φ : Formula} {ss : List String} {φs : List Formula}
      (first : Says s φ) (rest : SaysAll ss φs) : SaysAll (s.toList ++ ss) (φ :: φs)

/-- A part is written as its formula says, and leaves the same context. -/
structure Follows (written : Option String × WriteContext) (φ : Formula × WriteContext) : Prop where
  text : Says written.1 φ.1
  context : written.2 = φ.2

/-- Parts are written one after another as their formulas say, and leave the same context. -/
structure FollowsAll (written : List String × WriteContext) (φs : List Formula × WriteContext) :
    Prop where
  texts : SaysAll written.1 φs.1
  context : written.2 = φs.2

namespace SaysAll

variable {ss ts : List String} {φs ψs : List Formula}

theorem append (h : SaysAll ss φs) (k : SaysAll ts ψs) : SaysAll (ss ++ ts) (φs ++ ψs) := by
  induction h with
  | nil => exact k
  | cons first _ ih =>
    rw [List.append_assoc]
    exact .cons first ih

/-- The texts stand for the live formulas, in order. -/
theorem parts (h : SaysAll ss φs) : ∃ parts : List (String × (Assignment → Bool)),
    parts.map Prod.fst = ss ∧ (∀ p ∈ parts, Stands p.1 p.2) ∧
      (∀ ρ, (parts.map fun p => p.2 ρ) = Formula.liveValues φs ρ) ∧
        parts.isEmpty = !Formula.anyLive φs := by
  induction h with
  | nil => exact ⟨[], rfl, List.forall_mem_nil _, fun ρ => by rw [Formula.liveValues]; rfl,
      by rw [Formula.anyLive]; rfl⟩
  | @cons _ φ _ _ first _ ih =>
    obtain ⟨parts, texts, stand, values, empty⟩ := ih
    cases first with
    | dead dead =>
      refine ⟨parts, texts, stand, fun ρ => ?_, ?_⟩
      · rw [Formula.liveValues, dead]
        exact values ρ
      · rw [Formula.anyLive, dead]
        exact empty
    | @live s _ live stands =>
      refine ⟨(s, φ.holds) :: parts, ?_, List.forall_mem_cons.mpr ⟨stands, stand⟩, fun ρ => ?_, ?_⟩
      · rw [List.map_cons, texts]
        rfl
      · rw [Formula.liveValues, if_pos live, List.map_cons, values]
      · rw [Formula.anyLive, live]
        rfl

theorem enclosedAll {op : Operator} (connective : IsConnective op) (h : SaysAll ss φs) :
    Says (Predicate.enclosedAll (separator op) ss) (.group op φs) := by
  obtain ⟨parts, rfl, stand, values, empty⟩ := h.parts
  cases parts with
  | nil =>
    refine .dead ?_
    rw [Formula.live, ← Bool.not_inj_iff, ← empty]
    rfl
  | cons p parts =>
    refine .live ?_ ?_
    · rw [Formula.live, ← Bool.not_inj_iff, ← empty]
      rfl
    · have joined := Reading.stands_joined connective (List.cons_ne_nil p parts) stand
      have same : (fun ρ => op.joins ((p :: parts).map fun p => p.2 ρ)) =
          (Formula.group op φs).holds := by
        funext ρ
        rw [values, Formula.holds]
      rw [← same]
      exact joined

/-- Texts that hold together, in parentheses when there are several. -/
theorem conjunction (h : SaysAll ss φs) : Says (Predicate.conjunction ss) (.all φs) := by
  have same (ρ : Assignment) : (Formula.group .and φs).holds ρ = (Formula.all φs).holds ρ := by
    rw [Formula.holds, Formula.holds]
  have lives : (Formula.group .and φs).live = (Formula.all φs).live := by
    rw [Formula.live, Formula.live]
  have grouped := h.enclosedAll (.inl rfl)
  match ss, grouped with
  | [], .dead dead => exact .dead (lives.symm.trans dead)
  | s :: t :: ss, .live live stands =>
    refine .live (lives.symm.trans live) ?_
    rw [← funext same]
    exact stands
  | [s], .live live _ =>
    -- A single part stands as it is, without the parentheses of a group.
    refine .live (lives.symm.trans live) ?_
    obtain ⟨parts, texts, stand, values, -⟩ := h.parts
    obtain ⟨p, rfl, rfl⟩ := List.map_eq_singleton_iff.mp texts
    have single : p.2 = (Formula.all φs).holds := by
      funext ρ
      rw [Formula.holds, ← values]
      exact (Bool.and_true _).symm
    rw [← single]
    exact stand p List.mem_cons_self

end SaysAll

/-! ### Conditions -/

private theorem stands_atom {a : Atom} (shown : Reading.Word a.column.toList)
    (name : Reading.isColumn a.column = true) (operand : Operand a.operand) :
    Stands a.text fun ρ => ρ a.words := by
  have column : Reading.Lexes a.column [.word a.column] := .word shown
  have last : Reading.Lexes a.operand [.word a.operand] := .word operand.word
  refine ⟨_, (column.spaced (Reading.lexes_token a.op)).spaced last, ?_⟩
  obtain ⟨column, op, value⟩ := a
  cases op with
  | isNot => exact Reading.reads_atom name (List.forall_mem_singleton.mpr operand.other)
  | _ => exact Reading.reads_atom name (List.forall_mem_nil _)

private theorem says_atom {a : Atom} {column : String} {c : WriteContext}
    (shown : a.column = ((Clause.column column).write c).1)
    (name : Reading.isName column = true) (operand : Operand a.operand) :
    Says (some a.text) (.leaf (some a)) := by
  obtain ⟨word, read⟩ := Reading.column_shown name c
  rw [← shown] at word read
  refine .live (by rw [Formula.live]; rfl) ?_
  have same : (fun ρ => ρ a.words) = (Formula.leaf (some a)).holds := by
    funext ρ
    rw [Formula.holds]
    rfl
  rw [← same]
  exact stands_atom word read operand

private theorem follows_comparison {column : String} (name : Reading.isName column = true)
    (op : Operator) (v : Value) (c : WriteContext) :
    Follows ((Predicate.comparison .generic column op v).write c)
      (Filter.comparison column op v c) := by
  rcases Reading.value_cases v c with ⟨text, operand⟩ | ⟨dead, empty⟩
  · simp only [Predicate.comparison, Filter.comparison, operand.ne_empty, if_false, text, if_true]
    exact ⟨says_atom (a := ⟨_, op, _⟩) rfl name operand, rfl⟩
  · simp only [Predicate.comparison, Filter.comparison, empty, if_true, dead, Bool.false_eq_true,
      if_false]
    exact ⟨.dead (by rw [Formula.live]; rfl), rfl⟩

private theorem follows_equality {column : String} (name : Reading.isName column = true) (v : Value)
    (c : WriteContext) :
    Follows ((Predicate.equality .generic column v).write c) (Filter.equality column v c) := by
  rw [Predicate.equality, Filter.equality]
  split
  · refine ⟨?_, rfl⟩
    have text : ((Clause.column column).write c).1 ++ " IS null" =
        Atom.text ⟨((Clause.column column).write c).1, .is, "null"⟩ := by
      simp only [Atom.text, String.append_assoc]
      rfl
    simp only [Predicate.isNull, text]
    exact says_atom rfl name Reading.operand_null
  · exact follows_comparison name .equals v c

private theorem follows_equalities {column : String} (name : Reading.isName column = true)
    (vs : List Value) (c : WriteContext) :
    FollowsAll (Predicate.writeAll (vs.map (Predicate.equality .generic column)) c)
      (Filter.equalities column vs c) := by
  induction vs generalizing c with
  | nil => exact ⟨.nil, rfl⟩
  | cons v vs ih =>
    obtain ⟨first, same⟩ := follows_equality name v c
    obtain ⟨others, after⟩ := ih (Filter.equality column v c).2
    simp only [List.map_cons, Predicate.writeAll, Filter.equalities, same]
    exact ⟨.cons first others, after⟩

private theorem follows_anyOf {column : String} (name : Reading.isName column = true)
    (vs : List Value) (c : WriteContext) :
    Follows ((Predicate.anyOf .generic column vs).write c) (Filter.alternatives column vs c) := by
  obtain ⟨parts, after⟩ := follows_equalities name vs c
  have enclosed : Says (Predicate.enclosedAll (separator .or) _) (.group .or _) :=
    parts.enclosedAll (.inr rfl)
  have separated : separator .or = " OR " := by decide +kernel
  rw [separated] at enclosed
  exact ⟨enclosed, after⟩

private theorem follows_condition {column : String} (name : Reading.isName column = true)
    (k : Condition) (c : WriteContext) :
    Follows ((Predicate.condition .generic column k).write c)
      (Filter.conditionFormula column k c) := by
  cases k with
  | anyOf vs => exact follows_anyOf name vs c
  | compare op v => exact follows_comparison name op v c
  | value v =>
    cases v with
    | null => exact follows_equality name .null c
    | scalar kind payload => exact follows_equality name (.scalar kind payload) c
    | list items element =>
      cases items with
      | none => exact follows_equality name (.list none element) c
      | some vs => exact follows_anyOf name vs c

private theorem follows_columns {columns : List (String × Option Condition)}
    (names : ∀ p ∈ columns, Reading.isName p.1 = true) (c : WriteContext) :
    FollowsAll (Predicate.writeColumns .generic columns c) (Filter.columnFormulas columns c) := by
  induction columns generalizing c with
  | nil => exact ⟨.nil, rfl⟩
  | cons p columns ih =>
    obtain ⟨column, condition⟩ := p
    obtain ⟨name, later⟩ := List.forall_mem_cons.mp names
    cases condition with
    | none =>
      obtain ⟨others, after⟩ := ih later c
      have absent : Says none (.leaf none) := .dead (by rw [Formula.live]; rfl)
      exact ⟨.cons absent others, after⟩
    | some k =>
      obtain ⟨first, same⟩ := follows_condition name k c
      obtain ⟨others, after⟩ := ih later (Filter.conditionFormula column k c).2
      simp only [Predicate.writeColumns, Filter.columnFormulas, same]
      exact ⟨.cons first others, after⟩

/-! ### Filters -/

mutual
private theorem follows_filter (f : Filter) (plain : f.isPlain = true) (c : WriteContext) :
    Follows (Predicate.writeFilter .generic f c) (f.formula c) := by
  match f, plain with
  | .mk columns groups, plain =>
    rw [Filter.isPlain, Bool.and_eq_true, List.all_eq_true] at plain
    obtain ⟨conditions, same⟩ := follows_columns plain.1 c
    obtain ⟨others, after⟩ := follows_groups groups plain.2 (Filter.columnFormulas columns c).2
    simp only [Predicate.writeFilter, Filter.formula, same]
    exact ⟨(conditions.append others).conjunction, after⟩

private theorem follows_groups (groups : List (Operator × List Filter))
    (plain : Filter.plainGroups groups = true) (c : WriteContext) :
    FollowsAll (Predicate.writeGroups .generic groups c) (Filter.groupFormulas groups c) := by
  match groups, plain with
  | [], _ =>
    rw [Predicate.writeGroups, Filter.groupFormulas]
    exact ⟨.nil, rfl⟩
  | (op, members) :: groups, plain =>
    simp only [Filter.plainGroups, Bool.and_eq_true, Bool.or_eq_true, beq_iff_eq] at plain
    obtain ⟨⟨connective, inner⟩, plain⟩ := plain
    obtain ⟨parts, same⟩ := follows_members members inner c
    obtain ⟨others, after⟩ := follows_groups groups plain (Filter.memberFormulas members c).2
    simp only [Predicate.writeGroups, Filter.groupFormulas, same]
    exact ⟨.cons (parts.enclosedAll connective) others, after⟩

private theorem follows_members (members : List Filter) (plain : Filter.plainMembers members = true)
    (c : WriteContext) :
    FollowsAll (Predicate.writeMembers .generic members c) (Filter.memberFormulas members c) := by
  match members, plain with
  | [], _ =>
    rw [Predicate.writeMembers, Filter.memberFormulas]
    exact ⟨.nil, rfl⟩
  | f :: fs, plain =>
    rw [Filter.plainMembers, Bool.and_eq_true] at plain
    obtain ⟨first, same⟩ := follows_filter f plain.1 c
    obtain ⟨others, after⟩ := follows_members fs plain.2 (f.formula c).2
    simp only [Predicate.writeMembers, Filter.memberFormulas, same]
    exact ⟨.cons first others, after⟩
end

/-- What a search takes holds as the filter does, if anything of that is live, and as the matches
do. -/
private theorem means_searchCondition {f : Filter} (plain : f.isPlain = true) {c : WriteContext}
    (inside : c.region = .condition) {pass : SearchPass} (matching : pass.matches = true)
    {columns : List String} (names : ∀ name ∈ columns, Reading.isName name = true)
    {places : List Nat} (nonempty : Statement.pairs columns places ≠ []) :
    let φ := (f.formula c).1
    ∃ s, ((Statement.searchCondition .generic (some f) pass columns places).write c).1 = some s ∧
      Means s fun ρ => (!φ.live || φ.holds ρ) &&
        (Statement.pairs columns places).any fun p => ρ (matchWords (pass == .leading) p) := by
  intro φ
  have told := (follows_filter f plain c).text
  have same : { c with region := .condition } = c := by
    rw [← inside]
  cases wrote : Predicate.writeFilter .generic f c with
  | mk part after =>
    have bare : ({ after with region := .condition } : WriteContext).region.quotesColumns =
        false := rfl
    have found := stands_searchMatch names nonempty (pass == .leading) bare
    rw [wrote] at told
    simp only [Statement.searchCondition, Statement.withinRegion, Predicate.filter, same, wrote,
      matching, if_true, Clause.within]
    cases told with
    | dead dead =>
      refine ⟨_, rfl, ?_⟩
      rw [String.empty_append, dead]
      simp only [Bool.not_false, Bool.true_or, Bool.true_and]
      exact found.means
    | live live stands =>
      refine ⟨_, rfl, ?_⟩
      rw [live]
      exact stands.and found

/-- In whatever context a filter is written, with its values bound or as literals: nothing is
written exactly if nothing of it is live. What is written otherwise reads as a condition that holds
as the filter does, by itself and with any other condition in parentheses after it, such as the
matches of a search. -/
theorem predicate_means_filter (f : Filter) (plain : f.isPlain = true) (out : String)
    (c : WriteContext) :
    let φ := (f.formula c).1
    let (text, written, _) := (Predicate.filter .generic f).writeAfter out c
    (written = false ∧ text = out ↔ φ.live = false) ∧
    (φ.live = true → written = true ∧ ∃ s, text = out ++ s ∧ Means s φ.holds ∧
      ∀ u v, Means u v → Means (s ++ " AND (" ++ u ++ ")") fun ρ => φ.holds ρ && v ρ) ∧
    (∀ (pass : SearchPass) (columns : List String) (places : List Nat), c.region = .condition →
      pass.matches = true → (∀ name ∈ columns, Reading.isName name = true) →
      Statement.pairs columns places ≠ [] →
      ∃ s, ((Statement.searchCondition .generic (some f) pass columns places).write c).1 = some s ∧
        Means s fun ρ => (!φ.live || φ.holds ρ) &&
          (Statement.pairs columns places).any fun p => ρ (matchWords (pass == .leading) p)) := by
  have told := (follows_filter f plain c).text
  intro φ
  have searched (pass : SearchPass) (columns : List String) (places : List Nat)
      (inside : c.region = .condition) (matching : pass.matches = true)
      (names : ∀ name ∈ columns, Reading.isName name = true)
      (nonempty : Statement.pairs columns places ≠ []) :=
    means_searchCondition plain inside matching names nonempty
  cases wrote : Predicate.writeFilter .generic f c with
  | mk part after =>
    have whole : (Predicate.filter .generic f).writeAfter out c =
        (out ++ part.getD "", part.isSome, after) := by
      simp only [Predicate.writeAfter, Predicate.filter, wrote]
    rw [wrote] at told
    rw [whole]
    cases told with
    | dead dead =>
      have unchanged : out ++ "" = out := String.append_empty
      refine ⟨⟨fun _ => dead, fun _ => ⟨rfl, unchanged⟩⟩, fun live => ?_, searched⟩
      rw [dead] at live
      cases live
    | @live s _ live stands =>
      refine ⟨⟨fun nothing => ?_, fun dead => ?_⟩, fun _ => ⟨rfl, s, rfl, stands.means, ?_⟩,
        searched⟩
      · cases nothing.1
      · rw [live] at dead
        cases dead
      · intro u v means
        have text : s ++ " AND (" ++ u ++ ")" = s ++ " AND " ++ ("(" ++ u ++ ")") := by
          have opening : " AND (" = " AND " ++ "(" := by decide +kernel
          rw [opening]
          simp only [String.append_assoc]
        rw [text]
        exact stands.and means.stands_enclosed

/-- A filter with a list, an absent condition, bytes that have no literal, and a group. -/
def sampleFilter : Filter :=
  (((Filter.empty.eq "name" (.text "Ann")).maybe "city" none).anyOf "id" [.integer 1, .null]).or
    [Filter.empty.compare "age" .greaterThan (.integer 3),
      Filter.empty.eq "photo" (.scalar .blob (some []))]

theorem sampleFilter_means :
    sampleFilter.isPlain = true ∧
    let c : WriteContext := ⟨.condition, false, []⟩
    let φ := (sampleFilter.formula c).1
    Means "(name = 'Ann' AND (id = 1 OR id IS null) AND (age > 3))" φ.holds ∧
      ∃ s, ((Statement.searchCondition .generic (some sampleFilter) .leading ["name"] [1]).write
          c).1 = some s ∧
        Means s fun ρ => (!φ.live || φ.holds ρ) &&
          [("name", 1)].any fun p => ρ (matchWords true p) := by
  have plain : sampleFilter.isPlain = true := by decide +kernel
  obtain ⟨-, live, searched⟩ :=
    predicate_means_filter sampleFilter plain "" ⟨.condition, false, []⟩
  obtain ⟨-, s, text, means, -⟩ := live (by decide +kernel)
  have written : ((Predicate.filter .generic sampleFilter).writeAfter ""
      ⟨.condition, false, []⟩).1 = "(name = 'Ann' AND (id = 1 OR id IS null) AND (age > 3))" := by
    decide +kernel
  have same : "" ++ s = "(name = 'Ann' AND (id = 1 OR id IS null) AND (age > 3))" :=
    text.symm.trans written
  rw [String.empty_append] at same
  rw [same] at means
  exact ⟨plain, means, searched .leading ["name"] [1] rfl rfl (by decide) (by decide)⟩

end TableAccess
