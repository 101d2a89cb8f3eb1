import TableAccess.Proofs.Statement.Shapes
import TableAccess.Repository.Basic

/-!
Statements side by side.

Two parts are parallel under a relation of texts when, wherever no value before them is a literal
of its own, they write related texts and bind as many parameters. Parts made of parallel parts
in the same way are parallel again, so it takes one step for each way in which statements are
put together. What is bound as a parameter is left open.
-/

set_option autoImplicit false
set_option relaxedAutoImplicit false

namespace TableAccess

open Text (Closed Alike Quoteless)

/-- Two contexts that write values as literals, in the same region and with as many parameters. -/
structure WriteContext.Level (c c' : WriteContext) : Prop where
  inline : c.parameterized = false
  inline' : c'.parameterized = false
  region : c.region = c'.region
  count : c.count = c'.count

/-- Two parts write related texts and bind as many parameters. -/
def Clause.Parallel (R : String → String → Prop) (a b : Clause) : Prop :=
  ∀ c c', c.Level c' → R (a.write c).1 (b.write c').1 ∧ (a.write c).2.Level (b.write c').2

/-- Two predicates are both left out, or write related texts and bind as many parameters. -/
def Predicate.Parallel (R : String → String → Prop) (p q : Predicate) : Prop :=
  ∀ c c', c.Level c' →
    Option.Rel R (p.write c).1 (q.write c').1 ∧ (p.write c).2.Level (q.write c').2

/-- The relation holds of a name and itself, bare and quoted. -/
def Writable (R : String → String → Prop) (name : String) : Prop :=
  R name name ∧ R (Literal.identifier name) (Literal.identifier name)

theorem writable_eq (name : String) : Writable (· = ·) name := ⟨rfl, rfl⟩

theorem writable_alike {name : String} (h : Quoteless name) : Writable Alike name :=
  ⟨.refl h.closed, .refl (closed_identifier h)⟩

variable {R : String → String → Prop}

theorem WriteContext.Level.within {c c' : WriteContext} (h : c.Level c') (region : Region) :
    WriteContext.Level { c with region := region } { c' with region := region } :=
  ⟨h.inline, h.inline', rfl, h.count⟩

/-! ### Parts -/

namespace Clause

theorem parallel_text {s : String} (h : R s s) : Parallel R (text s) (text s) :=
  fun _ _ level => ⟨h, level⟩

theorem parallel_fixed (hR : Congruence R) {s : String} (closed : Closed s) :
    Parallel R (text s) (text s) :=
  parallel_text (hR.closed closed)

theorem Parallel.append (hR : Congruence R) {a b a' b' : Clause} (first : Parallel R a a')
    (last : Parallel R b b') : Parallel R (a ++ b) (a' ++ b') := by
  intro c c' level
  obtain ⟨start, between⟩ := first c c' level
  obtain ⟨rest, after⟩ := last _ _ between
  exact ⟨hR.append start rest, after⟩

theorem Parallel.within {a b : Clause} (h : Parallel R a b) (region : Region) :
    Parallel R (Clause.within region a) (Clause.within region b) := by
  intro c c' level
  obtain ⟨related, after⟩ := h _ _ (level.within region)
  exact ⟨related, after.inline, after.inline', level.region, after.count⟩

private theorem parallel_writeAll {as bs : List Clause} (h : List.Forall₂ (Parallel R) as bs)
    {c c' : WriteContext} (level : c.Level c') :
    List.Forall₂ R (writeAll as c).1 (writeAll bs c').1 ∧
      (writeAll as c).2.Level (writeAll bs c').2 := by
  induction h generalizing c c' with
  | nil => exact ⟨.nil, level⟩
  | cons first others ih =>
    obtain ⟨related, between⟩ := first c c' level
    obtain ⟨rest, after⟩ := ih between
    exact ⟨.cons related rest, after⟩

theorem parallel_joined (hR : Congruence R) {separator : String} (closed : Closed separator)
    {as bs : List Clause} (h : List.Forall₂ (Parallel R) as bs) :
    Parallel R (joined separator as) (joined separator bs) := by
  intro c c' level
  obtain ⟨related, after⟩ := parallel_writeAll h level
  exact ⟨hR.joined closed related, after⟩

theorem parallel_column {name : String} (h : Writable R name) :
    Parallel R (column name) (column name) := by
  intro c c' level
  refine ⟨?_, level⟩
  simp only [column, level.region]
  split
  · exact h.2
  · exact h.1

theorem forall₂_map {α : Type} {part : α → Clause} {xs : List α}
    (h : ∀ x ∈ xs, Parallel R (part x) (part x)) :
    List.Forall₂ (Parallel R) (xs.map part) (xs.map part) := by
  rw [List.forall₂_map_left_iff, List.forall₂_map_right_iff, List.forall₂_same]
  exact h

theorem parallel_columnList (hR : Congruence R) {columns : Option (List String)}
    (h : ∀ name ∈ columns.getD [], Writable R name) :
    Parallel R (columnList columns) (columnList columns) := by
  unfold columnList
  split
  · next c cs =>
    exact parallel_joined hR (by decide) (forall₂_map fun name mem => parallel_column (h name mem))
  · exact parallel_fixed hR (by decide)

theorem closed_natText (n : Nat) : Closed (Text.natText n) := by
  refine Quoteless.closed fun c member => ?_
  rw [Text.natText, String.toList_ofList] at member
  rintro rfl
  exact absurd (Text.isDigit_of_mem_numeral member) (by decide)

theorem closed_placeholder (n : Nat) : Closed (placeholder n) :=
  (by decide : Closed "$").append (closed_natText n)

/-- Whatever values are bound as the next parameters, they have the same place. -/
theorem parallel_parameter (hR : Congruence R) (v w : Value) :
    Parallel R (parameter v) (parameter w) := by
  intro c c' level
  have count : (c.bind (parameterOf v)).count = (c'.bind (parameterOf w)).count := by
    simp only [WriteContext.count, WriteContext.bind, List.length_append, List.length_cons,
      List.length_nil]
    exact congrArg (· + 1) level.count
  refine ⟨?_, level.inline, level.inline', level.region, count⟩
  simp only [parameter, count]
  exact hR.closed (closed_placeholder _)

/-- The statements of parallel parts have related texts and as many parameters. -/
theorem Parallel.query {a b : Clause} (h : Parallel R a b) :
    R a.query.sql b.query.sql ∧ a.query.params.length = b.query.params.length := by
  obtain ⟨related, after⟩ := h .inline .inline ⟨rfl, rfl, rfl, rfl⟩
  exact ⟨related, after.count⟩

end Clause

/-! ### Predicates -/

namespace Predicate

variable {p q : Predicate}

/-- Predicates that write values as literals are parallel when what they write is related. -/
theorem parallel_of_steady (first : Steady p.write) (last : Steady q.write)
    (h : ∀ region, Option.Rel R (p.write (.literals region)).1 (q.write (.literals region)).1) :
    Parallel R p q := by
  intro c c' level
  rw [first c level.inline, last c' level.inline', ← level.region]
  exact ⟨h c.region, level⟩

theorem Parallel.keyword (hR : Congruence R) {word : String} (closed : Closed word)
    (h : Parallel R p q) :
    Parallel R (Statement.keyword word p) (Statement.keyword word q) := by
  intro c c' level
  obtain ⟨related, after⟩ := h c c' level
  exact ⟨rel_map related (hR.append (hR.closed closed)), after⟩

theorem Parallel.optional (hR : Congruence R) (h : Parallel R p q) :
    Clause.Parallel R (Statement.optional p) (Statement.optional q) := by
  intro c c' level
  obtain ⟨related, after⟩ := h c c' level
  have written {s s' : Option String} (h : Option.Rel R s s') : R (s.getD "") (s'.getD "") := by
    cases h with
    | none => exact hR.closed rfl
    | some same => exact same
  exact ⟨written related, after⟩

theorem Parallel.withinRegion (h : Parallel R p q) (region : Region) :
    Parallel R (Statement.withinRegion region p) (Statement.withinRegion region q) := by
  intro c c' level
  obtain ⟨related, after⟩ := h _ _ (level.within region)
  exact ⟨related, after.inline, after.inline', level.region, after.count⟩

theorem parallel_provided (wanted : Bool) {a b : Clause} (h : Clause.Parallel R a b) :
    Parallel R (Statement.provided wanted a) (Statement.provided wanted b) := by
  intro c c' level
  obtain ⟨related, after⟩ := h c c' level
  refine ⟨?_, after⟩
  cases wanted with
  | false => exact .none
  | true => exact .some related

/-- Filters are parallel when their predicates are, and none is there without the other. -/
def FiltersParallel (R : String → String → Prop) (d : Dialect) (f g : Option Filter) : Prop :=
  Option.Rel (fun f g => Parallel R (filter d f) (filter d g)) f g

end Predicate

end TableAccess
