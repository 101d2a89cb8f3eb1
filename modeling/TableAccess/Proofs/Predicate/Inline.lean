import TableAccess.Statement.Predicate

/-!
Filters with their values as literals.

What is written then depends on the region of the context only, and the context stays as it is:
no parameter is bound, and those before do not matter.
-/

set_option autoImplicit false
set_option relaxedAutoImplicit false

namespace TableAccess

/-- The context of a part of a statement whose values are written as literals. -/
def WriteContext.literals (region : Region) : WriteContext := ⟨region, false, []⟩

/-- Where values are written as literals, the region decides what is written, and the context
stays as it is. -/
def Steady {α : Type} (write : WriteContext → α × WriteContext) : Prop :=
  ∀ c, c.parameterized = false → write c = ((write (.literals c.region)).1, c)

namespace Steady

variable {α β γ : Type} {a : WriteContext → α × WriteContext} {b : WriteContext → β × WriteContext}

theorem after (h : Steady a) (region : Region) :
    (a (.literals region)).2 = .literals region :=
  congrArg Prod.snd (h (.literals region) rfl)

theorem const (x : α) : Steady fun c => (x, c) := fun _ _ => rfl

theorem map (h : Steady a) (f : α → β) : Steady fun c => (f (a c).1, (a c).2) := by
  intro c inline
  simp only [h c inline]

theorem both (h : Steady a) (k : Steady b) (f : α → β → γ) :
    Steady fun c => (f (a c).1 (b (a c).2).1, (b (a c).2).2) := by
  intro c inline
  have first := h (.literals c.region) rfl
  simp only [h c inline, k c inline, first]

end Steady

namespace Predicate

variable (d : Dialect)

private theorem steady_column (name : String) : Steady (Clause.column name).write :=
  fun _ _ => rfl

private theorem steady_value (v : Value) : Steady (Clause.value d v).write := by
  intro c inline
  simp only [Clause.value, inline, Bool.false_and, Bool.false_eq_true, if_false,
    WriteContext.literals]

private theorem steady_comparison (column : String) (op : Operator) (v : Value) :
    Steady (comparison d column op v).write := by
  intro c inline
  have value := steady_value d v c inline
  simp only [comparison, value]
  split <;> rfl

theorem steady_equality (column : String) (v : Value) :
    Steady (equality d column v).write := by
  unfold equality
  split
  · exact (steady_column column).map fun name => some (name ++ " IS null")
  · exact steady_comparison d column .equals v

private theorem steady_writeAll {ps : List Predicate} (h : ∀ p ∈ ps, Steady p.write) :
    Steady (writeAll ps) := by
  induction ps with
  | nil => exact .const []
  | cons p ps ih =>
    obtain ⟨first, others⟩ := List.forall_mem_cons.mp h
    exact first.both (ih others) fun s ss => s.toList ++ ss

theorem steady_anyOf (column : String) (vs : List Value) :
    Steady (anyOf d column vs).write := by
  refine (steady_writeAll ?_).map (enclosedAll " OR ")
  intro p member
  obtain ⟨v, -, rfl⟩ := List.mem_map.mp member
  exact steady_equality d column v

theorem steady_condition (column : String) (k : Condition) :
    Steady (condition d column k).write := by
  unfold condition
  split
  · exact steady_anyOf d column _
  · exact steady_anyOf d column _
  · exact steady_equality d column _
  · exact steady_comparison d column _ _

theorem steady_columns (columns : List (String × Option Condition)) :
    Steady (writeColumns d columns) := by
  induction columns with
  | nil => exact .const []
  | cons p columns ih =>
    obtain ⟨column, k | k⟩ := p
    · exact ih
    · exact (steady_condition d column k).both ih fun s ss => s.toList ++ ss

mutual
theorem steady_filter (f : Filter) : Steady (writeFilter d f) := by
  match f with
  | .mk columns groups =>
    exact (steady_columns d columns).both (steady_groups groups) fun ss ts => conjunction (ss ++ ts)

theorem steady_groups (groups : List (Operator × List Filter)) :
    Steady (writeGroups d groups) := by
  match groups with
  | [] => exact .const []
  | (op, members) :: groups =>
    exact (steady_members members).both (steady_groups groups) fun ms ss =>
      (enclosedAll (" " ++ op.token ++ " ") ms).toList ++ ss

theorem steady_members (members : List Filter) : Steady (writeMembers d members) := by
  match members with
  | [] => exact .const []
  | f :: fs => exact (steady_filter f).both (steady_members fs) fun s ss => s.toList ++ ss
end

end Predicate

end TableAccess
