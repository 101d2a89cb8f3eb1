import TableAccess.Proofs.Predicate.Inline

/-!
Filters of which something is left.

A value is live when it has a literal, a condition when one of its values is, and a filter when one
of its conditions is or a member of one of its groups. A filter has a predicate exactly when it is
live, and its text is never empty.
-/

set_option autoImplicit false
set_option relaxedAutoImplicit false

namespace TableAccess

/-! ### What is live -/

def Dialect.shows (d : Dialect) (v : Value) : Bool := d.literal v ≠ ""

/-- One of the values of the condition has a literal. -/
def Condition.live (d : Dialect) : Condition → Bool
  | .value (.list (some vs) _) => vs.any d.shows
  | .anyOf vs => vs.any d.shows
  | .value v => d.shows v
  | .compare _ v => d.shows v

namespace Filter

mutual
/-- One of the conditions of the filter is live, or a member of one of its groups. -/
def live (d : Dialect) : Filter → Bool
  | .mk columns groups => columns.any (fun p => p.2.any (Condition.live d)) || liveGroups d groups

def liveGroups (d : Dialect) : List (Operator × List Filter) → Bool
  | [] => false
  | (_, members) :: groups => liveMembers d members || liveGroups d groups

def liveMembers (d : Dialect) : List Filter → Bool
  | [] => false
  | f :: fs => live d f || liveMembers d fs
end

end Filter

/-! ### What is written -/

/-- Texts of a part, none of them empty: there are some exactly if the part is live. -/
structure Shown (live : Bool) (texts : List String) : Prop where
  some_texts : (!texts.isEmpty) = live
  filled : ∀ s ∈ texts, s ≠ ""

namespace Shown

variable {a b : Bool} {ss ts : List String} {s : String}

theorem nil : Shown false [] := ⟨rfl, List.forall_mem_nil _⟩

theorem singleton (filled : s ≠ "") : Shown true [s] :=
  ⟨rfl, List.forall_mem_singleton.mpr filled⟩

theorem append (first : Shown a ss) (last : Shown b ts) : Shown (a || b) (ss ++ ts) where
  some_texts := by
    rw [← first.some_texts, ← last.some_texts]
    cases ss <;> rfl
  filled := List.forall_mem_append.mpr ⟨first.filled, last.filled⟩

/-- Texts that are put together between parentheses are one text. -/
theorem enclosedAll (h : Shown a ss) (separator : String) :
    Shown a (Predicate.enclosedAll separator ss).toList := by
  cases ss with
  | nil => exact h
  | cons s ss =>
    have live : a = true := h.some_texts.symm
    rw [live]
    refine singleton fun empty => ?_
    rw [Predicate.enclosed, String.append_eq_empty_iff] at empty
    exact absurd empty.2 (by decide)

theorem conjunction (h : Shown a ss) : Shown a (Predicate.conjunction ss).toList := by
  match ss, h with
  | [], h => exact h
  | [_], h => exact h
  | _ :: _ :: _, h => exact h.enclosedAll " AND "

end Shown

namespace Predicate

variable (d : Dialect) (region : Region)

private theorem shown_comparison (column : String) (op : Operator) (v : Value) :
    Shown (d.shows v) ((comparison d column op v).write (.literals region)).1.toList := by
  have literal : (Clause.value d v).write (.literals region) =
      (d.literal v, .literals region) := rfl
  by_cases empty : d.literal v = ""
  · have dead : d.shows v = false := by rw [Dialect.shows, empty]; rfl
    simp only [comparison, literal, if_pos empty, dead]
    exact .nil
  · have live : d.shows v = true := decide_eq_true empty
    simp only [comparison, literal, if_neg empty, live]
    refine .singleton fun none => empty ?_
    exact (String.append_eq_empty_iff.mp none).2

/-- A null has a literal. -/
private theorem shows_of_isNull {v : Value} (null : v.isNull = true) : d.shows v = true := by
  have literal : d.literal v = "null" := by
    match v, null with
    | .null, _ => rfl
    | .scalar _ none, _ => rfl
    | .list none _, _ => rfl
  rw [Dialect.shows, literal]
  rfl

private theorem shown_equality (column : String) (v : Value) :
    Shown (d.shows v) ((equality d column v).write (.literals region)).1.toList := by
  rw [equality]
  split
  · next null =>
    rw [shows_of_isNull d null]
    refine .singleton fun empty => ?_
    exact absurd (String.append_eq_empty_iff.mp empty).2 (by decide)
  · exact shown_comparison d region column .equals v

private theorem shown_anyOf (column : String) (vs : List Value) :
    Shown (vs.any d.shows) ((anyOf d column vs).write (.literals region)).1.toList := by
  have each : Shown (vs.any d.shows)
      (writeAll (vs.map (equality d column)) (.literals region)).1 := by
    induction vs with
    | nil => exact .nil
    | cons v vs ih =>
      simp only [List.map_cons, writeAll, (steady_equality d column v).after]
      exact (shown_equality d region column v).append ih
  exact each.enclosedAll " OR "

private theorem shown_condition (column : String) (k : Condition) :
    Shown (k.live d) ((condition d column k).write (.literals region)).1.toList := by
  match k with
  | .value (.list (some vs) _) => exact shown_anyOf d region column vs
  | .anyOf vs => exact shown_anyOf d region column vs
  | .value .null => exact shown_equality d region column .null
  | .value (.list none e) => exact shown_equality d region column (.list none e)
  | .value (.scalar kind payload) => exact shown_equality d region column (.scalar kind payload)
  | .compare op v => exact shown_comparison d region column op v

private theorem shown_columns (columns : List (String × Option Condition)) :
    Shown (columns.any fun p => p.2.any (Condition.live d))
      (writeColumns d columns (.literals region)).1 := by
  induction columns with
  | nil => exact .nil
  | cons p columns ih =>
    obtain ⟨column, k | k⟩ := p
    · exact ih
    · simp only [writeColumns, (steady_condition d column k).after]
      exact (shown_condition d region column k).append ih

mutual
/-- Where values are literals, a filter has a predicate exactly if it is live, and the predicate is
not empty. -/
theorem shown_filter (f : Filter) :
    Shown (f.live d) (writeFilter d f (.literals region)).1.toList := by
  match f with
  | .mk columns groups =>
    simp only [writeFilter, (steady_columns d columns).after]
    exact ((shown_columns d region columns).append (shown_groups groups)).conjunction

theorem shown_groups (groups : List (Operator × List Filter)) :
    Shown (Filter.liveGroups d groups) (writeGroups d groups (.literals region)).1 := by
  match groups with
  | [] => exact .nil
  | (op, members) :: groups =>
    simp only [writeGroups, (steady_members d members).after]
    exact ((shown_members members).enclosedAll _).append (shown_groups groups)

theorem shown_members (members : List Filter) :
    Shown (Filter.liveMembers d members) (writeMembers d members (.literals region)).1 := by
  match members with
  | [] => exact .nil
  | f :: fs =>
    simp only [writeMembers, (steady_filter d f).after]
    exact (shown_filter f).append (shown_members fs)
end

end Predicate

end TableAccess
