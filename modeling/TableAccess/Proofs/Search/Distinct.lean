import Mathlib.Data.List.Perm.Subperm
import TableAccess.Repository.Search

/-!
The distinct rows of a list, and what cutting the list before the repetitions are removed does
to them.

Rows are told apart by their identifiers; a row without one differs from all others. As many
rows of a list as are wanted in all are enough: among rows with different identifiers only as
many can be repetitions as rows came before the list.
-/

set_option autoImplicit false
set_option relaxedAutoImplicit false

namespace TableAccess

variable {α : Type} [Entity α]

def idsOf (rows : List α) : List Int64 := rows.filterMap Entity.id?

/-- The rows of a list whose identifiers have not come before, neither in the list nor among
those seen. -/
def distinctFrom (seen : List Int64) : List α → List α
  | [] => []
  | row :: rows =>
    match Entity.id? row with
    | none => row :: distinctFrom seen rows
    | some id =>
      if seen.contains id then distinctFrom seen rows
      else row :: distinctFrom (seen ++ [id]) rows

/-- The rows of a list whose identifiers have not come before. -/
def distinct (rows : List α) : List α := distinctFrom [] rows

theorem idsOf_append (rows others : List α) : idsOf (rows ++ others) = idsOf rows ++ idsOf others :=
  List.filterMap_append

theorem idsOf_cons_none {row : α} (anonymous : Entity.id? row = none) (rows : List α) :
    idsOf (row :: rows) = idsOf rows :=
  List.filterMap_cons_none anonymous

theorem idsOf_cons_some {row : α} {id : Int64} (named : Entity.id? row = some id)
    (rows : List α) : idsOf (row :: rows) = id :: idsOf rows :=
  List.filterMap_cons_some named

/-- The distinct rows of a list and another one: what the first leaves has been seen. -/
theorem distinctFrom_append (seen : List Int64) (rows others : List α) :
    distinctFrom seen (rows ++ others) = distinctFrom seen rows ++
      distinctFrom (seen ++ idsOf (distinctFrom seen rows)) others := by
  induction rows generalizing seen with
  | nil => simp only [List.nil_append, distinctFrom, idsOf, List.filterMap_nil, List.append_nil]
  | cons row rows ih =>
    rw [List.cons_append, distinctFrom, distinctFrom]
    cases named : Entity.id? row with
    | none => simp only [ih, idsOf_cons_none named, List.cons_append]
    | some id =>
      by_cases repeated : seen.contains id
      · simp only [repeated, if_true, ih]
      · simp only [repeated, Bool.false_eq_true, if_false, ih, idsOf_cons_some named,
          List.cons_append, List.append_assoc, List.nil_append]

theorem distinct_append (rows others : List α) :
    distinct (rows ++ others) = distinct rows ++ distinctFrom (idsOf (distinct rows)) others :=
  distinctFrom_append [] rows others

/-! ### Counting repetitions -/

def unseen (seen : List Int64) (row : α) : Bool :=
  (Entity.id? row).all fun id => !seen.contains id

/-- Among rows with different identifiers those are distinct that have not been seen. -/
private theorem distinctFrom_eq_filter (seen : List Int64) {rows : List α}
    (different : (idsOf rows).Nodup) : distinctFrom seen rows = rows.filter (unseen seen) := by
  induction rows generalizing seen with
  | nil => rfl
  | cons row rows ih =>
    rw [distinctFrom]
    cases named : Entity.id? row with
    | none =>
      rw [idsOf_cons_none named] at different
      have fresh : unseen seen row = true := by
        simp only [unseen, named, Option.all_none]
      simp only [ih seen different, List.filter_cons_of_pos fresh]
    | some id =>
      rw [idsOf_cons_some named, List.nodup_cons] at different
      obtain ⟨other, different⟩ := different
      by_cases repeated : seen.contains id
      · have old : ¬ unseen seen row = true := by
          simp only [unseen, named, Option.all_some, repeated, Bool.not_true, Bool.false_eq_true,
            not_false_eq_true]
        simp only [repeated, if_true, ih seen different, List.filter_cons_of_neg old]
      · have fresh : unseen seen row = true := by
          simp only [unseen, named, Option.all_some, repeated, Bool.not_false]
        simp only [repeated, Bool.false_eq_true, if_false, ih _ different,
          List.filter_cons_of_pos fresh]
        -- No later row has this identifier, so that it makes no difference to have seen it.
        refine congrArg (row :: ·) (List.filter_congr ?_)
        intro row' member
        cases named' : Entity.id? row' with
        | none => simp only [unseen, named', Option.all_none]
        | some id' =>
          have unlike : id' ≠ id := by
            rintro rfl
            exact other (List.mem_filterMap.mpr ⟨row', member, named'⟩)
          simp only [unseen, named', Option.all_some, List.contains_append, List.contains_cons,
            List.contains_nil, Bool.or_false, beq_eq_false_iff_ne.mpr unlike]

/-- Among rows with different identifiers there are at most as many repetitions as identifiers
have been seen. -/
private theorem length_le_of_different (seen : List Int64) {rows : List α}
    (different : (idsOf rows).Nodup) :
    rows.length ≤ seen.length + (distinctFrom seen rows).length := by
  -- Each repetition has an identifier that has been seen, and no two have the same one.
  let repeated := rows.filter fun row => !unseen seen row
  have named : ∀ row ∈ repeated, ∃ id ∈ seen, Entity.id? row = some id := by
    intro row member
    have old := (List.mem_filter.mp member).2
    cases id : Entity.id? row with
    | none => simp [unseen, id] at old
    | some id' => exact ⟨id', by simpa [unseen, id] using old, rfl⟩
  have ids : (idsOf repeated).length = repeated.length := by
    rw [idsOf, List.length_filterMap_eq_countP, List.countP_eq_length]
    intro row member
    obtain ⟨id, -, known⟩ := named row member
    rw [known, Option.isSome_some]
  have known : idsOf repeated ⊆ seen := by
    intro id member
    obtain ⟨row, member, own⟩ := List.mem_filterMap.mp member
    obtain ⟨id', old, own'⟩ := named row member
    exact Option.some.inj (own.symm.trans own') ▸ old
  have own : (idsOf repeated).Nodup :=
    different.sublist (List.filter_sublist.filterMap _)
  have few : repeated.length ≤ seen.length := by
    rw [← ids]
    exact (List.subperm_of_subset own known).length_le
  have all : rows.length = (rows.filter (unseen seen)).length + repeated.length :=
    List.length_eq_length_filter_add (unseen seen)
  rw [distinctFrom_eq_filter seen different, all]
  omega

/-- After some rows, the first rows of a list are enough for as many in all. -/
theorem take_distinctFrom_take {wanted : Nat} (before : List α) {rows : List α}
    (different : (idsOf rows).Nodup) :
    (before ++ distinctFrom (idsOf before) (rows.take wanted)).take wanted =
      (before ++ distinctFrom (idsOf before) rows).take wanted := by
  by_cases all : rows.length ≤ wanted
  · rw [List.take_of_length_le all]
  · -- The cut list fills the wanted rows by itself, so that the others come after these.
    have cut : (rows.take wanted).length = wanted := List.length_take_of_le (by omega)
    have own : (idsOf (rows.take wanted)).Nodup :=
      different.sublist ((List.take_sublist wanted rows).filterMap _)
    have enough := length_le_of_different (idsOf before) own
    have known : (idsOf before).length ≤ before.length := List.length_filterMap_le _ _
    have split := distinctFrom_append (idsOf before) (rows.take wanted) (rows.drop wanted)
    rw [List.take_append_drop] at split
    have full : wanted ≤
        (before ++ distinctFrom (idsOf before) (rows.take wanted)).length := by
      rw [List.length_append]
      omega
    rw [split, ← List.append_assoc, List.take_append_of_le_length full]

/-! ### Rows that have been found -/

/-- What has been found when some rows have. -/
def Found.of (rows : List α) : Found α := ⟨rows, idsOf rows⟩

/-- Further rows up to the wanted number are the distinct ones up to that number. -/
theorem Found.addAll_of {wanted : Nat} {before : List α} (few : before.length ≤ wanted)
    (rows : List α) :
    (Found.of before).addAll wanted rows =
      .of ((before ++ distinctFrom (idsOf before) rows).take wanted) := by
  induction rows generalizing before with
  | nil => rw [Found.addAll, distinctFrom, List.append_nil, List.take_of_length_le few]
  | cons row rows ih =>
    rw [Found.addAll]
    by_cases enough : wanted ≤ before.length
    · have full : (Found.of before).rows.length = before.length := rfl
      rw [if_pos (full ▸ enough), List.take_append_of_le_length enough,
        List.take_of_length_le few]
    · have room : ¬ wanted ≤ (Found.of before).rows.length := enough
      have further : (before ++ [row]).length ≤ wanted := by
        rw [List.length_append, List.length_singleton]
        omega
      rw [if_neg room]
      cases named : Entity.id? row with
      | none =>
        have added : (Found.of before).add row = .of (before ++ [row]) := by
          simp only [Found.add, named, Found.of, idsOf_append, idsOf_cons_none named]
          simp only [idsOf, List.filterMap_nil, List.append_nil]
        have ids : idsOf (before ++ [row]) = idsOf before := by
          rw [idsOf_append, idsOf_cons_none named]
          exact List.append_nil _
        rw [added, ih further, distinctFrom, named, ids, List.append_assoc]
        rfl
      | some id =>
        by_cases repeated : (idsOf before).contains id
        · have skipped : (Found.of before).add row = .of before := by
            simp only [Found.add, named, Found.of, repeated, if_true]
          simp only [skipped, ih few, distinctFrom, named, repeated, if_true]
        · have ids : idsOf (before ++ [row]) = idsOf before ++ [id] := by
            rw [idsOf_append, idsOf_cons_some named]
            rfl
          have added : (Found.of before).add row = .of (before ++ [row]) := by
            simp only [Found.add, named, Found.of, repeated, Bool.false_eq_true, if_false, ids]
          rw [added, ih further, distinctFrom, named, ids, List.append_assoc]
          simp only [repeated, Bool.false_eq_true, if_false]
          rfl

end TableAccess
