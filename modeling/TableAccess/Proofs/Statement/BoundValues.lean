import TableAccess.Statement.Clause

/-!
Values as they are bound.

Binding puts the text of an interval in the place of the interval, wherever it is among the items of
a value, and leaves all other items where and as they are. A list that declares intervals declares
texts when it is bound. But a null of intervals remains one among the texts, and a list that
declares lists of intervals declares them still. So what is bound is well typed exactly if no list
of intervals has a null in it, and no list of lists of intervals anything but nulls.
-/

set_option autoImplicit false
set_option relaxedAutoImplicit false

namespace TableAccess

open Clause (parameterOf parametersOf)

namespace Value

/-! ### Places -/

/-- The items of a list that is not null. The value that stands for their type is none of them. -/
def items? : Value → Option (List Value)
  | .list (some vs) _ => some vs
  | .list none _ | .null | .scalar _ _ => none

theorem eq_list_of_items? {v : Value} {vs : List Value} (items : v.items? = some vs) :
    ∃ e, v = .list (some vs) e := by
  cases v with
  | null | scalar => cases items
  | list payload e =>
    cases payload with
    | none => cases items
    | some ws =>
      cases items
      exact ⟨e, rfl⟩

/-- What holds of a list when it holds of its items holds of every value. -/
@[elab_as_elim]
theorem byItems {motive : Value → Prop} (leaf : ∀ v : Value, v.items? = none → motive v)
    (list : ∀ vs e, (∀ v ∈ vs, motive v) → motive (.list (some vs) e)) : (v : Value) → motive v
  | .null => leaf .null rfl
  | .scalar k p => leaf (.scalar k p) rfl
  | .list none e => leaf (.list none e) rfl
  | .list (some vs) e => list vs e fun v _ => byItems leaf list v

/-- The value at a place in a value: the way there leads from list to item, by numbers. -/
def at? : List Nat → Value → Option Value
  | [], v => some v
  | n :: path, v => v.items?.bind fun vs => vs[n]?.bind (at? path)

/-- Every item of every list, at whatever depth, is related to the value that the list declares for
the type of its items. -/
def EachItem (R : Value → Value → Prop) (v : Value) : Prop :=
  ∀ path vs e, v.at? path = some (.list (some vs) e) → ∀ x ∈ vs, R x e

/-- Every list in the value holds items of the type that it declares. -/
def WellTyped (v : Value) : Prop := v.EachItem fun x e => x.sameType e = true

section EachItem

variable {R S : Value → Value → Prop} {v e : Value} {vs : List Value}

theorem eachItem_leaf (leaf : v.items? = none) : v.EachItem R := by
  intro path vs e found
  cases path with
  | nil =>
    cases found
    cases leaf
  | cons n path =>
    rw [at?, leaf] at found
    cases found

theorem eachItem_list (here : ∀ x ∈ vs, R x e) (deeper : ∀ x ∈ vs, x.EachItem R) :
    (Value.list (some vs) e).EachItem R := by
  intro path ws f found
  cases path with
  | nil =>
    cases found
    exact here
  | cons n path =>
    have found : vs[n]?.bind (at? path) = some (.list (some ws) f) := found
    obtain ⟨x, item, found⟩ := Option.bind_eq_some_iff.mp found
    exact deeper x (List.mem_of_getElem? item) path ws f found

/-- Two relations that agree where a third one holds are the same where that holds throughout. -/
theorem eachItem_congr {R' : Value → Value → Prop} (typed : v.EachItem S)
    (agree : ∀ x e, S x e → (R x e ↔ R' x e)) : v.EachItem R ↔ v.EachItem R' := by
  constructor <;> intro holds path vs e found x mem
  · exact (agree x e (typed path vs e found x mem)).mp (holds path vs e found x mem)
  · exact (agree x e (typed path vs e found x mem)).mpr (holds path vs e found x mem)

end EachItem

/-! ### Intervals -/

/-- An interval, or the null of intervals. -/
def isInterval : Value → Bool
  | .scalar .interval _ => true
  | _ => false

/-- A list that declares intervals. -/
def isIntervalList : Value → Bool
  | .list _ e => e.isInterval
  | _ => false

theorem eq_interval_of_isInterval {v : Value} (interval : v.isInterval = true) :
    ∃ p, v = .scalar .interval p := by
  cases v with
  | null => cases interval
  | scalar k p =>
    cases k with
    | interval => exact ⟨p, rfl⟩
    | _ => cases interval
  | list items e => cases interval

/-- Values of the same type are intervals together. -/
theorem isInterval_congr {v w : Value} (same : v.sameType w = true) :
    v.isInterval = w.isInterval := by
  cases v with
  | null =>
    cases w with
    | null => rfl
    | scalar | list => cases same
  | scalar k p =>
    cases w with
    | scalar l q =>
      cases beq_iff_eq.mp (same : (k == l) = true)
      cases k <;> rfl
    | null | list => cases same
  | list items e =>
    cases w with
    | list => rfl
    | null | scalar => cases same

/-- An item is bound as one of the type that its list declares when it is bound. -/
structure StaysTyped (x e : Value) : Prop where
  interval : e.isInterval = true → x.isNull = false
  intervalList : e.isIntervalList = true → x.isNull = true

end Value

namespace Clause

open Value

/-- The type of items that a list declares when it is bound. -/
def elementOf (e : Value) : Value := if e.isInterval then .nullOf .varchar else e

/-- What a value is bound as at its own place, the items of a list aside. -/
inductive BoundAs : Value → Value → Prop
  | interval (i : Interval) : BoundAs (.scalar .interval (some i)) (.text i.text)
  | list {vs ws : List Value} (e : Value) (length : ws.length = vs.length) :
    BoundAs (.list (some vs) e) (.list (some ws) (elementOf e))
  | other {v : Value} (leaf : v.items? = none) (other : ∀ i, v ≠ .scalar .interval (some i)) :
    BoundAs v v

theorem parametersOf_eq_map (vs : List Value) : parametersOf vs = vs.map parameterOf := by
  induction vs with
  | nil => rfl
  | cons v vs ih => rw [parametersOf, ih, List.map_cons]

theorem parameterOf_list (vs : List Value) (e : Value) :
    parameterOf (.list (some vs) e) = .list (some (vs.map parameterOf)) (elementOf e) := by
  rw [← parametersOf_eq_map]
  cases e with
  | null => rfl
  | scalar k p => cases k <;> rfl
  | list items e => rfl

/-- Whatever is neither an interval nor a list with items is bound as it is. -/
theorem parameterOf_other {v : Value} (leaf : v.items? = none)
    (other : ∀ i, v ≠ .scalar .interval (some i)) : parameterOf v = v := by
  cases v with
  | null => rfl
  | scalar k p =>
    cases p with
    | none => cases k <;> rfl
    | some x =>
      cases k with
      | interval => exact absurd rfl (other x)
      | _ => rfl
  | list items e =>
    cases items with
    | none => rfl
    | some vs => cases leaf

/-- What holds of each value and of what its own place is bound as holds of it and of what it is
bound as. -/
theorem parameterOf_cases {motive : Value → Value → Prop}
    (interval : ∀ i : Interval, motive (.scalar .interval (some i)) (.text i.text))
    (list : ∀ vs e, motive (.list (some vs) e) (.list (some (vs.map parameterOf)) (elementOf e)))
    (other : ∀ v : Value, v.items? = none → (∀ i, v ≠ .scalar .interval (some i)) → motive v v)
    (v : Value) : motive v (parameterOf v) := by
  cases items : v.items? with
  | some vs =>
    obtain ⟨e, rfl⟩ := eq_list_of_items? items
    rw [parameterOf_list]
    exact list vs e
  | none =>
    by_cases held : ∃ i, v = .scalar .interval (some i)
    · obtain ⟨i, rfl⟩ := held
      rw [parameterOf]
      exact interval i
    · have not_held := not_exists.mp held
      rw [parameterOf_other items not_held]
      exact other v items not_held

theorem boundAs_parameterOf (v : Value) : BoundAs v (parameterOf v) :=
  parameterOf_cases .interval (fun _ e => .list e (List.length_map parameterOf))
    (fun _ => .other) v

theorem isNull_parameterOf (v : Value) : (parameterOf v).isNull = v.isNull :=
  parameterOf_cases (motive := fun v w => w.isNull = v.isNull) (fun _ => rfl) (fun _ _ => rfl)
    (fun _ _ _ => rfl) v

theorem parameterOf_ne_interval (v : Value) (i : Interval) :
    parameterOf v ≠ .scalar .interval (some i) :=
  parameterOf_cases (motive := fun _ w => w ≠ .scalar .interval (some i)) nofun nofun
    (fun _ _ other => other i) v

/-! ### Places -/

theorem items?_parameterOf (v : Value) :
    (parameterOf v).items? = v.items?.map (List.map parameterOf) := by
  refine parameterOf_cases (motive := fun v w => w.items? = v.items?.map (List.map parameterOf))
    (fun _ => rfl) (fun _ _ => rfl) ?_ v
  intro v leaf _
  rw [leaf]
  rfl

/-- What is bound at a place is what the value at that place is bound as. -/
theorem at?_parameterOf (path : List Nat) (v : Value) :
    (parameterOf v).at? path = (v.at? path).map parameterOf := by
  induction path generalizing v with
  | nil => rfl
  | cons n path ih =>
    rw [at?, at?, items?_parameterOf]
    cases v.items? with
    | none => rfl
    | some vs =>
      simp only [Option.map_some, Option.bind_some, List.getElem?_map]
      cases vs[n]? with
      | none => rfl
      | some x => exact ih x

theorem rel_at?_parameterOf (path : List Nat) (v : Value) :
    Option.Rel BoundAs (v.at? path) ((parameterOf v).at? path) := by
  rw [at?_parameterOf]
  cases v.at? path with
  | none => exact .none
  | some w => exact .some (boundAs_parameterOf w)

theorem at?_parameterOf_ne_interval (path : List Nat) (v : Value) (i : Interval) :
    (parameterOf v).at? path ≠ some (.scalar .interval (some i)) := by
  rw [at?_parameterOf]
  intro held
  obtain ⟨w, -, bound⟩ := Option.map_eq_some_iff.mp held
  exact parameterOf_ne_interval w i bound

/-- Relations of bound items are those of the items that are bound. -/
theorem eachItem_parameterOf {R : Value → Value → Prop} {v : Value} :
    (parameterOf v).EachItem R ↔ v.EachItem fun x e => R (parameterOf x) (elementOf e) := by
  constructor
  · intro holds path vs e found x mem
    refine holds path (vs.map parameterOf) (elementOf e) ?_ _ (List.mem_map_of_mem mem)
    rw [at?_parameterOf, found, Option.map_some, parameterOf_list]
  · intro holds path ws f found y mem
    rw [at?_parameterOf] at found
    obtain ⟨w, there, bound⟩ := Option.map_eq_some_iff.mp found
    have bound_items : w.items?.map (List.map parameterOf) = some ws := by
      rw [← items?_parameterOf, bound, items?]
    obtain ⟨vs, items, rfl⟩ := Option.map_eq_some_iff.mp bound_items
    obtain ⟨e, rfl⟩ := eq_list_of_items? items
    rw [parameterOf_list] at bound
    cases bound
    obtain ⟨x, item, rfl⟩ := List.mem_map.mp mem
    exact holds path vs e there x item

/-! ### Fixed points -/

theorem elementOf_of_isInterval {e : Value} (interval : e.isInterval = true) :
    elementOf e = .nullOf .varchar := if_pos interval

theorem elementOf_eq_self {e : Value} (other : e.isInterval = false) : elementOf e = e :=
  if_neg (ne_true_of_eq_false other)

theorem isInterval_elementOf (e : Value) : (elementOf e).isInterval = false := by
  cases interval : e.isInterval with
  | true =>
    rw [elementOf_of_isInterval interval]
    rfl
  | false => rw [elementOf_eq_self interval, interval]

/-- What has been bound is bound as it is. -/
theorem parameterOf_parameterOf (v : Value) : parameterOf (parameterOf v) = parameterOf v := by
  induction v using byItems with
  | leaf v leaf =>
    revert leaf
    refine parameterOf_cases (motive := fun v w => v.items? = none → parameterOf w = w) ?_ nofun ?_ v
    · intro i _
      exact parameterOf_other rfl nofun
    · intro v leaf other _
      exact parameterOf_other leaf other
  | list vs e ih =>
    have items : (vs.map parameterOf).map parameterOf = vs.map parameterOf := by
      rw [List.map_map]
      exact List.map_congr_left ih
    rw [parameterOf_list, parameterOf_list, items, elementOf_eq_self (isInterval_elementOf e)]

/-! ### Types -/

theorem sameType_parameterOf_iff {x e : Value} (typed : x.sameType e = true) :
    (parameterOf x).sameType (elementOf e) = true ↔ StaysTyped x e := by
  have together := isInterval_congr typed
  cases interval : e.isInterval with
  | true =>
    obtain ⟨q, rfl⟩ := eq_interval_of_isInterval interval
    obtain ⟨p, rfl⟩ := eq_interval_of_isInterval (together.trans interval)
    cases p with
    | none => exact ⟨nofun, fun stays => absurd (stays.interval rfl) nofun⟩
    | some i =>
      rw [parameterOf]
      exact ⟨fun _ => ⟨fun _ => rfl, nofun⟩, fun _ => rfl⟩
  | false =>
    rw [elementOf_eq_self interval]
    rw [interval] at together
    revert typed together
    refine parameterOf_cases (motive := fun x w => x.sameType e = true → x.isInterval = false →
      (w.sameType e = true ↔ StaysTyped x e)) nofun ?_ ?_ x
    · intro vs f typed _
      cases e with
      | null | scalar => cases typed
      | list items g =>
        have typed : f.sameType g = true := typed
        have declared := isInterval_congr typed
        cases lists : f.isInterval with
        | true =>
          -- The item declares texts now, and its list still intervals.
          obtain ⟨q, rfl⟩ := eq_interval_of_isInterval (declared.symm.trans lists)
          rw [elementOf_of_isInterval lists]
          exact ⟨nofun, fun stays => absurd (stays.intervalList rfl) nofun⟩
        | false =>
          rw [elementOf_eq_self lists]
          have no_list : g.isInterval = false := declared.symm.trans lists
          exact ⟨fun _ => ⟨nofun, fun list => absurd (no_list.symm.trans list) nofun⟩,
            fun _ => typed⟩
    · intro v leaf _ typed _
      refine ⟨fun _ => ⟨fun declared => absurd (interval.symm.trans declared) nofun, ?_⟩,
        fun _ => typed⟩
      intro lists
      cases e with
      | null | scalar => cases lists
      | list items g =>
        cases v with
        | null | scalar => cases typed
        | list payload f =>
          cases payload with
          | none => rfl
          | some vs => cases leaf

/-! ### Values -/

/-- A well-typed value is bound as a well-typed one exactly if every list of intervals in it has no
null and every list of lists of intervals nothing but nulls. Whatever its types are, it is bound as
a null exactly if it is one, each place in it is kept and changed by nothing but an interval there
and a declared type of intervals, no interval is left among its items, and what is bound is bound
as it is. -/
theorem bound_values_typed_iff (v : Value) :
    (v.WellTyped → ((parameterOf v).WellTyped ↔ v.EachItem StaysTyped)) ∧
    (parameterOf v).isNull = v.isNull ∧
    (∀ path, Option.Rel BoundAs (v.at? path) ((parameterOf v).at? path)) ∧
    (∀ path i, (parameterOf v).at? path ≠ some (.scalar .interval (some i))) ∧
    parameterOf (parameterOf v) = parameterOf v := by
  refine ⟨fun typed => ?_, isNull_parameterOf v, fun path => rel_at?_parameterOf path v,
    fun path => at?_parameterOf_ne_interval path v, parameterOf_parameterOf v⟩
  rw [WellTyped, eachItem_parameterOf]
  exact eachItem_congr typed fun _ _ => sameType_parameterOf_iff

/-- A delay and an advance. -/
def shifts : Value :=
  .list (some [.scalar .interval (some ⟨0, 0, 90000000000⟩),
    .scalar .interval (some ⟨0, -1, 0⟩)]) (.nullOf .interval)

theorem wellTyped_shifts : shifts.WellTyped := by
  refine eachItem_list ?_ ?_ <;> simp only [List.forall_mem_cons]
  · exact ⟨rfl, rfl, nofun⟩
  · exact ⟨eachItem_leaf rfl, eachItem_leaf rfl, nofun⟩

theorem shifts_stay_typed :
    shifts.WellTyped ∧ shifts.EachItem StaysTyped ∧
    parameterOf shifts = .list (some [.text "00:01:30", .text "-24:00:00"]) (.nullOf .varchar) ∧
    (parameterOf shifts).WellTyped := by
  have stays : shifts.EachItem StaysTyped := by
    refine eachItem_list ?_ ?_ <;> simp only [List.forall_mem_cons]
    · exact ⟨⟨fun _ => rfl, nofun⟩, ⟨fun _ => rfl, nofun⟩, nofun⟩
    · exact ⟨eachItem_leaf rfl, eachItem_leaf rfl, nofun⟩
  have delay : Interval.text ⟨0, 0, 90000000000⟩ = "00:01:30" := by decide +kernel
  have advance : Interval.text ⟨0, -1, 0⟩ = "-24:00:00" := by decide +kernel
  have bound : parameterOf shifts =
      .list (some [.text "00:01:30", .text "-24:00:00"]) (.nullOf .varchar) := by
    simp only [shifts, parameterOf_list, List.map_cons, List.map_nil, parameterOf, delay, advance]
    rfl
  exact ⟨wellTyped_shifts, stays, bound,
    ((bound_values_typed_iff shifts).1 wellTyped_shifts).mpr stays⟩

/-- A null among intervals is bound as it is in a list that declares texts, and a list of intervals
as a list of texts in a list that declares lists of intervals. -/
theorem intervals_lose_type :
    let nulls : Value := .list (some [.nullOf .interval]) (.nullOf .interval)
    let nested : Value := .list (some [shifts]) (.list none (.nullOf .interval))
    (nulls.WellTyped ∧ ¬ (parameterOf nulls).WellTyped) ∧
    nested.WellTyped ∧ ¬ (parameterOf nested).WellTyped := by
  intro nulls nested
  have nulls_typed : nulls.WellTyped := by
    refine eachItem_list ?_ ?_ <;> simp only [List.forall_mem_singleton]
    · rfl
    · exact eachItem_leaf rfl
  have nested_typed : nested.WellTyped := by
    refine eachItem_list ?_ ?_ <;> simp only [List.forall_mem_singleton]
    · rfl
    · exact wellTyped_shifts
  refine ⟨⟨nulls_typed, fun typed => ?_⟩, nested_typed, fun typed => ?_⟩
  · exact absurd (typed [] _ _ rfl _ List.mem_cons_self) nofun
  · exact absurd (typed [] _ _ rfl _ List.mem_cons_self) nofun

end Clause

end TableAccess
