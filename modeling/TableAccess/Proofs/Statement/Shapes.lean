import TableAccess.Proofs.Predicate.Contents
import TableAccess.Proofs.Predicate.Inline
import TableAccess.Proofs.Predicate.Literals
import TableAccess.Proofs.Statement.Outline

/-!
What values and filters are when the content of their texts is left out, and the outlines of
their literals and predicates, which are the ones of what is left.
-/

set_option autoImplicit false
set_option relaxedAutoImplicit false

namespace TableAccess

open Text (Closed Alike Quoteless)

/-! ### Literals -/

namespace Dialect

/-- The literals of a dialect of its own close their quotes. -/
structure Closes (d : Dialect) : Prop where
  infinity : ∀ negative, Closed (d.infinity negative)
  notNumber : Closed d.notNumber
  blob : ∀ bytes, Closed (d.blob bytes)

private theorem hexDigit_ne_quote (n : Nat) : Text.hexDigit n ≠ '\'' := by
  have table : ∀ m < 16, Text.hexDigit m ≠ '\'' := by decide
  have same : Text.hexDigit n = Text.hexDigit (n % 16) := by
    simp only [Text.hexDigit, Nat.mod_mod]
  rw [same]
  exact table _ (Nat.mod_lt n (by decide))

theorem quoteless_hexText (bytes : List UInt8) : Quoteless (Text.hexText bytes) := by
  intro c member
  rw [Text.hexText, String.toList_ofList] at member
  obtain ⟨b, -, digits⟩ := List.mem_flatMap.mp member
  simp only [Text.hexDigits, List.nil_append, List.cons_append, List.mem_cons, List.not_mem_nil,
    or_false] at digits
  rcases digits with rfl | rfl
  · exact hexDigit_ne_quote _
  · exact hexDigit_ne_quote _

theorem closes_generic : generic.Closes where
  infinity negative := by cases negative <;> decide
  notNumber := by decide
  blob _ := rfl

/-- Bytes stand between quotes as hexadecimal digits, before another text between quotes. -/
theorem closes_postgres : postgres.Closes where
  infinity negative := by cases negative <;> decide
  notNumber := by decide
  blob bytes := by
    have digits : Text.endsInside true (Text.hexText bytes).toList = true :=
      Text.endsInside_quoteless true (quoteless_hexText bytes)
    have start : Text.endsInside false "decode('".toList = true := by decide
    have finish : Text.endsInside true "', 'hex')".toList = false := by decide
    simp only [Closed, postgres, String.toList_append, Text.endsInside_append, start, digits,
      finish]

end Dialect

section Literals

variable {d : Dialect}

private theorem closed_string (s : String) : Closed (Literal.string s) :=
  (Text.quoted_outline (Reading.toList_string s) fun _ => Reading.ne_quote_of_mem_body).1

private theorem outline_string (s : String) : Text.outline (Literal.string s) = "''" :=
  (Text.quoted_outline (Reading.toList_string s) fun _ => Reading.ne_quote_of_mem_body).2

private theorem Reading.Numeric.closed {s : String} (h : Reading.Numeric s.toList) : Closed s := by
  have plain : ∀ c ∈ Reading.numberChars, c ≠ '\'' := Reading.forall_mem_of_all (by decide)
  exact Quoteless.closed fun c member => plain c (h.chars c member)

private theorem closed_float (h : d.Closes) {p : Precision} (x : Binary p) :
    Closed (Literal.float d x) := by
  rw [Literal.float]
  split
  · exact (Reading.numeric_finite _ _ _ _ _).closed
  · exact h.infinity _
  · exact h.notNumber

private theorem closed_null : Closed "null" := by decide

private theorem closed_boolean (b : Bool) : Closed (if b then "true" else "false") := by
  cases b <;> decide

theorem closed_literal (h : d.Closes) (v : Value) : Closed (d.literal v) := by
  cases v with
  | null => exact closed_null
  | list items element =>
    cases items with
    | none => exact closed_null
    | some vs => rfl
  | scalar kind payload =>
    cases payload with
    | none => exact closed_null
    | some x =>
      cases kind with
      | blob => exact h.blob x
      | boolean => exact closed_boolean x
      | int16 | int32 | int64 => exact (Reading.numeric_intText _).closed
      | float32 | float64 => exact closed_float h x
      | decimal => exact (Reading.numeric_decimal x).closed
      | varchar | date | time | timestamp | zonedTimestamp | interval | zonedClock | uuid =>
        exact closed_string _

end Literals

/-! ### Values without the content of their texts -/

mutual
/-- A value with empty texts in place of its texts. -/
def Value.outline : Value → Value
  | .scalar .varchar (some _) => .text ""
  | .list (some vs) e => .list (some (Value.outlines vs)) e.outline
  | .list none e => .list none e.outline
  | v => v

/-- Values with empty texts in place of their texts. -/
def Value.outlines : List Value → List Value
  | [] => []
  | v :: vs => v.outline :: Value.outlines vs
end

theorem Value.outlines_eq_map (vs : List Value) : outlines vs = vs.map outline := by
  induction vs with
  | nil => rfl
  | cons v vs ih => rw [outlines, ih, List.map_cons]

/-- A value is a text, a list, or its own outline. -/
theorem Value.outline_cases (v : Value) :
    (∃ s, v = .text s ∧ v.outline = .text "") ∨
    (∃ vs e, v = .list (some vs) e ∧ v.outline = .list (some (vs.map outline)) e.outline) ∨
    (∃ e, v = .list none e ∧ v.outline = .list none e.outline) ∨
    v.outline = v := by
  cases v with
  | null => exact .inr (.inr (.inr rfl))
  | list items e =>
    cases items with
    | none => exact .inr (.inr (.inl ⟨e, rfl, rfl⟩))
    | some vs => exact .inr (.inl ⟨vs, e, rfl, by rw [outline, outlines_eq_map]⟩)
  | scalar kind payload =>
    cases payload with
    | none => exact .inr (.inr (.inr (by cases kind <;> rfl)))
    | some x =>
      cases kind with
      | varchar => exact .inl ⟨x, rfl, rfl⟩
      | _ => exact .inr (.inr (.inr rfl))

theorem Value.outline_scalar (kind : Kind) (payload : Option kind.Payload) :
    ∃ x, (Value.scalar kind payload).outline = .scalar kind x := by
  cases payload with
  | none => exact ⟨none, by cases kind <;> rfl⟩
  | some x =>
    cases kind with
    | varchar => exact ⟨some "", rfl⟩
    | _ => exact ⟨some x, rfl⟩

@[simp] theorem Value.isNull_outline (v : Value) : v.outline.isNull = v.isNull := by
  rcases v.outline_cases with ⟨s, rfl, -⟩ | ⟨vs, e, rfl, -⟩ | ⟨e, rfl, -⟩ | same
  · rfl
  · rfl
  · rfl
  · rw [same]

/-- The literal of a value has the outline of that of the value without its texts. -/
theorem alike_literal {d : Dialect} (h : d.Closes) (v : Value) :
    Alike (d.literal v) (d.literal v.outline) := by
  rcases v.outline_cases with ⟨s, rfl, -⟩ | ⟨vs, e, rfl, -⟩ | ⟨e, rfl, -⟩ | same
  · exact ⟨closed_string s, closed_string "", (outline_string s).trans (outline_string "").symm⟩
  · exact .refl (closed_literal h (.list (some vs) e))
  · exact .refl closed_null
  · rw [same]
    exact .refl (closed_literal h v)

/-! ### Filters without the content of their texts -/

def Condition.outline : Condition → Condition
  | .value v => .value v.outline
  | .anyOf vs => .anyOf (vs.map Value.outline)
  | .compare op v => .compare op v.outline

namespace Filter

def outlineColumns (columns : List (String × Option Condition)) :
    List (String × Option Condition) :=
  columns.map fun c => (c.1, c.2.map Condition.outline)

mutual
/-- A filter with empty texts in place of its texts. -/
def outline : Filter → Filter
  | .mk columns groups => .mk (outlineColumns columns) (outlineGroups groups)

def outlineGroups : List (Operator × List Filter) → List (Operator × List Filter)
  | [] => []
  | (op, members) :: groups => (op, outlineMembers members) :: outlineGroups groups

def outlineMembers : List Filter → List Filter
  | [] => []
  | f :: fs => outline f :: outlineMembers fs
end

end Filter

/-! ### Predicates -/

theorem forall₂_toList {R : String → String → Prop} {s t : Option String} (h : Option.Rel R s t) :
    List.Forall₂ R s.toList t.toList := by
  cases h with
  | none => exact .nil
  | some same => exact .cons same .nil

theorem rel_map {R : String → String → Prop} {s t : Option String} (h : Option.Rel R s t)
    {f : String → String} (kept : ∀ {a b}, R a b → R (f a) (f b)) :
    Option.Rel R (s.map f) (t.map f) := by
  cases h with
  | none => exact .none
  | some same => exact .some (kept same)

namespace Congruence

variable {R : String → String → Prop} {ss ts : List String}

private theorem enclosed (hR : Congruence R) {separator : String} (closed : Closed separator)
    (h : List.Forall₂ R ss ts) :
    R (Predicate.enclosed (Text.joined separator ss))
      (Predicate.enclosed (Text.joined separator ts)) :=
  hR.between (by decide) (by decide) (hR.joined closed h)

theorem enclosedAll (hR : Congruence R) {separator : String} (closed : Closed separator)
    (h : List.Forall₂ R ss ts) :
    Option.Rel R (Predicate.enclosedAll separator ss) (Predicate.enclosedAll separator ts) := by
  cases h with
  | nil => exact .none
  | cons first others => exact .some (hR.enclosed closed (.cons first others))

theorem conjunction (hR : Congruence R) (h : List.Forall₂ R ss ts) :
    Option.Rel R (Predicate.conjunction ss) (Predicate.conjunction ts) := by
  cases h with
  | nil => exact .none
  | cons first others =>
    cases others with
    | nil => exact .some first
    | cons second rest => exact .some (hR.enclosed (by decide) (.cons first (.cons second rest)))

end Congruence

private theorem closed_token (op : Operator) : Closed op.token := by
  cases op <;> decide

theorem closed_identifier {name : String} (h : Quoteless name) :
    Closed (Literal.identifier name) := by
  refine Quoteless.closed fun c member => ?_
  rw [Literal.identifier, String.toList_ofList] at member
  rcases List.mem_cons.mp member with rfl | member
  · decide
  · rcases List.mem_append.mp member with member | member
    · obtain ⟨d, within, replaced⟩ := List.mem_flatMap.mp member
      split at replaced
      · simp only [List.mem_cons, List.not_mem_nil, or_false, or_self] at replaced
        rw [replaced]
        decide
      · rw [List.mem_singleton.mp replaced]
        exact h d within
    · rw [List.mem_singleton.mp member]
      decide

namespace Predicate

variable {d : Dialect} {region : Region}

private theorem closed_column {name : String} (h : Quoteless name) :
    Closed ((Clause.column name).write (.literals region)).1 := by
  simp only [Clause.column]
  split
  · exact closed_identifier h
  · exact h.closed

private theorem alike_comparison (h : d.Closes) {name : String} (plain : Quoteless name)
    (op : Operator) (v : Value) :
    Option.Rel Alike ((comparison d name op v).write (.literals region)).1
      ((comparison d name op v.outline).write (.literals region)).1 := by
  have literal := alike_literal h v
  have name_closed : Closed ((Clause.column name).write (.literals region)).1 :=
    closed_column plain
  simp only [comparison, Clause.value, WriteContext.literals, Bool.false_and, Bool.false_eq_true,
    if_false, congruence_alike.empty literal]
  split
  · exact .none
  · have front := (((name_closed.append (by decide : Closed " ")).append
      (closed_token op)).append (by decide : Closed " "))
    exact .some (congruence_alike.append (.refl front) literal)

private theorem alike_equality (h : d.Closes) {name : String} (plain : Quoteless name)
    (v : Value) :
    Option.Rel Alike ((equality d name v).write (.literals region)).1
      ((equality d name v.outline).write (.literals region)).1 := by
  simp only [equality, Value.isNull_outline]
  split
  · exact .some (.refl ((closed_column plain).append (by decide)))
  · exact alike_comparison h plain .equals v

private theorem alike_equalities (h : d.Closes) {name : String} (plain : Quoteless name)
    (vs : List Value) :
    List.Forall₂ Alike (writeAll (vs.map (equality d name)) (.literals region)).1
      (writeAll ((vs.map Value.outline).map (equality d name)) (.literals region)).1 := by
  induction vs with
  | nil => exact .nil
  | cons v vs ih =>
    simp only [List.map_cons, writeAll, (steady_equality d name _).after]
    exact List.rel_append (forall₂_toList (alike_equality h plain v)) ih

private theorem alike_anyOf (h : d.Closes) {name : String} (plain : Quoteless name)
    (vs : List Value) :
    Option.Rel Alike ((anyOf d name vs).write (.literals region)).1
      ((anyOf d name (vs.map Value.outline)).write (.literals region)).1 :=
  congruence_alike.enclosedAll (by decide) (alike_equalities h plain vs)

private theorem alike_condition (h : d.Closes) {name : String} (plain : Quoteless name)
    (k : Condition) :
    Option.Rel Alike ((condition d name k).write (.literals region)).1
      ((condition d name k.outline).write (.literals region)).1 := by
  cases k with
  | anyOf vs => exact alike_anyOf h plain vs
  | compare op v => exact alike_comparison h plain op v
  | value v =>
    cases v with
    | null => exact alike_equality h plain .null
    | list items e =>
      cases items with
      | none => exact alike_equality h plain (.list none e)
      | some vs =>
        rw [Condition.outline, Value.outline, Value.outlines_eq_map]
        exact alike_anyOf h plain vs
    | scalar kind payload =>
      obtain ⟨x, same⟩ := Value.outline_scalar kind payload
      have inner : condition d name (.value (Value.scalar kind payload).outline) =
          equality d name (Value.scalar kind payload).outline := by
        rw [same]
        rfl
      rw [Condition.outline, inner]
      exact alike_equality h plain (.scalar kind payload)

private theorem alike_columns (h : d.Closes) {columns : List (String × Option Condition)}
    (plain : ∀ name ∈ columns.map Prod.fst, Quoteless name) :
    List.Forall₂ Alike (writeColumns d columns (.literals region)).1
      (writeColumns d (Filter.outlineColumns columns) (.literals region)).1 := by
  induction columns with
  | nil => exact .nil
  | cons p columns ih =>
    obtain ⟨first, others⟩ := List.forall_mem_cons.mp plain
    obtain ⟨name, k | k⟩ := p
    · exact ih others
    · simp only [Filter.outlineColumns, List.map_cons, Option.map_some, writeColumns,
        (steady_condition d name _).after]
      exact List.rel_append (forall₂_toList (alike_condition h first k)) (ih others)

mutual
/-- The predicate of a filter has the outline of that of the filter without its texts. -/
theorem alike_filter (h : d.Closes) (f : Filter) (plain : ∀ name ∈ f.names, Quoteless name) :
    Option.Rel Alike (writeFilter d f (.literals region)).1
      (writeFilter d f.outline (.literals region)).1 := by
  match f, plain with
  | .mk columns groups, plain =>
    obtain ⟨own, inner⟩ := List.forall_mem_append.mp plain
    simp only [Filter.outline, writeFilter, (steady_columns d _).after]
    exact congruence_alike.conjunction
      (List.rel_append (alike_columns h own) (alike_groups h groups inner))

theorem alike_groups (h : d.Closes) (groups : List (Operator × List Filter))
    (plain : ∀ name ∈ Filter.namesInGroups groups, Quoteless name) :
    List.Forall₂ Alike (writeGroups d groups (.literals region)).1
      (writeGroups d (Filter.outlineGroups groups) (.literals region)).1 := by
  match groups, plain with
  | [], _ => exact .nil
  | (op, members) :: groups, plain =>
    obtain ⟨own, others⟩ := List.forall_mem_append.mp plain
    have separator : Closed (" " ++ op.token ++ " ") :=
      ((by decide : Closed " ").append (closed_token op)).append (by decide)
    simp only [Filter.outlineGroups, writeGroups, (steady_members d _).after]
    exact List.rel_append
      (forall₂_toList (congruence_alike.enclosedAll separator (alike_members h members own)))
      (alike_groups h groups others)

theorem alike_members (h : d.Closes) (members : List Filter)
    (plain : ∀ name ∈ Filter.namesInMembers members, Quoteless name) :
    List.Forall₂ Alike (writeMembers d members (.literals region)).1
      (writeMembers d (Filter.outlineMembers members) (.literals region)).1 := by
  match members, plain with
  | [], _ => exact .nil
  | f :: fs, plain =>
    obtain ⟨own, others⟩ := List.forall_mem_append.mp plain
    simp only [Filter.outlineMembers, writeMembers, (steady_filter d _).after]
    exact List.rel_append (forall₂_toList (alike_filter h f own)) (alike_members h fs others)
end

end Predicate

end TableAccess
