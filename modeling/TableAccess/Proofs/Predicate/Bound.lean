import TableAccess.Proofs.Predicate.Contents
import TableAccess.Proofs.Predicate.Inline
import TableAccess.Proofs.Predicate.Places

/-!
Filters with their values bound as parameters.

The values that are compared are bound one after another, each in the place that is written for
it, and the literals of the parameters in their places give the text that is written where values
are not bound. Both texts are followed part by part, at whatever number of parameters a part
starts.
-/

set_option autoImplicit false
set_option relaxedAutoImplicit false

namespace TableAccess

/-- The context with values bound as its next parameters. -/
def WriteContext.bindAll (c : WriteContext) (vs : List Value) : WriteContext :=
  { c with parameters := c.parameters ++ vs.map Clause.parameterOf }

/-- The places of the next parameters. -/
def WriteContext.nextPlaces (c : WriteContext) (n : Nat) : List String :=
  (List.range' (c.count + 1) n).map Clause.placeholder

/-- The literal of a parameter by its number. -/
def Dialect.operand (d : Dialect) (parameters : List Value) (n : Nat) : String :=
  d.literal (parameters.getD (n - 1) .null)

variable {s t : String} {operand : Nat → String}

private theorem separates_close : Separates ")" := ⟨by decide, by decide, by decide⟩

private theorem places_enclosed (s : String) : places (Predicate.enclosed s) = places s := by
  have opening : Dollarless "(" := by decide
  rw [Predicate.enclosed, String.append_assoc, places_dollarless opening,
    places_append separates_close.ends, places_eq_nil separates_close.dollarless, List.append_nil]

private theorem fill_enclosed (s : String) :
    fill operand (Predicate.enclosed s) = Predicate.enclosed (fill operand s) := by
  have opening : Dollarless "(" := by decide
  rw [Predicate.enclosed, Predicate.enclosed, String.append_assoc, fill_dollarless opening,
    fill_append separates_close.ends, fill_eq_self separates_close.dollarless, String.append_assoc]

private theorem solid_enclosed (s : String) : Solid (Predicate.enclosed s) := by
  rw [Predicate.enclosed, String.append_assoc]
  exact solid_append (by decide) (by decide) _

/-! ### Parts gathered into one -/

/-- A way to make one text of several, or none, that only adds what separates them. -/
structure Gathers (gather : List String → Option String) : Prop where
  places : ∀ ss, (gather ss).toList.flatMap places = ss.flatMap places
  solid : ∀ ss, (∀ s ∈ ss, Solid s) → ∀ s ∈ gather ss, Solid s
  fill : ∀ operand ss, (∀ s ∈ ss, Solid s) →
    (gather ss).map (fill operand) = gather (ss.map (fill operand))

private theorem gathers_enclosedAll {separator : String} (separates : Separates separator) :
    Gathers (Predicate.enclosedAll separator) where
  places ss := by
    cases ss with
    | nil => rfl
    | cons s ss =>
      change [Predicate.enclosed (Text.joined separator (s :: ss))].flatMap places = _
      rw [List.flatMap_singleton, places_enclosed, places_joined separates]
  solid ss _ := by
    cases ss with
    | nil => exact fun _ impossible => nomatch impossible
    | cons s ss =>
      rintro _ ⟨⟩
      exact solid_enclosed _
  fill operand ss solid := by
    cases ss with
    | nil => rfl
    | cons s ss =>
      refine congrArg some ?_
      rw [fill_enclosed, fill_joined separates solid]

private theorem gathers_conjunction : Gathers Predicate.conjunction := by
  have several := gathers_enclosedAll
    (⟨by decide, by decide, by decide⟩ : Separates " AND ")
  refine ⟨fun ss => ?_, fun ss solid => ?_, fun operand ss solid => ?_⟩
  · match ss with
    | [] | [_] => rfl
    | s :: t :: ss => exact several.places (s :: t :: ss)
  · match ss with
    | [] => exact fun _ impossible => nomatch impossible
    | [s] =>
      rintro _ ⟨⟩
      exact solid s List.mem_cons_self
    | s :: t :: ss => exact several.solid (s :: t :: ss) solid
  · match ss with
    | [] | [_] => rfl
    | s :: t :: ss => exact several.fill operand (s :: t :: ss) solid

/-! ### Bound and inline texts -/

/-- Texts written after a context with some values bound, and those written for literals. -/
structure Agrees (d : Dialect) (c : WriteContext) (vs : List Value)
    (bound : List String × WriteContext) (inline : List String) : Prop where
  context : bound.2 = c.bindAll vs
  places : bound.1.flatMap places = c.nextPlaces vs.length
  solid : ∀ s ∈ bound.1, Solid s
  fills : (∀ v ∈ vs, d.literal v ≠ "") → ∀ ps, bound.2.parameters <+: ps →
    bound.1.map (fill (d.operand ps)) = inline

variable {d : Dialect} {c : WriteContext} {vs ws : List Value}
  {x y : List String × WriteContext} {xs ys : List String}

private theorem bindAll_append (c : WriteContext) (vs ws : List Value) :
    c.bindAll (vs ++ ws) = (c.bindAll vs).bindAll ws := by
  simp only [WriteContext.bindAll, List.map_append, List.append_assoc]

private theorem nextPlaces_append (c : WriteContext) (vs ws : List Value) :
    c.nextPlaces (vs ++ ws).length =
      c.nextPlaces vs.length ++ (c.bindAll vs).nextPlaces ws.length := by
  have count : (c.bindAll vs).count + 1 = c.count + 1 + 1 * vs.length := by
    simp only [WriteContext.count, WriteContext.bindAll, List.length_append, List.length_map]
    omega
  simp only [WriteContext.nextPlaces, count]
  rw [List.length_append, ← List.map_append, List.range'_append]

namespace Agrees

theorem nil (d : Dialect) (c : WriteContext) : Agrees d c [] ([], c) [] := by
  refine ⟨?_, rfl, List.forall_mem_nil _, fun _ _ _ => rfl⟩
  rw [WriteContext.bindAll, List.map_nil, List.append_nil]

theorem append (h : Agrees d c vs x xs) (k : Agrees d (c.bindAll vs) ws y ys) :
    Agrees d c (vs ++ ws) (x.1 ++ y.1, y.2) (xs ++ ys) := by
  refine ⟨?_, ?_, List.forall_mem_append.mpr ⟨h.solid, k.solid⟩, ?_⟩
  · rw [bindAll_append]
    exact k.context
  · rw [List.flatMap_append, h.places, k.places, nextPlaces_append]
  · intro texts ps before
    obtain ⟨left, right⟩ := List.forall_mem_append.mp texts
    have start : x.2.parameters <+: y.2.parameters := by
      rw [h.context, k.context]
      exact List.prefix_append _ _
    rw [List.map_append, h.fills left ps (start.trans before), k.fills right ps before]

theorem gather (h : Agrees d c vs x xs) {gather : List String → Option String}
    (gathers : Gathers gather) :
    Agrees d c vs ((gather x.1).toList, x.2) (gather xs).toList := by
  refine ⟨h.context, (gathers.places _).trans h.places, ?_, fun texts ps before => ?_⟩
  · intro s member
    exact gathers.solid x.1 h.solid s (Option.mem_toList.mp member)
  · rw [← h.fills texts ps before, ← gathers.fill _ _ h.solid, Option.toList_map]

end Agrees

/-! ### Conditions -/

/-- A part that may be left out, as a list of texts. -/
def Predicate.texts (p : Predicate) (c : WriteContext) : List String × WriteContext :=
  ((p.write c).1.toList, (p.write c).2)

/-- Whatever has been bound before, some values are bound where literals would be written. -/
def Binds (d : Dialect) (vs : List Value) (write : WriteContext → List String × WriteContext) :
    Prop :=
  ∀ c, c.parameterized = true → Agrees d c vs (write c) (write (.literals c.region)).1

theorem Binds.nil : Binds d [] fun c => ([], c) := fun c _ => .nil d c

theorem Binds.append {a b : WriteContext → List String × WriteContext} (h : Binds d vs a)
    (k : Binds d ws b) (steady : Steady a) :
    Binds d (vs ++ ws) fun c => ((a c).1 ++ (b (a c).2).1, (b (a c).2).2) := by
  intro c bound
  have first := h c bound
  have unchanged : (a (.literals c.region)).2 = .literals c.region := by
    rw [steady _ rfl]
  have second : Agrees d (c.bindAll vs) ws (b (a c).2) (b (a (.literals c.region)).2).1 := by
    rw [first.context, unchanged]
    exact k (c.bindAll vs) bound
  exact first.append second

theorem Binds.gather {a : WriteContext → List String × WriteContext} (h : Binds d vs a)
    {gather : List String → Option String} (gathers : Gathers gather) :
    Binds d vs fun c => ((gather (a c).1).toList, (a c).2) :=
  fun c bound => (h c bound).gather gathers

private theorem dollarless_column {column : String} (h : Dollarless column) (c : WriteContext) :
    Dollarless ((Clause.column column).write c).1 := by
  simp only [Clause.column]
  split
  · rw [Literal.identifier, Dollarless, String.toList_ofList]
    intro member
    rcases List.mem_append.mp (List.mem_of_ne_of_mem (by decide) member) with inside | last
    · obtain ⟨c, found, same⟩ := List.mem_flatMap.mp inside
      split at same
      · exact absurd same (by decide)
      · rw [List.mem_singleton] at same
        exact h (same ▸ found)
    · exact absurd last (by decide)
  · exact h

private theorem dollarless_token (op : Operator) : Dollarless op.token := by
  cases op <;> decide

/-- A text without a place binds nothing. -/
private theorem agrees_plain (nonempty : s ≠ "") (dollarless : Dollarless s) :
    Agrees d c [] ([s], c) [s] := by
  have solid := solid_append nonempty dollarless ""
  rw [String.append_empty] at solid
  refine ⟨(Agrees.nil d c).context, ?_, List.forall_mem_singleton.mpr solid, fun _ _ _ => ?_⟩
  · rw [List.flatMap_singleton, places_eq_nil dollarless]
    rfl
  · rw [List.map_singleton, fill_eq_self dollarless]

/-- A parameter has the literal of the value that it carries, if that has one. -/
private theorem literal_parameterOf {v : Value} (text : d.literal v ≠ "") :
    d.literal (Clause.parameterOf v) = d.literal v := by
  rw [Clause.parameterOf.eq_def]
  split
  · rfl
  · exact absurd rfl text
  · rfl

/-- A place after a text stands for the literal of the value that is bound in it. -/
private theorem agrees_place (nonempty : s ≠ "") (dollarless : Dollarless s) (v : Value) :
    Agrees d c [v] ([s ++ Clause.placeholder (c.count + 1)], c.bind (Clause.parameterOf v))
      (if d.literal v = "" then [] else [s ++ d.literal v]) := by
  refine ⟨rfl, ?_, List.forall_mem_singleton.mpr (solid_append nonempty dollarless _),
    fun texts ps before => ?_⟩
  · rw [List.flatMap_singleton, places_dollarless dollarless, places_placeholder]
    rfl
  · have text : d.literal v ≠ "" := texts v List.mem_cons_self
    have bound : ps.getD c.count .null = Clause.parameterOf v := by
      obtain ⟨later, rfl⟩ := before
      simp [WriteContext.bind, WriteContext.count]
    rw [List.map_singleton, fill_dollarless dollarless, fill_placeholder, Dialect.operand,
      Nat.add_sub_cancel, bound, literal_parameterOf text, if_neg text]

theorem literal_null {v : Value} (null : v.isNull = true) : d.literal v = "null" := by
  cases v with
  | null => rfl
  | scalar kind payload =>
    cases payload with
    | none => rfl
    | some x => cases null
  | list items element =>
    cases items with
    | none => rfl
    | some vs => cases null

private theorem binds_comparison {column : String} (h : Dollarless column) (op : Operator)
    (v : Value) : Binds d (Value.present [v]) (Predicate.comparison d column op v).texts := by
  intro c bound
  let shown := ((Clause.column column).write c).1 ++ " " ++ op.token ++ " "
  have blank : Dollarless " " := by decide
  have dollarless : Dollarless shown :=
    dollarless_append (dollarless_append (dollarless_append (dollarless_column h c) blank)
      (dollarless_token op)) blank
  have nonempty : shown ≠ "" := by
    simp [shown]
  cases null : v.isNull with
  | true =>
    -- A null is never bound: it is written in both texts, and neither has a place for it.
    have unlike : ¬ "null" = "" := by decide
    have written (e : WriteContext) : (Predicate.comparison d column op v).texts e =
        ([((Clause.column column).write e).1 ++ " " ++ op.token ++ " " ++ "null"], e) := by
      simp only [Predicate.texts, Predicate.comparison, Clause.value, null, Bool.not_true,
        Bool.and_false, Bool.false_eq_true, if_false, literal_null null, if_neg unlike]
      rfl
    have plain : Dollarless (shown ++ "null") := dollarless_append dollarless (by decide)
    rw [Value.present_null null, written, written]
    exact agrees_plain (by simp) plain
  | false =>
    have filled : ¬ Clause.placeholder (c.count + 1) = "" := by
      simp [Clause.placeholder]
    have count : (c.bind (Clause.parameterOf v)).count = c.count + 1 := by
      simp [WriteContext.bind, WriteContext.count]
    have written : (Predicate.comparison d column op v).texts c =
        ([shown ++ Clause.placeholder (c.count + 1)], c.bind (Clause.parameterOf v)) := by
      simp only [Predicate.texts, Predicate.comparison, Clause.value, null, bound, Bool.not_false,
        Bool.and_self, if_true, Clause.parameter, count, if_neg filled]
      rfl
    have literal : ((Predicate.comparison d column op v).texts (.literals c.region)).1 =
        if d.literal v = "" then [] else [shown ++ d.literal v] := by
      simp only [Predicate.texts, Predicate.comparison, Clause.value, WriteContext.literals,
        Bool.false_and, Bool.false_eq_true, if_false]
      split <;> rfl
    rw [Value.present_held null, written, literal]
    exact agrees_place nonempty dollarless v

private theorem binds_equality {column : String} (h : Dollarless column) (v : Value) :
    Binds d (Value.present [v]) (Predicate.equality d column v).texts := by
  rw [Predicate.equality]
  split
  · next null =>
    intro c _
    rw [Value.present_null null]
    have plain := dollarless_append (dollarless_column h c) (by decide : Dollarless " IS null")
    exact agrees_plain (by simp) plain
  · exact binds_comparison h .equals v

private theorem binds_anyOf {column : String} (h : Dollarless column) (vs : List Value) :
    Binds d (Value.present vs) (Predicate.anyOf d column vs).texts := by
  have all : Binds d (Value.present vs)
      (Predicate.writeAll (vs.map (Predicate.equality d column))) := by
    induction vs with
    | nil => exact .nil
    | cons v vs ih =>
      have split : Value.present (v :: vs) = Value.present [v] ++ Value.present vs :=
        List.filter_append [v] vs
      rw [split]
      exact (binds_equality h v).append ih ((Predicate.steady_equality d column v).map _)
  exact all.gather (gathers_enclosedAll ⟨by decide, by decide, by decide⟩)

private theorem binds_condition {column : String} (h : Dollarless column) (k : Condition) :
    Binds d k.compared (Predicate.condition d column k).texts := by
  cases k with
  | anyOf vs => exact binds_anyOf h vs
  | compare op v => exact binds_comparison h op v
  | value v =>
    cases v with
    | null => exact binds_equality h .null
    | scalar kind payload => exact binds_equality h (.scalar kind payload)
    | list items element =>
      cases items with
      | none => exact binds_equality h (.list none element)
      | some vs => exact binds_anyOf h vs

private theorem binds_columns {columns : List (String × Option Condition)}
    (h : ∀ name ∈ columns.map Prod.fst, Dollarless name) :
    Binds d (Filter.comparedInColumns columns) (Predicate.writeColumns d columns) := by
  induction columns with
  | nil => exact .nil
  | cons p columns ih =>
    obtain ⟨column, condition⟩ := p
    obtain ⟨name, later⟩ := List.forall_mem_cons.mp h
    cases condition with
    | none => exact ih later
    | some k =>
      exact (binds_condition name k).append (ih later)
        ((Predicate.steady_condition d column k).map _)

/-! ### Filters -/

private theorem separates_operator (op : Operator) : Separates (" " ++ op.token ++ " ") := by
  have blank : Dollarless " " := by decide
  refine ⟨by simp, ?_, dollarless_append (dollarless_append blank (dollarless_token op)) blank⟩
  rw [String.append_assoc]
  exact endsPlace_append (by decide) (by decide) _

mutual
private theorem binds_filter (f : Filter) (h : ∀ name ∈ f.names, Dollarless name) :
    Binds d f.compared fun c =>
      ((Predicate.writeFilter d f c).1.toList, (Predicate.writeFilter d f c).2) := by
  match f, h with
  | .mk columns groups, h =>
    rw [Filter.names, List.forall_mem_append] at h
    rw [Filter.compared]
    have all := (binds_columns h.1).append (binds_groups groups h.2)
      (Predicate.steady_columns d columns)
    exact all.gather gathers_conjunction

private theorem binds_groups (groups : List (Operator × List Filter))
    (h : ∀ name ∈ Filter.namesInGroups groups, Dollarless name) :
    Binds d (Filter.comparedInGroups groups) (Predicate.writeGroups d groups) := by
  match groups, h with
  | [], _ =>
    rw [Filter.comparedInGroups]
    exact .nil
  | (op, members) :: groups, h =>
    rw [Filter.namesInGroups, List.forall_mem_append] at h
    rw [Filter.comparedInGroups]
    have group := (binds_members members h.1).gather (gathers_enclosedAll (separates_operator op))
    have steady := (Predicate.steady_members d members).map fun ms =>
      (Predicate.enclosedAll (" " ++ op.token ++ " ") ms).toList
    exact group.append (binds_groups groups h.2) steady

private theorem binds_members (members : List Filter)
    (h : ∀ name ∈ Filter.namesInMembers members, Dollarless name) :
    Binds d (Filter.comparedInMembers members) (Predicate.writeMembers d members) := by
  match members, h with
  | [], _ =>
    rw [Filter.comparedInMembers]
    exact .nil
  | f :: fs, h =>
    rw [Filter.namesInMembers, List.forall_mem_append] at h
    rw [Filter.comparedInMembers]
    exact (binds_filter f h.1).append (binds_members fs h.2) ((Predicate.steady_filter d f).map _)
end

private theorem places_getD (text : Option String) :
    places (text.getD "") = text.toList.flatMap places := by
  cases text with
  | none => rfl
  | some s => exact (List.flatMap_singleton places s).symm

/-- Where values are bound, a filter binds exactly the values that it compares columns with and that
are not null, one after another behind the parameters before it, and the places in its text are
those of these parameters in order. Where values are written as literals it binds none. When all
these values have literals, the literals of the parameters in their places give the text that is
written for literals. -/
theorem bound_filter_filled (d : Dialect) (f : Filter) (h : ∀ name ∈ f.names, Dollarless name)
    (c : WriteContext) (binding : c.parameterized = true) :
    let vs := f.compared
    let bound := (Predicate.filter d f).write c
    let literals : WriteContext := { c with parameterized := false }
    let inline := (Predicate.filter d f).write literals
    bound.2 = { c with parameters := c.parameters ++ vs.map Clause.parameterOf } ∧
    places (bound.1.getD "") =
      (List.range' (c.parameters.length + 1) vs.length).map Clause.placeholder ∧
    inline.2 = literals ∧
    ((∀ v ∈ vs, d.literal v ≠ "") →
      bound.1.map (fill (d.operand bound.2.parameters)) = inline.1) := by
  intro vs bound literals inline
  have steady : inline = _ := Predicate.steady_filter d f literals rfl
  obtain ⟨context, placed, -, fills⟩ := binds_filter (d := d) f h c binding
  refine ⟨context, (places_getD bound.1).trans placed, congrArg Prod.snd steady,
    fun present => ?_⟩
  have texts := fills present bound.2.parameters (List.prefix_refl _)
  rw [← Option.toList_map] at texts
  have same := congrArg List.head? texts
  rw [Option.head?_toList, Option.head?_toList] at same
  exact same.trans (congrArg Prod.fst steady).symm

/-- A filter with a dollar sign in a text, an interval, and a group with a null and a filter of
which nothing is left. -/
def lateFilter : Filter :=
  ((Filter.empty.eq "route" (.text "A$9")).compare "delay" .greaterThan
      (.scalar .interval (some (.ofClock 0 5 0)))).or
    [Filter.empty.anyOf "stop" [.integer 4, .null], Filter.empty.maybe "note" none]

theorem lateFilter_filled :
    (∀ name ∈ lateFilter.names, Dollarless name) ∧
    (∀ v ∈ lateFilter.compared, Dialect.postgres.literal v ≠ "") ∧
    let c : WriteContext := ⟨.condition, true, [.null]⟩
    let s := "(route = $2 AND delay > $3 AND ((stop = $4 OR stop IS null)))"
    c.parameterized = true ∧ ((Predicate.filter .postgres lateFilter).write c).1 = some s ∧
      places s = ["$2", "$3", "$4"] ∧
      fill (Dialect.postgres.operand [.null, .text "A$9", .text "00:05:00", .integer 4]) s =
        "(route = 'A$9' AND delay > '00:05:00' AND ((stop = 4 OR stop IS null)))" := by
  have names : ∀ name ∈ lateFilter.names, Dollarless name := by decide +kernel
  have present : ∀ v ∈ lateFilter.compared, Dialect.postgres.literal v ≠ "" := by
    decide +kernel
  refine ⟨names, present, ?_⟩
  intro c s
  have written : ((Predicate.filter .postgres lateFilter).write c).1 = some s := by
    decide +kernel
  obtain ⟨after, placed, -, filled⟩ :=
    bound_filter_filled .postgres lateFilter names c rfl
  have clock : (Interval.ofClock 0 5 0).text = "00:05:00" := by decide +kernel
  have parameters : ((Predicate.filter .postgres lateFilter).write c).2.parameters =
      [.null, .text "A$9", .text "00:05:00", .integer 4] := by
    rw [after, ← clock]
    rfl
  have inline : ((Predicate.filter .postgres lateFilter).write
      { c with parameterized := false }).1 =
        some "(route = 'A$9' AND delay > '00:05:00' AND ((stop = 4 OR stop IS null)))" := by
    decide +kernel
  have same := filled present
  rw [parameters, inline, written, Option.map_some] at same
  refine ⟨rfl, written, ?_, Option.some.inj same⟩
  rw [written] at placed
  exact placed.trans (by decide +kernel)

end TableAccess
