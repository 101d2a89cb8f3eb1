import TableAccess.Proofs.Statement.Operations

/-!
Texts have no part in the structure of statements.

Operations that differ in the content of texts only send statements that differ between single
quotes only. What an insertion or an update writes and the words of a search do not show in the
text of a statement at all.
-/

set_option autoImplicit false
set_option relaxedAutoImplicit false

namespace TableAccess

open Text (Alike Quoteless)
open Predicate (FiltersParallel)
open Statement (TableWritable PassWritable)

variable {S T α : Type}

/-! ### Pairs of operations -/

/-- Columns with empty texts in place of their texts. -/
def Fields.outline (f : Fields) : Fields := ⟨f.entries.map fun e => (e.1, e.2.outline)⟩

/-- Clauses with empty texts in place of the texts of their filter. -/
def Clauses.outline (o : Clauses) : Clauses := { o with filter := o.filter.map Filter.outline }

namespace Operation

/-- The operations are the same but for the content of texts and for the words that are searched,
of which there are as many. -/
def SameShape : Operation → Operation → Prop
  | .find o, .find o' => o.outline = o'.outline
  | .findOne o, .findOne o' => o.outline = o'.outline
  | .create fields columns, .create fields' columns' =>
    fields.map Fields.outline = fields'.map Fields.outline ∧ columns = columns'
  | .update filter fields columns, .update filter' fields' columns' =>
    filter.map Filter.outline = filter'.map Filter.outline ∧
      fields.map Fields.outline = fields'.map Fields.outline ∧ columns = columns'
  | .updateById id fields columns, .updateById id' fields' columns' =>
    id = id' ∧ fields.map Fields.outline = fields'.map Fields.outline ∧ columns = columns'
  | .search query columns o, .search query' columns' o' =>
    (Text.words query).length = (Text.words query').length ∧ columns = columns' ∧
      o.outline = o'.outline
  | .createMany item count columns, .createMany item' count' columns' =>
    item.map Fields.outline = item'.map Fields.outline ∧ count = count' ∧ columns = columns'
  | _, _ => False

/-- The operations are the same but for the values of the columns that they write, or for the
words that they search, of which there are as many. -/
def SameButBound : Operation → Operation → Prop
  | .create fields columns, .create fields' columns' =>
    fields.map Fields.columns = fields'.map Fields.columns ∧ columns = columns'
  | .update filter fields columns, .update filter' fields' columns' =>
    filter = filter' ∧ fields.map Fields.columns = fields'.map Fields.columns ∧
      columns = columns'
  | .updateById id fields columns, .updateById id' fields' columns' =>
    id = id' ∧ fields.map Fields.columns = fields'.map Fields.columns ∧ columns = columns'
  | .search query columns o, .search query' columns' o' =>
    (Text.words query).length = (Text.words query').length ∧ columns = columns' ∧ o = o'
  | _, _ => False

/-- The names of the columns of a filter, if there is one. -/
def filterNames (f : Option Filter) : List String := (f.map Filter.names).getD []

def orderNames (order : Option Ordering) : List String := (order.getD []).map Prod.fst

def fieldNames (fields : Option Fields) : List String := (fields.map Fields.columns).getD []

/-- The names that stand in the statements of an operation. -/
def names (r : FullRepository α) (a : Operation) : List String :=
  r.table.schema :: r.table.name :: match a with
    | .find o | .findOne o => o.select.getD [] ++ filterNames o.filter ++ orderNames o.order
    | .create fields columns => fieldNames fields ++ columns.getD []
    | .update filter fields columns => filterNames filter ++ fieldNames fields ++ columns.getD []
    | .updateById _ fields columns => "id" :: fieldNames fields ++ columns.getD []
    | .search _ columns o =>
      columns.getD r.columns ++ filterNames o.filter ++ orderNames o.order ++ functionNames r
    | .createMany _ _ columns => columns.getD []
where
  /-- The distance function of the searches of a repository, if there is one. -/
  functionNames (r : FullRepository α) : List String :=
    match r.strategy with
    | .passes fuzzy => fuzzy.toList
    | .ranked => []

/-- Operations whose statements are parallel in whatever is related by the relation. -/
inductive Parallel (R : String → String → Prop) (r : FullRepository α) (d : Dialect) :
    Operation → Operation → Prop
  | find {o : Clauses} {g : Option Filter} (filters : FiltersParallel R d o.filter g) :
      Parallel R r d (.find o) (.find { o with filter := g })
  | findOne {o : Clauses} {g : Option Filter} (filters : FiltersParallel R d o.filter g) :
      Parallel R r d (.findOne o) (.findOne { o with filter := g })
  | create {fields fields' : Option Fields} {columns : Option (List String)}
      (same : fields.map Fields.columns = fields'.map Fields.columns) :
      Parallel R r d (.create fields columns) (.create fields' columns)
  | update {f g : Option Filter} {fields fields' : Option Fields}
      {columns : Option (List String)} (filters : FiltersParallel R d f g)
      (same : fields.map Fields.columns = fields'.map Fields.columns) :
      Parallel R r d (.update f fields columns) (.update g fields' columns)
  | updateById {id : Int64} {fields fields' : Option Fields} {columns : Option (List String)}
      (filters : FiltersParallel R d (some (.withId id)) (some (.withId id)))
      (same : fields.map Fields.columns = fields'.map Fields.columns) :
      Parallel R r d (.updateById id fields columns) (.updateById id fields' columns)
  | search {query query' : String} {columns : Option (List String)} {o : Clauses}
      {g : Option Filter} (same : (Text.words query).length = (Text.words query').length)
      (filters : FiltersParallel R d o.filter g) :
      Parallel R r d (.search query columns o) (.search query' columns { o with filter := g })
  | createNone {count : UInt64} {columns : Option (List String)} :
      Parallel R r d (.createMany none count columns) (.createMany none count columns)
  | createMany {item item' : Fields} {count : UInt64} {columns : Option (List String)}
      (arguments : List.Forall₂ (fun v w => R (Statement.argument d v) (Statement.argument d w))
        (r.arguments item) (r.arguments item')) :
      Parallel R r d (.createMany (some item) count columns)
        (.createMany (some item') count columns)

/-- Two statements have related texts and as many parameters. -/
def Akin (R : String → String → Prop) (p q : Query) : Prop :=
  R p.sql q.sql ∧ p.params.length = q.params.length

section Statements

variable {R : String → String → Prop} {r : FullRepository α} {d : Dialect} {a b : Operation}

private theorem forall₂_written {part part' : Fields → Clause} {fields fields' : Option Fields}
    (same : fields.map Fields.columns = fields'.map Fields.columns)
    (h : ∀ x, fields = some x → ∀ y, x.columns = y.columns → (part x).Parallel R (part' y)) :
    List.Forall₂ (Akin R) (fields.toList.map fun x => (part x).query)
      (fields'.toList.map fun x => (part' x).query) := by
  cases fields with
  | none =>
    cases fields' with
    | none => exact .nil
    | some y => cases same
  | some x =>
    cases fields' with
    | none => cases same
    | some y => exact .cons (h x rfl y (Option.some.inj same)).query .nil

/-- The passes of a search do not depend on its words, as long as there are as many, and neither
on the filter. -/
private theorem plan_parallel (r : SearchRepository α) {words words' : List String}
    (same : words.length = words'.length) (columns : List String) (o : Clauses)
    (g : Option Filter) :
    plan r words' columns { o with filter := g } =
      ((plan r words columns o).1, { (plan r words columns o).2 with filter := g }) := by
  have none_given : words'.isEmpty = words.isEmpty := by
    rw [Bool.eq_iff_iff, List.isEmpty_iff_length_eq_zero, List.isEmpty_iff_length_eq_zero, same]
  simp only [plan, none_given]
  split
  · rfl
  · split
    · rfl
    · cases r.strategy <;> rfl

private theorem plan_clauses (r : SearchRepository α) (words columns : List String)
    (o : Clauses) :
    (plan r words columns o).2.filter = o.filter ∧ (plan r words columns o).2.order = o.order := by
  simp only [plan]
  split
  · exact ⟨rfl, rfl⟩
  · split
    · exact ⟨rfl, rfl⟩
    · cases r.strategy <;> exact ⟨rfl, rfl⟩

private theorem passList_writable {fuzzy : Option String}
    (writable : ∀ name ∈ fuzzy.toList, Writable R name) :
    ∀ pass ∈ SearchStrategy.passList fuzzy, PassWritable R pass := by
  cases fuzzy with
  | none => exact List.forall_mem_cons.mpr ⟨trivial, List.forall_mem_singleton.mpr trivial⟩
  | some function =>
    have own : Writable R function := writable function List.mem_cons_self
    exact List.forall_mem_cons.mpr ⟨trivial, List.forall_mem_cons.mpr
      ⟨trivial, List.forall_mem_singleton.mpr own⟩⟩

/-- The distance functions of the passes of a search are those of the repository. -/
private theorem plan_writable (words columns : List String) (o : Clauses)
    (writable : ∀ name ∈ names.functionNames r, Writable R name) :
    ∀ pass ∈ (plan r.toSearchRepository words columns o).1, PassWritable R pass := by
  simp only [plan]
  split
  · split
    · exact List.forall_mem_nil _
    · exact List.forall_mem_singleton.mpr trivial
  · split
    · exact List.forall_mem_nil _
    · simp only [names.functionNames] at writable
      split
      · exact List.forall_mem_singleton.mpr trivial
      · next fuzzy strategy =>
        rw [strategy] at writable
        exact passList_writable writable

private theorem forall₂_passes {part part' : SearchPass → Clause} {passes : List SearchPass}
    (h : ∀ pass ∈ passes, (part pass).Parallel R (part' pass)) :
    List.Forall₂ (Akin R) (passes.map fun pass => (part pass).query)
      (passes.map fun pass => (part' pass).query) := by
  rw [List.forall₂_map_left_iff, List.forall₂_map_right_iff, List.forall₂_same]
  exact fun pass mem => (h pass mem).query

/-- The statements of parallel operations are akin, one by one. -/
theorem Parallel.statements (hR : Congruence R) (h : Parallel R r d a b)
    (writable : ∀ name ∈ a.names r, Writable R name) :
    List.Forall₂ (Akin R) (a.statements r d) (b.statements r d) := by
  obtain ⟨schema, name, own⟩ := List.forall_mem_cons.mp writable |>.imp_right
    List.forall_mem_cons.mp
  have table : TableWritable R r.table := ⟨schema, name⟩
  have ordered {order : Option Ordering} (h : ∀ n ∈ orderNames order, Writable R n) :
      ∀ e ∈ order.getD [], Writable R e.1 := fun e mem => h e.1 (List.mem_map_of_mem mem)
  cases h with
  | @find o g filters =>
    simp only [List.forall_mem_append] at own
    exact .cons (Statement.parallel_select hR table own.1.1 (ordered own.2) filters).query .nil
  | @findOne o g filters =>
    simp only [List.forall_mem_append] at own
    exact .cons (Statement.parallel_select (o := { o with limit := some 1 }) hR table own.1.1
      (ordered own.2) filters).query .nil
  | create same =>
    obtain ⟨columns, given⟩ := List.forall_mem_append.mp own
    refine forall₂_written same fun x there y alike => ?_
    rw [there] at columns
    exact Statement.parallel_insert hR table alike columns given
  | @update f g fields fields' _ filters same =>
    simp only [List.forall_mem_append] at own
    obtain ⟨⟨-, columns⟩, given⟩ := own
    refine forall₂_written same fun x there y alike => ?_
    rw [there] at columns
    exact Statement.parallel_update hR table alike columns given filters
  | updateById filters same =>
    simp only [List.cons_append, List.forall_mem_cons, List.forall_mem_append] at own
    obtain ⟨-, columns, given⟩ := own
    refine forall₂_written same fun x there y alike => ?_
    rw [there] at columns
    exact Statement.parallel_update hR table alike columns given filters
  | @search query query' columns o g same filters =>
    simp only [List.forall_mem_append] at own
    obtain ⟨⟨⟨searched, -⟩, order⟩, function⟩ := own
    have planned := plan_parallel r.toSearchRepository same (columns.getD r.columns) o g
    obtain ⟨filter, asked⟩ := plan_clauses r.toSearchRepository (Text.words query)
      (columns.getD r.columns) o
    simp only [statements, planned]
    refine forall₂_passes fun pass mem => ?_
    exact Statement.parallel_search hR table same searched (by rw [asked]; exact ordered order)
      (by rw [filter]; exact filters) (plan_writable _ _ o function pass mem)
  | createNone => exact .nil
  | createMany arguments =>
    exact .cons (Statement.parallel_insertMultiple hR table arguments _ own).query .nil

end Statements

/-! ### Operations of one shape -/

section Shapes

variable {r : FullRepository α} {d : Dialect} {a b : Operation}

private theorem alike_of_common {s t u : Option String} (h : Option.Rel Alike s u)
    (k : Option.Rel Alike t u) : Option.Rel Alike s t := by
  cases h with
  | none =>
    cases k with
    | none => exact .none
  | some first =>
    cases k with
    | some last => exact .some (first.trans last.symm)

/-- Filters that differ in the content of texts only are parallel in their outlines. -/
private theorem filtersParallel_alike (closes : d.Closes) {f g : Option Filter}
    (same : f.map Filter.outline = g.map Filter.outline)
    (names : ∀ name ∈ filterNames f, Quoteless name)
    (names' : ∀ name ∈ filterNames g, Quoteless name) : FiltersParallel Alike d f g := by
  cases f with
  | none =>
    cases g with
    | none => exact .none
    | some g => cases same
  | some f =>
    cases g with
    | none => cases same
    | some g =>
      refine .some (Predicate.parallel_of_steady (Predicate.steady_filter d f)
        (Predicate.steady_filter d g) fun region => ?_)
      -- Either predicate has the outline of the one that both filters have without texts.
      have first : Option.Rel Alike (Predicate.writeFilter d f (.literals region)).1
          (Predicate.writeFilter d f.outline (.literals region)).1 :=
        Predicate.alike_filter closes f names
      rw [Option.some.inj same] at first
      exact alike_of_common first (Predicate.alike_filter closes g names')

private theorem filtersParallel_eq (d : Dialect) (f : Option Filter) :
    FiltersParallel (· = ·) d f f := by
  cases f with
  | none => exact .none
  | some f =>
    have same (s : Option String) : Option.Rel (· = ·) s s := by
      cases s with
      | none => exact .none
      | some s => exact .some rfl
    exact .some (Predicate.parallel_of_steady (Predicate.steady_filter d f)
      (Predicate.steady_filter d f) fun _ => same _)

private theorem columns_of_outline {fields fields' : Option Fields}
    (same : fields.map Fields.outline = fields'.map Fields.outline) :
    fields.map Fields.columns = fields'.map Fields.columns := by
  have kept (f : Fields) : f.outline.columns = f.columns := by
    simp only [Fields.columns, Fields.outline, List.map_map]
    rfl
  have through := congrArg (Option.map Fields.columns) same
  simpa only [Option.map_map, Function.comp_def, kept] using through

private theorem get?_outline (f : Fields) (column : String) :
    f.outline.get? column = (f.get? column).map Value.outline := by
  simp only [Fields.get?, Fields.outline, List.find?_map, Option.map_map]
  rfl

private theorem alike_argument (closes : d.Closes) (v : Value) :
    Alike (Statement.argument d v) (Statement.argument d v.outline) := by
  have literal := alike_literal closes v
  simp only [Statement.argument, congruence_alike.empty literal]
  split
  · exact .refl (by decide)
  · exact literal

/-- The arguments of two items that differ in the content of texts only. -/
private theorem arguments_alike (closes : d.Closes) {item item' : Fields}
    (same : item.outline = item'.outline) :
    List.Forall₂ (fun v w => Alike (Statement.argument d v) (Statement.argument d w))
      (r.arguments item) (r.arguments item') := by
  have argument (column : String) :
      Alike (Statement.argument d ((item.get? column).getD .null))
        (Statement.argument d ((item'.get? column).getD .null)) := by
    have outline (f : Fields) : ((f.get? column).getD .null).outline =
        (f.outline.get? column).getD .null := by
      rw [get?_outline]
      cases f.get? column <;> rfl
    have first := alike_argument closes ((item.get? column).getD .null)
    have last := alike_argument closes ((item'.get? column).getD .null)
    rw [outline] at first last
    rw [same] at first
    exact first.trans last.symm
  rw [BatchRepository.arguments, BatchRepository.arguments]
  rw [List.forall₂_map_left_iff, List.forall₂_map_right_iff, List.forall₂_same]
  exact fun column _ => argument column

private theorem clauses_of_outline {o o' : Clauses} (same : o.outline = o'.outline) :
    ∃ g, o' = { o with filter := g } ∧ o.filter.map Filter.outline = g.map Filter.outline := by
  obtain ⟨select, filter, order, offset, limit, returning⟩ := o
  obtain ⟨select', filter', order', offset', limit', returning'⟩ := o'
  simp only [Clauses.outline, Clauses.mk.injEq] at same
  obtain ⟨rfl, filters, rfl, rfl, rfl, rfl⟩ := same
  exact ⟨filter', rfl, filters⟩

/-- Operations of the same shape are parallel in their outlines. -/
theorem SameShape.parallel (closes : d.Closes) (same : a.SameShape b)
    (names : ∀ name ∈ a.names r, Quoteless name)
    (names' : ∀ name ∈ b.names r, Quoteless name) : Parallel Alike r d a b := by
  have own := (List.forall_mem_cons.mp (List.forall_mem_cons.mp names).2).2
  have own' := (List.forall_mem_cons.mp (List.forall_mem_cons.mp names').2).2
  cases a <;> cases b <;> try exact same.elim
  case find.find o o' =>
    obtain ⟨g, rfl, filters⟩ := clauses_of_outline same
    simp only [List.forall_mem_append] at own own'
    exact .find (filtersParallel_alike closes filters own.1.2 own'.1.2)
  case findOne.findOne o o' =>
    obtain ⟨g, rfl, filters⟩ := clauses_of_outline same
    simp only [List.forall_mem_append] at own own'
    exact .findOne (filtersParallel_alike closes filters own.1.2 own'.1.2)
  case create.create fields columns fields' columns' =>
    obtain ⟨fields, rfl⟩ := same
    exact .create (columns_of_outline fields)
  case update.update filter fields columns filter' fields' columns' =>
    obtain ⟨filters, fields, rfl⟩ := same
    simp only [List.forall_mem_append] at own own'
    exact .update (filtersParallel_alike closes filters own.1.1 own'.1.1)
      (columns_of_outline fields)
  case updateById.updateById id fields columns id' fields' columns' =>
    obtain ⟨rfl, fields, rfl⟩ := same
    have id : ∀ name ∈ filterNames (some (.withId id)), Quoteless name :=
      List.forall_mem_singleton.mpr (by decide : Quoteless "id")
    exact .updateById (filtersParallel_alike closes rfl id id) (columns_of_outline fields)
  case search.search query columns o query' columns' o' =>
    obtain ⟨words, rfl, clauses⟩ := same
    obtain ⟨g, rfl, filters⟩ := clauses_of_outline clauses
    simp only [List.forall_mem_append] at own own'
    exact .search words (filtersParallel_alike closes filters own.1.1.2 own'.1.1.2)
  case createMany.createMany item count columns item' count' columns' =>
    obtain ⟨items, rfl, rfl⟩ := same
    cases item with
    | none =>
      cases item' with
      | none => exact .createNone
      | some item' => cases items
    | some item =>
      cases item' with
      | none => cases items
      | some item' => exact .createMany (arguments_alike closes (Option.some.inj items))

/-- Operations that differ in bound values only are parallel in their texts. -/
theorem SameButBound.parallel (same : a.SameButBound b) : Parallel (· = ·) r d a b := by
  cases a <;> cases b <;> try exact same.elim
  case create.create fields columns fields' columns' =>
    obtain ⟨fields, rfl⟩ := same
    exact .create fields
  case update.update filter fields columns filter' fields' columns' =>
    obtain ⟨rfl, fields, rfl⟩ := same
    exact .update (filtersParallel_eq d filter) fields
  case updateById.updateById id fields columns id' fields' columns' =>
    obtain ⟨rfl, fields, rfl⟩ := same
    exact .updateById (filtersParallel_eq d _) fields
  case search.search query columns o query' columns' o' =>
    obtain ⟨words, rfl, rfl⟩ := same
    exact .search words (filtersParallel_eq d o.filter)

end Shapes

end Operation

/-! ### Texts and structure -/

/-- What two operations with akin statements send is akin, statement by statement. -/
private theorem sends_akin {Q : Query → Query → Prop} {sent sent' planned planned' : List Query}
    (starts : Operation.Starts sent planned) (starts' : Operation.Starts sent' planned')
    (h : List.Forall₂ Q planned planned') :
    (sent = [] ↔ sent' = []) ∧
      ∀ (i : Nat) (p q : Query), sent[i]? = some p → sent'[i]? = some q → Q p q := by
  have empty {sent planned : List Query} (starts : Operation.Starts sent planned) :
      sent = [] ↔ planned = [] := by
    refine ⟨fun none_sent => ?_, ?_⟩
    · by_contra planned
      exact starts.2 planned none_sent
    · rintro rfl
      exact List.prefix_nil.mp starts.1
  constructor
  · rw [empty starts, empty starts']
    cases h with
    | nil => rfl
    | cons head tail => exact ⟨nofun, nofun⟩
  · intro i p q first last
    obtain ⟨there, rfl⟩ := List.getElem?_eq_some_iff.mp first
    obtain ⟨there', rfl⟩ := List.getElem?_eq_some_iff.mp last
    rw [starts.1.getElem there, starts'.1.getElem there']
    exact h.get _ _

/-- Two operations on one table, by whatever executors, that have the same shape send statements
with the same outlines and as many parameters: what differs stands between single quotes. Those
that differ only in the values that they write or in the words that they search send the very
same texts. -/
theorem strings_keep_structure [Entity α] (r : FullRepository α) {d : Dialect}
    (writer : d = .generic ∨ d = .postgres) {x : Executor S} {y : Executor T}
    (own : x.dialect = d) (own' : y.dialect = d) (s : S) (t : T) (a b : Operation) :
    ((∀ name ∈ a.names r ++ b.names r, Quoteless name) → a.SameShape b →
      (a.sends r x s = [] ↔ b.sends r y t = []) ∧
      ∀ (i : Nat) (p q : Query), (a.sends r x s)[i]? = some p → (b.sends r y t)[i]? = some q →
        Alike p.sql q.sql ∧ p.params.length = q.params.length) ∧
    (a.SameButBound b →
      (a.sends r x s = [] ↔ b.sends r y t = []) ∧
      ∀ (i : Nat) (p q : Query), (a.sends r x s)[i]? = some p → (b.sends r y t)[i]? = some q →
        p.sql = q.sql ∧ p.params.length = q.params.length) := by
  have starts := Operation.starts_sends r x a s
  have starts' := Operation.starts_sends r y b t
  rw [own] at starts
  rw [own'] at starts'
  constructor
  · intro names same
    obtain ⟨first, last⟩ := List.forall_mem_append.mp names
    have closes : d.Closes := by
      rcases writer with rfl | rfl
      · exact Dialect.closes_generic
      · exact Dialect.closes_postgres
    exact sends_akin starts starts' ((same.parallel closes first last).statements
      congruence_alike fun name mem => writable_alike (first name mem))
  · intro same
    exact sends_akin starts starts' (same.parallel.statements congruence_eq fun name _ =>
      writable_eq name)

/-- A server that answers every statement with nothing. -/
def silent : Executor Unit where
  dialect := .postgres
  run _ s := ([], s)
  report _ _ s := s

def volumes : FullRepository Row where
  table := ⟨"public", "volumes"⟩
  columns := ["title"]
  sequence := ["title"]

/-- Gives the books of a title another one. -/
def retitle (title new : String) : Operation :=
  .update (some (.mk [("title", some (.value (.text title)))] [])) (some ⟨[("title", .text new)]⟩)
    none

theorem retitle_keeps_structure :
    let sent (title new : String) := (retitle title new).sends volumes silent ()
    (∃ p q, (sent "it" "a")[0]? = some p ∧ (sent "x' OR '1'='1" "b'")[0]? = some q ∧
      p.sql ≠ q.sql ∧ Alike p.sql q.sql) ∧
    (∃ p q, (sent "it" "a")[0]? = some p ∧ (sent "it" "', id = 1 --")[0]? = some q ∧
      p.sql = q.sql) := by
  intro sent
  obtain ⟨shape, -⟩ := strings_keep_structure volumes (.inr rfl) (x := silent) (y := silent) rfl
    rfl () () (retitle "it" "a") (retitle "x' OR '1'='1" "b'")
  obtain ⟨-, bound⟩ := strings_keep_structure volumes (.inr rfl) (x := silent) (y := silent) rfl
    rfl () () (retitle "it" "a") (retitle "it" "', id = 1 --")
  obtain ⟨-, alike⟩ := shape (by decide +kernel) ⟨rfl, rfl, rfl⟩
  obtain ⟨-, same⟩ := bound ⟨rfl, rfl, rfl⟩
  exact ⟨⟨_, _, rfl, rfl, by decide +kernel, (alike 0 _ _ rfl rfl).1⟩,
    ⟨_, _, rfl, rfl, (same 0 _ _ rfl rfl).1⟩⟩

end TableAccess
