import TableAccess.Proofs.Predicate.Liveness
import TableAccess.Proofs.Predicate.Matches
import TableAccess.Proofs.Statement.Steady

/-!
The statements of searches.

A search has conditions, orders and counts, each listed after its keyword, and a keyword only where
something is listed. The words are its parameters. Every column stands with the place of every word
in the matches, and in a ranking once more, column by column.
-/

set_option autoImplicit false
set_option relaxedAutoImplicit false

namespace TableAccess

/-- The pass ranks what it finds. -/
def SearchPass.ranks : SearchPass → Bool
  | .ranked | .fuzzy _ => true
  | .listing | .leading | .containing => false

namespace Statement

open Clause (text column joined placeholder)

/-! ### Lists after a keyword -/

/-- Items after a keyword with a separator between each two, and nothing when there are none. -/
def listed (word separator : String) (items : List String) : String :=
  if items.isEmpty then "" else word ++ separator.intercalate items

/-- Items with a separator between each two, left out when there are none. -/
def gathered (separator : String) (items : List String) : Option String :=
  if items.isEmpty then none else some (separator.intercalate items)

theorem gathered_singleton (separator s : String) : gathered separator [s] = some s := by
  rw [gathered, String.intercalate_singleton]
  rfl

theorem gathered_append (separator : String) (xs ys : List String) :
    gathered separator (xs ++ ys) =
      match gathered separator xs, gathered separator ys with
      | some s, some t => some (s ++ separator ++ t)
      | some s, none => some s
      | none, t => t := by
  cases xs with
  | nil => rfl
  | cons x xs =>
    cases ys with
    | nil =>
      rw [List.append_nil]
      rfl
    | cons y ys =>
      have both : separator.intercalate (x :: xs ++ y :: ys) = separator.intercalate (x :: xs) ++
          separator ++ separator.intercalate (y :: ys) :=
        String.intercalate_append_of_ne_nil (List.cons_ne_nil _ _) (List.cons_ne_nil _ _)
      simp only [gathered, both]
      rfl

theorem write_optional_keyword {p : Predicate} {separator : String} {items : List String}
    {c : WriteContext} (written : p.write c = (gathered separator items, c)) (word : String) :
    (optional (keyword word p)).write c = (listed word separator items, c) := by
  simp only [optional, keyword, written, gathered, listed]
  cases items <;> rfl

/-! ### Columns and words -/

theorem length_pairs (columns : List String) (places : List Nat) :
    (pairs columns places).length = columns.length * places.length := by
  induction columns with
  | nil => exact (Nat.zero_mul _).symm
  | cons name columns ih =>
    have first : pairs (name :: columns) places =
        places.map (fun n => (name, n)) ++ pairs columns places := rfl
    rw [first, List.length_append, List.length_map, ih, List.length_cons, Nat.succ_mul,
      Nat.add_comm]

/-- The pairs are in the order of the columns, and of the places for each of them. -/
theorem getElem?_pairs {columns : List String} {places : List Nat} {j i : Nat}
    (column : j < columns.length) (place : i < places.length) :
    (pairs columns places)[j * places.length + i]? = some (columns[j], places[i]) := by
  induction columns generalizing j with
  | nil => exact absurd column (Nat.not_lt_zero j)
  | cons name columns ih =>
    have first : pairs (name :: columns) places =
        places.map (fun n => (name, n)) ++ pairs columns places := rfl
    rw [first]
    cases j with
    | zero =>
      have here : 0 * places.length + i < (places.map fun n => (name, n)).length := by
        rw [List.length_map]
        omega
      rw [List.getElem?_append_left here, Nat.zero_mul, Nat.zero_add, List.getElem?_map,
        List.getElem?_eq_getElem place]
      rfl
    | succ j =>
      have beyond : (places.map fun n => (name, n)).length ≤ (j + 1) * places.length + i := by
        rw [List.length_map, Nat.succ_mul]
        omega
      have rest : (j + 1) * places.length + i - places.length = j * places.length + i := by
        rw [Nat.succ_mul]
        omega
      rw [List.getElem?_append_right beyond, List.length_map, rest]
      exact ih (Nat.lt_of_succ_lt_succ column)

/-! ### Conditions and orders -/

/-- The texts of a ranking by its pairs of columns and places. -/
def rankTexts : SearchPass → List (String × Nat) → List String
  | .ranked, grid => grid.map fun p =>
    p.1 ++ " ILIKE " ++ placeholder p.2 ++ " || '%' DESC NULLS LAST"
  | .fuzzy function, grid => grid.map fun p =>
    function ++ "(LOWER(" ++ p.1 ++ "::text), LOWER(" ++ placeholder p.2 ++ ")) ASC"
  | _, _ => []

/-- The texts of the conditions of a search: its filter, if that is live, and the matches. -/
def conditionTexts (d : Dialect) (filter : Option Filter) (pass : SearchPass)
    (grid : List (String × Nat)) : List String :=
  (filter.toList.filter (Filter.live d)).map (fun f => (Predicate.compile d f false).1) ++
    if pass.matches then
      ["(" ++ " OR ".intercalate (grid.map (matchText (pass == .leading))) ++ ")"]
    else []

/-- The texts of the orders of a search: its ranking, and the order that is asked for. -/
def orderTexts (order : Option Ordering) (pass : SearchPass) (grid : List (String × Nat)) :
    List String :=
  rankTexts pass grid ++ (order.getD [("id", .ascending)]).map fun e =>
    Literal.identifier e.1 ++ " " ++ e.2.token

/-- The text of a number of rows that is given and not zero. -/
def countTexts (n : Option UInt64) : List String :=
  (n.toList.filter (· ≠ 0)).map fun n => Text.natText n.toNat

theorem countAfter_eq_listed (word : String) (n : Option UInt64) :
    countAfter word n = listed word "" (countTexts n) := by
  cases n with
  | none => rfl
  | some n =>
    by_cases zero : n = 0
    · rw [zero]
      rfl
    · have kept : [n].filter (· ≠ 0) = [n] := List.filter_cons_of_pos (decide_eq_true zero)
      simp only [countAfter, if_neg zero, listed, countTexts, Option.toList_some, kept,
        List.map_cons, List.map_nil, String.intercalate_singleton]
      rfl

/-! None of the texts is empty. -/

private theorem compile_ne_empty {d : Dialect} {f : Filter} (live : f.live d = true) :
    (Predicate.compile d f false).1 ≠ "" := by
  have shown := Predicate.shown_filter d .condition f
  have compiled : (Predicate.compile d f false).1 =
      (Predicate.writeFilter d f (.literals .condition)).1.getD "" := rfl
  rw [compiled]
  cases wrote : (Predicate.writeFilter d f (.literals .condition)).1 with
  | none =>
    rw [wrote, live] at shown
    exact absurd shown.some_texts Bool.false_ne_true
  | some s =>
    rw [wrote] at shown
    exact shown.filled s List.mem_cons_self

private theorem matchText_ne_empty (atStart : Bool) (p : String × Nat) :
    matchText atStart p ≠ "" := by
  intro empty
  rw [matchText, String.append_eq_empty_iff, String.append_eq_empty_iff] at empty
  exact absurd empty.2.2 (by decide)

private theorem rankTexts_ne_empty (pass : SearchPass) (grid : List (String × Nat)) :
    ∀ s ∈ rankTexts pass grid, s ≠ "" := by
  intro s member empty
  cases pass with
  | listing | leading | containing => exact List.not_mem_nil member
  | ranked =>
    obtain ⟨p, -, rfl⟩ := List.mem_map.mp member
    exact absurd (String.append_eq_empty_iff.mp empty).2 (by decide)
  | fuzzy function =>
    obtain ⟨p, -, rfl⟩ := List.mem_map.mp member
    exact absurd (String.append_eq_empty_iff.mp empty).2 (by decide)

private theorem askedTexts_ne_empty (order : Ordering) :
    ∀ s ∈ order.map fun e => Literal.identifier e.1 ++ " " ++ e.2.token, s ≠ "" := by
  intro s member empty
  obtain ⟨e, -, rfl⟩ := List.mem_map.mp member
  rw [String.append_eq_empty_iff, String.append_eq_empty_iff] at empty
  exact absurd empty.1.2 (by decide)

section Texts

variable {d : Dialect} {filter : Option Filter} {order : Option Ordering} {pass : SearchPass}
  {grid : List (String × Nat)}

theorem conditionTexts_ne_empty : ∀ s ∈ conditionTexts d filter pass grid, s ≠ "" := by
  intro s member
  rcases List.mem_append.mp member with kept | matched
  · obtain ⟨f, live, rfl⟩ := List.mem_map.mp kept
    exact compile_ne_empty (List.mem_filter.mp live).2
  · split at matched
    · obtain rfl := List.mem_singleton.mp matched
      intro empty
      exact absurd (String.append_eq_empty_iff.mp empty).2 (by decide)
    · exact absurd matched List.not_mem_nil

theorem orderTexts_ne_empty : ∀ s ∈ orderTexts order pass grid, s ≠ "" :=
  List.forall_mem_append.mpr ⟨rankTexts_ne_empty pass grid, askedTexts_ne_empty _⟩

theorem conditionTexts_ne_nil_iff : conditionTexts d filter pass grid ≠ [] ↔
    (∃ f, filter = some f ∧ f.live d = true) ∨ pass.matches = true := by
  have kept : (filter.toList.filter (Filter.live d)).map
      (fun f => (Predicate.compile d f false).1) ≠ [] ↔
        ∃ f, filter = some f ∧ f.live d = true := by
    simp only [ne_eq, List.map_eq_nil_iff, List.filter_eq_nil_iff, Option.mem_toList,
      Classical.not_forall, Classical.not_not, exists_prop]
  have matched (found : String) : (if pass.matches then [found] else []) ≠ [] ↔
      pass.matches = true := by
    cases pass.matches <;> simp
  rw [conditionTexts, Ne, List.append_eq_nil_iff, Classical.not_and_iff_not_or_not]
  exact or_congr kept (matched _)

/-- Rankings by some pairs are orders, and so is any order that is asked for but an empty one. -/
theorem orderTexts_ne_nil_iff (some_pairs : pass.ranks = true → grid ≠ []) :
    orderTexts order pass grid ≠ [] ↔ pass.ranks = true ∨ order ≠ some [] := by
  have ranking : rankTexts pass grid ≠ [] ↔ pass.ranks = true := by
    cases pass with
    | listing | leading | containing => exact ⟨absurd rfl, fun h => absurd h Bool.false_ne_true⟩
    | ranked | fuzzy =>
      exact ⟨fun _ => rfl, fun _ none => some_pairs rfl (List.map_eq_nil_iff.mp none)⟩
  have asked : order.getD [("id", .ascending)] ≠ [] ↔ order ≠ some [] := by
    cases order with
    | none => exact ⟨fun _ => Option.some_ne_none _ |>.symm, fun _ => List.cons_ne_nil _ _⟩
    | some order => exact not_congr Option.some_inj.symm
  rw [orderTexts, Ne, List.append_eq_nil_iff, Classical.not_and_iff_not_or_not, List.map_eq_nil_iff]
  exact or_congr ranking asked

end Texts

section Parts

variable {c : WriteContext} (columns : List String) (places : List Nat)

/-- A filter by itself is gathered like its text. -/
private theorem write_filterCondition (d : Dialect) (f : Filter)
    (inline : c.parameterized = false) :
    (withinRegion .condition (Predicate.filter d f)).write c =
      (gathered " AND " (([f].filter (Filter.live d)).map fun f =>
        (Predicate.compile d f false).1), c) := by
  have steady := Predicate.steady_filter d f { c with region := .condition } inline
  have shown := Predicate.shown_filter d .condition f
  have compiled : (Predicate.compile d f false).1 =
      (Predicate.writeFilter d f (.literals .condition)).1.getD "" := rfl
  simp only [withinRegion, Predicate.filter, steady]
  cases wrote : (Predicate.writeFilter d f (.literals .condition)).1 with
  | none =>
    rw [wrote] at shown
    have dead : ¬ f.live d = true := by
      rw [← shown.some_texts]
      exact Bool.false_ne_true
    rw [List.filter_cons_of_neg dead]
    rfl
  | some s =>
    rw [wrote] at shown compiled
    have live : f.live d = true := shown.some_texts.symm
    rw [List.filter_cons_of_pos live, List.filter_nil, List.map_cons, List.map_nil,
      gathered_singleton, compiled]
    rfl

private theorem write_searchCondition (d : Dialect) (filter : Option Filter) (pass : SearchPass)
    (inline : c.parameterized = false) :
    (searchCondition d filter pass columns places).write c =
      (gathered " AND " (conditionTexts d filter pass (pairs columns places)), c) := by
  have matched : (Clause.within .condition
      (searchMatch columns places (pass == .leading))).write c =
        ("(" ++ " OR ".intercalate ((pairs columns places).map (matchText (pass == .leading))) ++
          ")", c) := by
    have filled : ∀ s ∈ (pairs columns places).map (matchText (pass == .leading)), s ≠ "" := by
      intro s member
      obtain ⟨p, -, rfl⟩ := List.mem_map.mp member
      exact matchText_ne_empty _ p
    have bare : ({ c with region := .condition } : WriteContext).region.quotesColumns = false := rfl
    simp only [Clause.within, write_searchMatch columns places _ bare,
      Text.joined_eq_intercalate filled]
  rw [conditionTexts]
  cases filter with
  | none =>
    simp only [searchCondition, matched]
    split
    · rw [String.empty_append]
      rfl
    · rfl
  | some f =>
    simp only [searchCondition, write_filterCondition d f inline, matched, Option.toList_some]
    rw [gathered_append]
    -- What is left of the filter comes first, whether or not there are matches.
    generalize gathered " AND " (([f].filter (Filter.live d)).map fun f =>
      (Predicate.compile d f false).1) = kept
    split
    · rw [gathered_singleton]
      cases kept with
      | none => rw [String.empty_append]
      | some s => rfl
    · cases kept <;> rfl

theorem write_orderList (order : Option Ordering) :
    (orderList order).write c = (gathered ", " ((order.getD [("id", .ascending)]).map fun e =>
      Literal.identifier e.1 ++ " " ++ e.2.token), c) := by
  let shown (e : String × Direction) : String := Literal.identifier e.1 ++ " " ++ e.2.token
  have entry (e : String × Direction) : (column e.1 ++ text (" " ++ e.2.token)).write
      { c with region := .orderBy } = (shown e, { c with region := .orderBy }) := by
    simp only [Clause.write_append, Clause.write_text, column, Region.quotesColumns, if_true,
      shown, String.append_assoc]
  have all (xs : Ordering) := Clause.write_joined entry ", " xs
  simp only [orderList, withinRegion, provided, all,
    Text.joined_eq_intercalate (askedTexts_ne_empty _), shown]
  cases order.getD [("id", .ascending)] <;> rfl

/-- A ranking by some pairs is gathered from the texts for them. -/
private theorem write_ranking (part : String × Nat → Clause) (shown : String × Nat → String)
    (each : ∀ p, (part p).write { c with region := .searchRank } =
      (shown p, { c with region := .searchRank }))
    {grid : List (String × Nat)} (filled : ∀ s ∈ grid.map shown, s ≠ "") (some_pairs : grid ≠ []) :
    (provided true (Clause.within .searchRank (joined ", " (grid.map part)))).write c =
      (gathered ", " (grid.map shown), c) := by
  simp only [provided, Clause.within, Clause.write_joined each,
    Text.joined_eq_intercalate filled]
  cases grid with
  | nil => exact absurd rfl some_pairs
  | cons p grid => rfl

private theorem write_searchOrder (order : Option Ordering) {pass : SearchPass}
    (some_pairs : pass.ranks = true → pairs columns places ≠ []) :
    (searchOrder order pass columns places).write c =
      (gathered ", " (orderTexts order pass (pairs columns places)), c) := by
  rw [orderTexts, gathered_append]
  cases pass with
  | listing | leading | containing => exact write_orderList order
  | ranked =>
    have ranking := write_ranking (c := c)
      (fun p => column p.1 ++ text (" ILIKE " ++ placeholder p.2 ++ " || '%' DESC NULLS LAST"))
      (fun p => p.1 ++ " ILIKE " ++ placeholder p.2 ++ " || '%' DESC NULLS LAST")
      (fun p => by
        simp only [Clause.write_append, Clause.write_text, column, Region.quotesColumns,
          Bool.false_eq_true, if_false, String.append_assoc])
      (rankTexts_ne_empty .ranked (pairs columns places)) (some_pairs rfl)
    simp only [searchOrder, searchRank, ranking, write_orderList]
    rfl
  | fuzzy function =>
    have ranking := write_ranking (c := c)
      (fun p => text (function ++ "(LOWER(") ++ column p.1 ++
        text ("::text), LOWER(" ++ placeholder p.2 ++ ")) ASC"))
      (fun p => function ++ "(LOWER(" ++ p.1 ++ "::text), LOWER(" ++ placeholder p.2 ++
        ")) ASC")
      (fun p => by
        simp only [Clause.write_append, Clause.write_text, column, Region.quotesColumns,
          Bool.false_eq_true, if_false, String.append_assoc])
      (rankTexts_ne_empty (.fuzzy function) (pairs columns places)) (some_pairs rfl)
    simp only [searchOrder, searchDistance, ranking, write_orderList]
    rfl

end Parts

/-! ### Statements -/

/-- The paging of a search is written behind all the rest of it. -/
theorem write_search_paged (d : Dialect) (t : Table) (words columns : List String)
    (pass : SearchPass) (o : Clauses) (c : WriteContext) :
    (search d t words columns o pass).write c =
      let (unpaged, after) :=
        (search d t words columns { o with offset := none, limit := none } pass).write c
      (unpaged ++ (countAfter " OFFSET " o.offset ++ countAfter " LIMIT " o.limit), after) := by
  simp only [search, Clause.write_append, Clause.write_text, paging, countAfter,
    String.append_empty]

theorem query_search_paged (d : Dialect) (t : Table) (words columns : List String)
    (pass : SearchPass) (o : Clauses) :
    (search d t words columns o pass).query =
      let unpaged :=
        (search d t words columns { o with offset := none, limit := none } pass).query
      ⟨unpaged.sql ++ (countAfter " OFFSET " o.offset ++ countAfter " LIMIT " o.limit),
        unpaged.params⟩ := by
  have paged := write_search_paged d t words columns pass o .inline
  rw [Clause.query, paged]
  rfl

/-- What follows the words of a search is listed after its keywords, with nothing bound. -/
private theorem write_body (d : Dialect) (t : Table) (columns : List String) (places : List Nat)
    (o : Clauses) (pass : SearchPass) {c : WriteContext} (inline : c.parameterized = false)
    (some_pairs : pass.ranks = true → pairs columns places ≠ []) :
    (text ("SELECT * FROM " ++ t.fullName) ++
      optional (keyword " WHERE " (searchCondition d o.filter pass columns places)) ++
      optional (keyword " ORDER BY " (searchOrder o.order pass columns places)) ++
      paging o.offset o.limit).write c =
      ("SELECT * FROM " ++ t.schema ++ "." ++ t.name ++
        listed " WHERE " " AND " (conditionTexts d o.filter pass (pairs columns places)) ++
        listed " ORDER BY " ", " (orderTexts o.order pass (pairs columns places)) ++
        listed " OFFSET " "" (countTexts o.offset) ++ listed " LIMIT " "" (countTexts o.limit),
        c) := by
  have condition := write_optional_keyword
    (write_searchCondition columns places d o.filter pass inline) " WHERE "
  have order := write_optional_keyword
    (write_searchOrder (c := c) columns places o.order some_pairs) " ORDER BY "
  simp only [Clause.write_append, Clause.write_text, condition, order, paging,
    countAfter_eq_listed, Table.fullName, String.append_assoc]

/-- A pass that is no listing has pairs of columns and words. -/
private theorem pairs_ne_nil {columns : List String} {places : List Nat} (column : columns ≠ [])
    (place : places ≠ []) : pairs columns places ≠ [] := by
  intro none
  have length := length_pairs columns places
  rw [none] at length
  rcases Nat.mul_eq_zero.mp length.symm with empty | empty
  · exact column (List.length_eq_zero_iff.mp empty)
  · exact place (List.length_eq_zero_iff.mp empty)

private theorem ne_listing_of_ranks {pass : SearchPass} (ranks : pass.ranks = true) :
    pass ≠ .listing := by
  rintro rfl
  exact Bool.false_ne_true ranks

/-- A search binds its words, in front of all else, unless it is a listing. -/
private theorem write_search (d : Dialect) (t : Table) (words columns : List String)
    (o : Clauses) (pass : SearchPass) {c : WriteContext} (inline : c.parameterized = false)
    (some_pairs : pass ≠ .listing →
      pairs columns (List.range' (c.count + 1) words.length) ≠ []) :
    let grid := pairs columns (List.range' (c.count + 1) words.length)
    (search d t words columns o pass).write c =
      ("SELECT * FROM " ++ t.schema ++ "." ++ t.name ++
        listed " WHERE " " AND " (conditionTexts d o.filter pass grid) ++
        listed " ORDER BY " ", " (orderTexts o.order pass grid) ++
        listed " OFFSET " "" (countTexts o.offset) ++ listed " LIMIT " "" (countTexts o.limit),
        { c with parameters :=
          c.parameters ++ if pass = .listing then [] else words.map Value.text }) := by
  intro grid
  by_cases listing : pass = .listing
  · subst listing
    rw [if_pos rfl, List.append_nil]
    exact write_body d t columns [] o .listing inline
      (fun ranks => absurd ranks Bool.false_ne_true)
  · have other : (pass == SearchPass.listing) = false := beq_false_of_ne listing
    have body := write_body d t columns (List.range' (c.count + 1) words.length) o pass
      (c := { c with parameters := c.parameters ++ words.map Value.text }) inline
      fun _ => some_pairs listing
    simp only [search, other, Bool.false_eq_true, if_false, bindWords, if_neg listing]
    exact body

/-- The statement of a search in a context whose values are literals, with words and columns unless
it is a listing. Conditions, orders and counts are listed after their keywords, and no keyword
stands without any. There are conditions when the filter is live or the rows are matched, and orders
when they are ranked or not asked to be unordered; none of them is empty. Only the words are bound,
in order. Every column stands with every word, at the place of the word, once in the matches and
once in the ranking, column by column. -/
theorem search_is_well_formed (d : Dialect) (t : Table) (words columns : List String)
    (o : Clauses) (pass : SearchPass) (c : WriteContext) (inline : c.parameterized = false)
    (searched : pass = .listing ∨ words ≠ [] ∧ columns ≠ []) :
    let grid := pairs columns (List.range' (c.count + 1) words.length)
    let conditions := conditionTexts d o.filter pass grid
    let orders := orderTexts o.order pass grid
    let parameters := c.parameters ++ if pass = .listing then [] else words.map Value.text
    (search d t words columns o pass).write c =
      ("SELECT * FROM " ++ t.schema ++ "." ++ t.name ++ listed " WHERE " " AND " conditions ++
        listed " ORDER BY " ", " orders ++ listed " OFFSET " "" (countTexts o.offset) ++
        listed " LIMIT " "" (countTexts o.limit), { c with parameters := parameters }) ∧
    (conditions ≠ [] ↔ (∃ f, o.filter = some f ∧ f.live d = true) ∨ pass.matches = true) ∧
    (orders ≠ [] ↔ pass.ranks = true ∨ o.order ≠ some []) ∧
    (∀ s ∈ conditions ++ orders, s ≠ "") ∧
    grid.length = columns.length * words.length ∧
    (∀ (j i : Nat) (column : j < columns.length), i < words.length →
      grid[j * words.length + i]? = some (columns[j], c.count + i + 1)) ∧
    (pass ≠ .listing → ∀ (i : Nat) (word : i < words.length),
      parameters[c.count + i]? = some (.text words[i])) := by
  intro grid conditions orders parameters
  have places : (List.range' (c.count + 1) words.length).length = words.length :=
    List.length_range'
  have some_pairs (active : pass ≠ .listing) : grid ≠ [] := by
    obtain ⟨some_words, some_columns⟩ := searched.resolve_left active
    refine pairs_ne_nil some_columns fun none => some_words ?_
    rw [none] at places
    exact List.length_eq_zero_iff.mp places.symm
  refine ⟨write_search d t words columns o pass inline some_pairs, ?_, ?_, ?_, ?_, ?_, ?_⟩
  · exact conditionTexts_ne_nil_iff
  · exact orderTexts_ne_nil_iff fun ranks => some_pairs (ne_listing_of_ranks ranks)
  · exact List.forall_mem_append.mpr ⟨conditionTexts_ne_empty, orderTexts_ne_empty⟩
  · rw [length_pairs, places]
  · intro j i column word
    have place : i < (List.range' (c.count + 1) words.length).length := by rwa [places]
    have at_pair := getElem?_pairs column place
    rw [places, List.getElem_range'] at at_pair
    rw [at_pair, Nat.one_mul, Nat.add_right_comm]
  · intro active i word
    simp only [parameters, if_neg active, WriteContext.count]
    rw [List.getElem?_append_right (Nat.le_add_right _ _), Nat.add_sub_cancel_left,
      List.getElem?_map, List.getElem?_eq_getElem word]
    rfl

/-- A filter of which only one member of a group has a literal. -/
def capitalsOnly : Filter :=
  (Filter.empty.anyOf "country" []).or
    [Filter.empty.eq "capital" (.scalar .boolean (some true)),
      Filter.empty.eq "flag" (.list (some []) .null)]

theorem ranked_search_of_cities :
    WriteContext.inline.parameterized = false ∧ ["new", "york"] ≠ [] ∧ ["name", "state"] ≠ [] ∧
    (search .generic ⟨"public", "city"⟩ ["new", "york"] ["name", "state"]
        { filter := some capitalsOnly, order := some [("name", .descending)], limit := some 10 }
        .ranked).write .inline =
      ("SELECT * FROM public.city WHERE (capital = true) AND " ++
        "(name ILIKE '%' || $1 || '%' OR name ILIKE '%' || $2 || '%' OR " ++
        "state ILIKE '%' || $1 || '%' OR state ILIKE '%' || $2 || '%') ORDER BY " ++
        "name ILIKE $1 || '%' DESC NULLS LAST, name ILIKE $2 || '%' DESC NULLS LAST, " ++
        "state ILIKE $1 || '%' DESC NULLS LAST, state ILIKE $2 || '%' DESC NULLS LAST, " ++
        "\"name\" DESC LIMIT 10", ⟨.none, false, [.text "new", .text "york"]⟩) ∧
    [("name", 1), ("name", 2), ("state", 1), ("state", 2)][1 * 2 + 0]? = some ("state", 1) := by
  obtain ⟨text, -, -, -, -, place, -⟩ := search_is_well_formed .generic ⟨"public", "city"⟩
    ["new", "york"] ["name", "state"]
    { filter := some capitalsOnly, order := some [("name", .descending)], limit := some 10 }
    .ranked .inline rfl (.inr ⟨by decide, by decide⟩)
  refine ⟨rfl, by decide, by decide, text.trans (Prod.ext ?_ rfl), ?_⟩
  · decide +kernel
  · exact place 1 0 (by decide) (by decide)

end Statement

end TableAccess
