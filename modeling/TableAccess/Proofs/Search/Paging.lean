import TableAccess.Proofs.Search.Distinct

/-!
The pages of a search by several passes.

Every pass ranks the rows of the table in its own way, and answers with as many of them as reach
to the end of the page. The pages are nevertheless cut from the distinct rows of all rankings in
full, and together give all of them.
-/

set_option autoImplicit false
set_option relaxedAutoImplicit false

namespace TableAccess

variable {S α : Type} [Entity α]

/-- A pass and the full ranking that it stands for. -/
structure RankedPass (α : Type) where
  pass : SearchPass
  ranking : List α

/-- The rows of all rankings, one ranking after another. -/
def allRows (passes : List (RankedPass α)) : List α := passes.flatMap RankedPass.ranking

namespace SearchRepository

variable {r : SearchRepository α} {x : Executor S} {words columns : List String} {o : Clauses}

/-- The statement of each pass that is run for the wanted rows gives the first of these of the
ranking of the pass. -/
def Serves (r : SearchRepository α) (x : Executor S) (words columns : List String) (o : Clauses)
    (wanted : Nat) : Found α → List (RankedPass α) → S → Prop
  | _, [], _ => True
  | found, p :: passes, s =>
    found.rows.length < wanted →
      let (answer, s) := x.run (Statement.search x.dialect r.table words columns o p.pass).query s
      answer.entities = .ok (p.ranking.take wanted) ∧
        r.Serves x words columns o wanted (found.addAll wanted (p.ranking.take wanted)) passes s

/-- The clauses of the passes for a page. -/
def reaching (o : Clauses) (offset limit : UInt64) : Clauses :=
  { o with offset := none, limit := some (saturatingSum offset limit) }

/-- The passes for a page are served from a state on. -/
def ServesPage (r : SearchRepository α) (x : Executor S) (words columns : List String)
    (o : Clauses) (passes : List (RankedPass α)) (offset limit : UInt64) (s : S) : Prop :=
  r.Serves x words columns (reaching o offset limit) (offset.toNat + limit.toNat) .nothing passes s

theorem runPass_served {pass : SearchPass} {rows : List α} {answer : Answer} {s after : S}
    (ran : x.run (Statement.search x.dialect r.table words columns o pass).query s =
      (answer, after)) (served : answer.entities = .ok rows) :
    r.runPass x words columns o pass s = (.ok rows, after) := by
  simp only [runPass, Executor.fetch, ran, served]

/-- Once enough distinct rows have come, no pass is run. -/
theorem runPasses_enough {wanted : Nat} {before : List α}
    (enough : wanted ≤ (distinct before).length) (passes : List SearchPass) (s : S) :
    r.runPasses x words columns o wanted (.of ((distinct before).take wanted)) passes s =
      (.ok ((distinct before).take wanted), s) := by
  have full : wanted ≤ (Found.of ((distinct before).take wanted)).rows.length :=
    Nat.le_of_eq (List.length_take_of_le enough).symm
  cases passes with
  | nil => rfl
  | cons pass passes =>
    rw [runPasses, if_pos full]
    rfl

/-- Until then the next pass is run, and its rows are added to those that have been found. -/
theorem runPasses_further {wanted : Nat} {before rows : List α}
    (few : (distinct before).length < wanted) {pass : SearchPass} {passes : List SearchPass}
    {answer : Answer} {s after : S}
    (ran : x.run (Statement.search x.dialect r.table words columns o pass).query s =
      (answer, after)) (served : answer.entities = .ok rows) :
    r.runPasses x words columns o wanted (.of ((distinct before).take wanted)) (pass :: passes) s =
      r.runPasses x words columns o wanted ((Found.of (distinct before)).addAll wanted rows) passes
        after := by
  have room : ¬ wanted ≤ (Found.of (distinct before)).rows.length := Nat.not_le_of_lt few
  rw [List.take_of_length_le (Nat.le_of_lt few), runPasses, if_neg room,
    runPass_served ran served]

/-- A further ranking in full, when the distinct rows before it do not suffice. -/
private theorem found_further {wanted : Nat} {before ranking : List α}
    (few : (distinct before).length ≤ wanted) (different : (idsOf ranking).Nodup) :
    (Found.of (distinct before)).addAll wanted (ranking.take wanted) =
      .of ((distinct (before ++ ranking)).take wanted) := by
  rw [Found.addAll_of few, take_distinctFrom_take _ different, distinct_append]

/-- Passes give the wanted number of the distinct rows of their rankings in full, after those of
the passes before them. -/
private theorem runPasses_distinct {wanted : Nat} {before : List α}
    {passes : List (RankedPass α)} (different : ∀ p ∈ passes, (idsOf p.ranking).Nodup) {s : S}
    (serves : r.Serves x words columns o wanted (.of ((distinct before).take wanted)) passes s) :
    (r.runPasses x words columns o wanted (.of ((distinct before).take wanted))
      (passes.map RankedPass.pass) s).1 =
        .ok ((distinct (before ++ allRows passes)).take wanted) := by
  induction passes generalizing before s with
  | nil =>
    rw [allRows, List.flatMap_nil, List.append_nil]
    rfl
  | cons p passes ih =>
    rw [List.map_cons]
    -- Either the rows before suffice, or all of them are among the rows that have been found.
    by_cases enough : wanted ≤ (distinct before).length
    · rw [runPasses_enough enough, distinct_append, List.take_append_of_le_length enough]
    · have few : (distinct before).length < wanted := Nat.lt_of_not_le enough
      have own := different p List.mem_cons_self
      rw [List.take_of_length_le (Nat.le_of_lt few)] at serves
      cases ran : x.run (Statement.search x.dialect r.table words columns o p.pass).query s with
      | mk answer after =>
        simp only [Serves, ran] at serves
        obtain ⟨served, serves⟩ := serves few
        rw [found_further (Nat.le_of_lt few) own] at serves
        have rest := ih (fun q member => different q (List.mem_cons_of_mem p member)) serves
        rw [runPasses_further few ran served, found_further (Nat.le_of_lt few) own, rest, allRows,
          allRows, List.flatMap_cons, List.append_assoc]

private theorem searchPasses_page {passes : List (RankedPass α)} {offset limit : UInt64} {s : S}
    (different : ∀ p ∈ passes, (idsOf p.ranking).Nodup)
    (small : offset.toNat + limit.toNat < 2 ^ 64)
    (serves : r.ServesPage x words columns o passes offset limit s) :
    (r.searchPasses x words columns o offset limit (passes.map RankedPass.pass) s).1 =
      .ok (((distinct (allRows passes)).drop offset.toNat).take limit.toNat) := by
  have nothing : (Found.nothing : Found α) =
      .of ((distinct ([] : List α)).take (offset.toNat + limit.toNat)) := by
    rw [distinct, distinctFrom, List.take_nil]
    rfl
  rw [ServesPage, nothing] at serves
  have found := runPasses_distinct different serves
  rw [← nothing, List.nil_append] at found
  cases ran : r.runPasses x words columns (reaching o offset limit) (offset.toNat + limit.toNat)
      .nothing (passes.map RankedPass.pass) s with
  | mk result after =>
    rw [ran] at found
    obtain rfl : result = .ok _ := found
    rw [reaching] at ran
    have window : (saturatingSum offset limit).toNat = offset.toNat + limit.toNat := by
      rw [toNat_saturatingSum, Nat.min_eq_left (by omega)]
    simp only [searchPasses, window, ran, List.drop_take, Nat.add_sub_cancel_left, List.take_take,
      Nat.min_self]

/-- Consecutive pieces of a list up to its end are the list. -/
private theorem flatten_pages {β : Type} (rows : List β) (size count : Nat)
    (last : rows.length ≤ count * size) :
    ((List.range count).map fun i => (rows.drop (i * size)).take size).flatten = rows := by
  have first (n : Nat) :
      ((List.range n).map fun i => (rows.drop (i * size)).take size).flatten =
        rows.take (n * size) := by
    induction n with
    | zero => simp only [List.range_zero, List.map_nil, List.flatten_nil, Nat.zero_mul,
        List.take_zero]
    | succ n ih =>
      rw [List.range_succ, List.map_append, List.flatten_append, ih, Nat.succ_mul, List.take_add]
      simp only [List.map_cons, List.map_nil, List.flatten_cons, List.flatten_nil,
        List.append_nil]
  rw [first, List.take_of_length_le last]

/-- A page of a search by several passes holds exactly the rows at its place among the distinct
rows of the full rankings, one after another, although each pass answers with no more rows than
reach to the end of the page. Pages of one size, each from a state of its own, together give
each of the distinct rows once. -/
theorem pages_of_passes (r : SearchRepository α) (x : Executor S) (words columns : List String)
    (o : Clauses) (passes : List (RankedPass α))
    (different : ∀ p ∈ passes, (idsOf p.ranking).Nodup) :
    (∀ (offset limit : UInt64) (s : S), offset.toNat + limit.toNat < 2 ^ 64 →
      r.ServesPage x words columns o passes offset limit s →
      (r.searchPasses x words columns o offset limit (passes.map RankedPass.pass) s).1 =
        .ok (((distinct (allRows passes)).drop offset.toNat).take limit.toNat)) ∧
    (∀ (limit : UInt64) (count : Nat) (states : Nat → S), count * limit.toNat < 2 ^ 64 →
      (distinct (allRows passes)).length ≤ count * limit.toNat →
      (∀ i < count, r.ServesPage x words columns o passes (.ofNat (i * limit.toNat)) limit
        (states i)) →
      ∃ pages : List (List α), pages.flatten = distinct (allRows passes) ∧
        (List.range count).map (fun i => (r.searchPasses x words columns o
          (.ofNat (i * limit.toNat)) limit (passes.map RankedPass.pass) (states i)).1) =
            pages.map .ok) := by
  refine ⟨fun offset limit s small serves => searchPasses_page different small serves, ?_⟩
  intro limit count states small last serves
  refine ⟨_, flatten_pages _ limit.toNat count last, ?_⟩
  rw [List.map_map]
  refine List.map_congr_left ?_
  intro i member
  have within : i < count := List.mem_range.mp member
  have reach : i * limit.toNat + limit.toNat ≤ count * limit.toNat := by
    rw [← Nat.succ_mul]
    exact Nat.mul_le_mul_right _ within
  have start : i * limit.toNat < 2 ^ 64 := by omega
  have place : (UInt64.ofNat (i * limit.toNat)).toNat = i * limit.toNat :=
    UInt64.toNat_ofNat_of_lt' start
  have page := searchPasses_page different (by omega) (serves i within)
  rw [place] at page
  exact page

/-- A row with a name, and maybe an identifier. -/
def town (id : Option Int64) (name : String) : Row :=
  ⟨("name", .text name) :: (id.map fun i => ("id", .integer i)).toList⟩

/-- Two rankings with a row in common. One of them has a row without an identifier. -/
def overlapping : List (RankedPass Row) :=
  [⟨.leading, [town (some 1) "Berlin", town (some 2) "Bern"]⟩,
    ⟨.containing, [town (some 3) "Oberbergen", town (some 2) "Bern", town none "Bernau"]⟩]

/-- Statements whose answers are known beforehand, as the rows that are left to answer with. -/
def foretold : Executor (List (List Row)) where
  dialect := .generic
  run _
    | [] => ([], [])
    | rows :: later => (rows.map fun row => .ok (.row row), later)
  report _ _ s := s

def firstRows (wanted : Nat) : List (List Row) := overlapping.map fun p => p.ranking.take wanted

def towns : SearchRepository Row := { table := ⟨"public", "towns"⟩, columns := ["name"] }

private theorem different_overlapping : ∀ p ∈ overlapping, (idsOf p.ranking).Nodup := by
  decide +kernel

private theorem serves_overlapping (offset : UInt64) :
    offset = 0 ∨ offset = 2 → towns.ServesPage foretold ["ber"] ["name"] {} overlapping offset 2
      (firstRows (offset.toNat + 2)) := by
  rintro (rfl | rfl)
  · exact fun _ => ⟨rfl, fun room => absurd room (by decide +kernel)⟩
  · exact fun _ => ⟨rfl, fun _ => ⟨rfl, trivial⟩⟩

theorem pages_of_overlapping :
    (∀ p ∈ overlapping, (idsOf p.ranking).Nodup) ∧
    (towns.searchPasses foretold ["ber"] ["name"] {} 2 2 (overlapping.map RankedPass.pass)
      (firstRows 4)).1 = .ok [town (some 3) "Oberbergen", town none "Bernau"] ∧
    ∃ pages : List (List Row),
      pages.flatten = [town (some 1) "Berlin", town (some 2) "Bern", town (some 3) "Oberbergen",
        town none "Bernau"] ∧
      (List.range 2).map (fun i => (towns.searchPasses foretold ["ber"] ["name"] {}
        (.ofNat (i * 2)) 2 (overlapping.map RankedPass.pass) (firstRows (i * 2 + 2))).1) =
          pages.map .ok := by
  obtain ⟨page, pages⟩ := pages_of_passes towns foretold ["ber"] ["name"] {} overlapping
    different_overlapping
  refine ⟨different_overlapping, page 2 2 _ (by decide) (serves_overlapping 2 (.inr rfl)), ?_⟩
  refine pages 2 2 (fun i => firstRows (i * 2 + 2)) (by decide) (by decide +kernel) ?_
  intro i within
  have either : i = 0 ∨ i = 1 := by omega
  rcases either with rfl | rfl
  · exact serves_overlapping 0 (.inl rfl)
  · exact serves_overlapping 2 (.inr rfl)

end SearchRepository

end TableAccess
