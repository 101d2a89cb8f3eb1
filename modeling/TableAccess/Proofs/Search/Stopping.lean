import TableAccess.Proofs.Search.Paging
import TableAccess.Proofs.Statement.Operations
import TableAccess.Proofs.Statement.Searching

/-!
The passes of a search that are run.

A search stops as soon as it has found the rows that are wanted, within a pass and between passes.
Its page is nevertheless cut from the distinct rows of all passes, run or not: only a pass before
which too few distinct rows have come could add to the page, and those are the passes that are run.
-/

set_option autoImplicit false
set_option relaxedAutoImplicit false

namespace TableAccess

variable {S α : Type} [Entity α]

/-- The state after some statements, whatever is answered. -/
def Executor.runAll (x : Executor S) (queries : List Query) (s : S) : S :=
  queries.foldl (fun s q => (x.run q s).2) s

omit [Entity α] in
theorem Executor.runAll_recorded (x : Executor S) (queries log : List Query) (s : S) :
    x.recorded.runAll queries (s, log) = (x.runAll queries s, log ++ queries) := by
  induction queries generalizing s log with
  | nil => rw [List.append_nil]; rfl
  | cons q queries ih =>
    have first : x.recorded.runAll (q :: queries) (s, log) =
        x.recorded.runAll queries ((x.run q s).2, log ++ [q]) := rfl
    rw [first, ih, List.append_assoc]
    rfl

namespace SearchRepository

variable {r : SearchRepository α} {x : Executor S} {words columns : List String} {o : Clauses}
  {wanted : Nat}

/-- The passes before which fewer distinct rows have come than are wanted, when there were some
rows before the first of them. -/
def neededAfter (wanted : Nat) (before : List α) : List (RankedPass α) → List (RankedPass α)
  | [] => []
  | p :: passes =>
    let later := neededAfter wanted (before ++ p.ranking) passes
    if (distinct before).length < wanted then p :: later else later

/-- The passes before which fewer distinct rows have come than are wanted. -/
def needed (wanted : Nat) (passes : List (RankedPass α)) : List (RankedPass α) :=
  neededAfter wanted [] passes

/-- Further rows do not take any distinct rows away. -/
theorem length_distinct_append_le (rows others : List α) :
    (distinct rows).length ≤ (distinct (rows ++ others)).length := by
  rw [distinct_append, List.length_append]
  exact Nat.le_add_right _ _

theorem neededAfter_enough {before : List α} (enough : wanted ≤ (distinct before).length)
    (passes : List (RankedPass α)) : neededAfter wanted before passes = [] := by
  induction passes generalizing before with
  | nil => rfl
  | cons p passes ih =>
    have more := Nat.le_trans enough (length_distinct_append_le before p.ranking)
    rw [neededAfter, ih more, if_neg (Nat.not_lt_of_le enough)]

/-- The statement of a pass. -/
def passQuery (r : SearchRepository α) (x : Executor S) (words columns : List String) (o : Clauses)
    (p : RankedPass α) : Query :=
  (Statement.search x.dialect r.table words columns o p.pass).query

/-- The statements of passes, run one after another from a state on, give their rows. -/
def Answered (r : SearchRepository α) (x : Executor S) (words columns : List String)
    (o : Clauses) : List (RankedPass α) → S → Prop
  | [], _ => True
  | p :: passes, s =>
    let (answer, s) := x.run (r.passQuery x words columns o p) s
    answer.entities = .ok p.ranking ∧ r.Answered x words columns o passes s

theorem answered_recorded {passes : List (RankedPass α)} {s : S} (log : List Query)
    (answered : r.Answered x words columns o passes s) :
    r.Answered x.recorded words columns o passes (s, log) := by
  induction passes generalizing s log with
  | nil => trivial
  | cons p passes ih =>
    obtain ⟨first, others⟩ := answered
    exact ⟨first, ih _ others⟩

/-- What has been found and the rows of a further pass are the distinct rows of all, up to the
wanted number. -/
private theorem found_ranking {before : List α} (few : (distinct before).length ≤ wanted)
    (ranking : List α) :
    (Found.of (distinct before)).addAll wanted ranking =
      .of ((distinct (before ++ ranking)).take wanted) := by
  rw [Found.addAll_of few, distinct_append]

theorem runPasses_needed {before : List α} {passes : List (RankedPass α)} {s : S}
    (answered : r.Answered x words columns o (neededAfter wanted before passes) s) :
    r.runPasses x words columns o wanted (.of ((distinct before).take wanted))
        (passes.map RankedPass.pass) s =
      (.ok ((distinct (before ++ allRows passes)).take wanted),
        x.runAll ((neededAfter wanted before passes).map (r.passQuery x words columns o)) s) := by
  -- Any rows may have come before, so that each pass can hand its own to the others.
  induction passes generalizing before s with
  | nil =>
    rw [allRows, List.flatMap_nil, List.append_nil]
    rfl
  | cons p passes ih =>
    rw [List.map_cons]
    by_cases enough : wanted ≤ (distinct before).length
    · rw [runPasses_enough enough, neededAfter_enough enough, distinct_append,
        List.take_append_of_le_length enough]
      rfl
    · have few : (distinct before).length < wanted := Nat.lt_of_not_le enough
      have split : neededAfter wanted before (p :: passes) =
          p :: neededAfter wanted (before ++ p.ranking) passes := by
        rw [neededAfter, if_pos few]
      rw [split] at answered ⊢
      cases ran : x.run (r.passQuery x words columns o p) s with
      | mk answer after =>
        simp only [Answered, ran] at answered
        obtain ⟨served, others⟩ := answered
        have rest := ih others
        have later : x.runAll ((p :: neededAfter wanted (before ++ p.ranking) passes).map
            (r.passQuery x words columns o)) s = x.runAll
              ((neededAfter wanted (before ++ p.ranking) passes).map
                (r.passQuery x words columns o)) after := by
          rw [Executor.runAll, List.map_cons, List.foldl_cons, ran]
          rfl
        rw [runPasses_further few ran served, found_ranking (Nat.le_of_lt few), rest, later,
          allRows, allRows, List.flatMap_cons, List.append_assoc]

/-- Without wanted rows no pass is needed. -/
theorem needed_zero (passes : List (RankedPass α)) : needed 0 passes = [] :=
  neededAfter_enough (Nat.zero_le _) passes

omit [Entity α] in
/-- The statement of a pass for a page is its statement without paging, with the wanted number of
rows as its limit. -/
theorem passQuery_reaching (p : RankedPass α) {offset limit : UInt64}
    (some_rows : 0 < (saturatingSum offset limit).toNat) :
    r.passQuery x words columns (reaching o offset limit) p =
      let unpaged := r.passQuery x words columns { o with offset := none, limit := none } p
      ⟨unpaged.sql ++ " LIMIT " ++ Text.natText (saturatingSum offset limit).toNat,
        unpaged.params⟩ := by
  have positive : saturatingSum offset limit ≠ 0 := by
    intro zero
    rw [zero] at some_rows
    exact absurd some_rows (by decide)
  have paged := Statement.query_search_paged x.dialect r.table words columns p.pass
    (reaching o offset limit)
  rw [passQuery, paged, passQuery]
  simp only [reaching, Statement.countAfter, if_neg positive, String.empty_append,
    String.append_assoc]

omit [Entity α] in
/-- The rows at the place of a page do not go beyond the last row that any page can reach. -/
private theorem page_of_reached {rows : List α} {offset limit : UInt64}
    (counted : offset.toNat + limit.toNat < 2 ^ 64 ∨ rows.length < 2 ^ 64) :
    ((rows.take (saturatingSum offset limit).toNat).drop offset.toNat).take limit.toNat =
      (rows.drop offset.toNat).take limit.toNat := by
  rw [toNat_saturatingSum]
  rcases counted with within | short
  · rw [Nat.min_eq_left (by omega), List.drop_take, Nat.add_sub_cancel_left, List.take_take,
      Nat.min_self]
  · by_cases fits : offset.toNat + limit.toNat ≤ 2 ^ 64 - 1
    · rw [Nat.min_eq_left fits, List.drop_take, Nat.add_sub_cancel_left, List.take_take,
        Nat.min_self]
    · have all : rows.take (2 ^ 64 - 1) = rows := List.take_of_length_le (by omega)
      have reached : (rows.drop offset.toNat).length ≤ limit.toNat := by
        rw [List.length_drop]
        omega
      rw [Nat.min_eq_right (by omega), all]

/-- A page of a search by several passes is cut from the distinct rows of all passes, whatever
rows these give, although only those passes are run before which fewer distinct rows have come
than reach to the end of the page. Their statements take that many rows and pass over none. A page
may reach beyond the greatest word, as long as a word counts the rows. -/
theorem page_of_needed_passes (r : SearchRepository α) (x : Executor S)
    (words columns : List String) (o : Clauses) (passes : List (RankedPass α))
    (offset limit : UInt64) (s : S)
    (answered : r.Answered x words columns (reaching o offset limit)
      (needed (min (offset.toNat + limit.toNat) (2 ^ 64 - 1)) passes) s)
    (counted : offset.toNat + limit.toNat < 2 ^ 64 ∨ (distinct (allRows passes)).length < 2 ^ 64) :
    let wanted := min (offset.toNat + limit.toNat) (2 ^ 64 - 1)
    let sent := (needed wanted passes).map
      (r.passQuery x words columns (reaching o offset limit))
    r.searchPasses x.recorded words columns o offset limit (passes.map RankedPass.pass) (s, []) =
        (.ok (((distinct (allRows passes)).drop offset.toNat).take limit.toNat),
          (x.runAll sent s, sent)) ∧
      ∀ p ∈ needed wanted passes,
        let unpaged := r.passQuery x words columns { o with offset := none, limit := none } p
        r.passQuery x words columns (reaching o offset limit) p =
          ⟨unpaged.sql ++ " LIMIT " ++ Text.natText wanted, unpaged.params⟩ := by
  rw [← toNat_saturatingSum] at answered ⊢
  intro wanted sent
  constructor
  · have nothing : (Found.nothing : Found α) =
        .of ((distinct ([] : List α)).take wanted) := by
      rw [distinct, distinctFrom, List.take_nil]
      rfl
    have ran := runPasses_needed (answered_recorded [] answered)
    rw [Executor.runAll_recorded, List.nil_append, List.nil_append, ← nothing] at ran
    simp only [searchPasses]
    rw [reaching] at ran
    rw [ran]
    simp only [page_of_reached counted]
    rfl
  · intro p member
    refine passQuery_reaching p (Nat.pos_of_ne_zero fun zero => ?_)
    rw [show wanted = 0 from zero, needed_zero] at member
    exact List.not_mem_nil member

/-- Rankings with rows that are repeated, within them and in others. -/
def repeating : List (RankedPass Row) :=
  [⟨.leading, [town (some 1) "Berlin", town (some 1) "Berlin", town (some 2) "Bern"]⟩,
    ⟨.containing, [town (some 3) "Oberbergen", town (some 2) "Bern", town none "Bernau"]⟩,
    ⟨.fuzzy "levenshtein", [town (some 4) "Ulm"]⟩]

/-- A search is over after two of three passes, and one that reaches beyond the greatest word runs
all of them. -/
theorem page_of_repeating :
    let rankings := repeating.map RankedPass.ranking
    let page (offset limit : UInt64) := towns.searchPasses foretold.recorded ["ber"] ["name"] {}
      offset limit (repeating.map RankedPass.pass) (rankings, [])
    (page 1 3).1 = .ok [town (some 2) "Bern", town (some 3) "Oberbergen", town none "Bernau"] ∧
    (page 1 3).2.2.map Query.sql =
      ["SELECT * FROM public.towns WHERE (name ILIKE $1 || '%') ORDER BY \"id\" ASC LIMIT 4",
        "SELECT * FROM public.towns WHERE (name ILIKE '%' || $1 || '%') " ++
          "ORDER BY \"id\" ASC LIMIT 4"] ∧
    (page 3 (.ofNat (2 ^ 64 - 1))).1 = .ok [town none "Bernau", town (some 4) "Ulm"] := by
  intro rankings page
  have first := page_of_needed_passes towns foretold ["ber"] ["name"] {} repeating 1 3 rankings
    ⟨rfl, rfl, trivial⟩ (.inl (by decide))
  have every : needed (min ((3 : UInt64).toNat + (UInt64.ofNat (2 ^ 64 - 1)).toNat) (2 ^ 64 - 1))
      repeating = repeating := rfl
  have answered : towns.Answered foretold ["ber"] ["name"] (reaching {} 3 (.ofNat (2 ^ 64 - 1)))
      repeating rankings := ⟨rfl, rfl, rfl, trivial⟩
  have last := page_of_needed_passes towns foretold ["ber"] ["name"] {} repeating 3
    (.ofNat (2 ^ 64 - 1)) rankings (every ▸ answered) (.inr (by decide +kernel))
  refine ⟨(congrArg Prod.fst first.1).trans rfl, ?_, (congrArg Prod.fst last.1).trans rfl⟩
  refine (congrArg (fun r => r.2.2.map Query.sql) first.1).trans ?_
  decide +kernel

end SearchRepository

end TableAccess
