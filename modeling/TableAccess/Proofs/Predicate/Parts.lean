import TableAccess.Proofs.Predicate.Reading

/-!
The parts of a condition: atoms, and parts that one connective joins in parentheses.

A part is read as a whole wherever a condition can start, so what it means does not depend on
what stands around it.
-/

set_option autoImplicit false
set_option relaxedAutoImplicit false

namespace TableAccess

def Operator.words : Operator → List String
  | .isNot => ["IS", "NOT"]
  | op => [op.token]

/-- What an operator makes of the truth of its parts: one of them, or all. -/
def Operator.joins : Operator → List Bool → Bool
  | .or, bs => bs.any id
  | _, bs => bs.all id

namespace Operator

/-- The first parts can be joined first. -/
theorem joins_joins (op : Operator) (as bs : List Bool) :
    op.joins (op.joins as :: bs) = op.joins (as ++ bs) := by
  cases op with
  | or => simp only [joins, List.any_cons, List.any_append, id]
  | _ => simp only [joins, List.all_cons, List.all_append, id]

end Operator

namespace Reading

/-- The connectives join conditions. -/
def IsConnective (op : Operator) : Prop := op = .and ∨ op = .or

/-- The tokens of a part, read at the start of a condition, complete it. -/
def Reads (ts : List Token) (v : Assignment → Bool) : Prop :=
  ∀ outer level, ∃ factor e, (Stack.opened outer level).run ts = some ⟨outer, level, factor⟩ ∧
    factor.expr? = some e ∧ ∀ ρ, e.eval ρ = v ρ

/-- A text is a part of a condition with a meaning, whatever follows it. -/
def Stands (s : String) (v : Assignment → Bool) : Prop := ∃ ts, Lexes s ts ∧ Reads ts v

/-! ### Atoms -/

/-- The token of an operator is one word, or two. -/
theorem lexes_token (op : Operator) : Lexes op.token (op.words.map .word) := by
  cases op with
  | isNot =>
    have is : Lexes "IS" [.word "IS"] := .plain (by decide) (by decide)
    have not : Lexes "NOT" [.word "NOT"] := .plain (by decide) (by decide)
    have both := is.spaced not
    have text : "IS" ++ " " ++ "NOT" = Operator.isNot.token := by decide +kernel
    rw [text] at both
    exact both
  | _ => exact .plain (by decide) (by decide)

private theorem run_further {outer : List Level} {level : Level} {ws : List String}
    (nonempty : ws ≠ []) {more : List String} (others : ∀ w ∈ more, connective? w = none) :
    Stack.run ⟨outer, level, .words ws⟩ (more.map .word) =
      some ⟨outer, level, .words (ws ++ more)⟩ := by
  induction more generalizing ws with
  | nil => rw [List.append_nil]; rfl
  | cons w more ih =>
    have other : connective? w = none := others w List.mem_cons_self
    have stepped : Stack.step ⟨outer, level, .words ws⟩ (.word w) =
        some ⟨outer, level, .words (ws ++ [w])⟩ := by
      obtain ⟨c, ws, rfl⟩ := List.exists_cons_of_ne_nil nonempty
      simp only [Stack.step, other]
      cases (Factor.words (c :: ws)).expr? <;> rfl
    have longer : ws ++ [w] ≠ [] := List.append_ne_nil_of_right_ne_nil ws (List.cons_ne_nil w [])
    have rest := ih longer fun v member => others v (List.mem_cons_of_mem w member)
    rw [List.map_cons, Stack.run, stepped, Option.bind_some, rest, List.append_assoc,
      List.singleton_append]

/-- A column and two words are an atom, whatever the words are, and further words that are no
connectives belong to it. -/
theorem reads_atom {column second third : String} (name : isColumn column = true)
    {more : List String} (others : ∀ w ∈ more, connective? w = none) :
    Reads ((column :: second :: third :: more).map .word)
      fun ρ => ρ (column :: second :: third :: more) := by
  intro outer level
  refine ⟨.words ([column, second, third] ++ more), .atom ([column, second, third] ++ more), ?_,
    ?_, fun ρ => rfl⟩
  · have first : (Stack.opened outer level).step (.word column) =
        some ⟨outer, level, .words [column]⟩ := by
      simp only [Stack.step, Stack.opened, Factor.expr?, List.length_nil, Stack.further, name,
        if_true]
      rfl
    have start : (Stack.opened outer level).run ([column, second, third].map .word) =
        some ⟨outer, level, .words [column, second, third]⟩ := by
      rw [List.map_cons, Stack.run, first, Option.bind_some]
      rfl
    exact (Stack.run_trans start _).trans (run_further (List.cons_ne_nil _ _) others)
  · have long : 3 ≤ ([column, second, third] ++ more).length := by simp
    rw [Factor.expr?, if_pos long]

/-! ### Joined parts -/

/-- What stands before a condition within a level of one connective. -/
def Level.value (l : Level) (op : Operator) (ρ : Assignment) : List Bool :=
  match op with
  | .or => (l.alternatives.map (Expr.eval ρ)).toList
  | _ => (l.conjuncts.map (Expr.eval ρ)).toList

/-- The level has no other connective. -/
def Level.Only (l : Level) (op : Operator) : Prop :=
  match op with
  | .or => l.conjuncts = none
  | _ => l.alternatives = none

namespace Level

variable {l : Level} {op : Operator}

private theorem eval_close (only : l.Only op) (connective : IsConnective op) (e : Expr)
    (ρ : Assignment) : (l.close e).eval ρ = op.joins (l.value op ρ ++ [e.eval ρ]) := by
  obtain ⟨alternatives, conjuncts⟩ := l
  rcases connective with rfl | rfl
  · obtain rfl : alternatives = none := only
    cases conjuncts <;> simp [close, alternative, Expr.eval, value, Operator.joins]
  · obtain rfl : conjuncts = none := only
    cases alternatives <;> simp [close, alternative, Expr.eval, value, Operator.joins]

private theorem only_after (only : l.Only op) (connective : IsConnective op) (e : Expr) :
    (l.after op e).Only op := by
  rcases connective with rfl | rfl
  · exact only
  · rfl

private theorem value_after (only : l.Only op) (connective : IsConnective op) (e : Expr)
    (ρ : Assignment) : (l.after op e).value op ρ = [(l.close e).eval ρ] := by
  obtain ⟨alternatives, conjuncts⟩ := l
  rcases connective with rfl | rfl
  · obtain rfl : alternatives = none := only
    rfl
  · rfl

end Level

def separator (op : Operator) : String := " " ++ op.token ++ " "

private theorem connective?_token {op : Operator} (connective : IsConnective op) :
    connective? op.token = some op := by
  rcases connective with rfl | rfl
  · decide
  · decide

private theorem Stands.ne_empty {s : String} {v : Assignment → Bool} (h : Stands s v) :
    s ≠ "" := by
  rintro rfl
  obtain ⟨ts, lexes, reads⟩ := h
  obtain rfl : ts = [] := lexes.lex_eq.symm
  obtain ⟨factor, e, ran, complete, -⟩ := reads [] .empty
  cases ran
  cases complete

/-- Parts that a connective joins are read one after another, and complete the last condition of
their level. -/
private theorem read_joined {op : Operator} (connective : IsConnective op)
    {parts : List (String × (Assignment → Bool))} (nonempty : parts ≠ [])
    (stand : ∀ p ∈ parts, Stands p.1 p.2) :
    ∃ ts, Lexes (Text.joined (separator op) (parts.map Prod.fst)) ts ∧
      ∀ outer (l : Level), l.Only op → ∃ l' factor e,
        (Stack.opened outer l).run ts = some ⟨outer, l', factor⟩ ∧ factor.expr? = some e ∧
          ∀ ρ, (l'.close e).eval ρ = op.joins (l.value op ρ ++ parts.map fun p => p.2 ρ) := by
  induction parts with
  | nil => exact absurd rfl nonempty
  | cons p parts ih =>
    have first := stand p List.mem_cons_self
    obtain ⟨ts, lexes, reads⟩ := stand p List.mem_cons_self
    cases parts with
    | nil =>
      refine ⟨ts, lexes, fun outer l only => ?_⟩
      obtain ⟨factor, e, ran, complete, value⟩ := reads outer l
      refine ⟨l, factor, e, ran, complete, fun ρ => ?_⟩
      rw [l.eval_close only connective, value]
      rfl
    | cons q parts =>
      obtain ⟨us, lexes', read⟩ := ih (List.cons_ne_nil q parts)
        fun r member => stand r (List.mem_cons_of_mem p member)
      refine ⟨ts ++ ([Token.word op.token] ++ us), ?_, ?_⟩
      · have text : Text.joined (separator op) ((p :: q :: parts).map Prod.fst) =
            p.1 ++ " " ++ (op.token ++ " " ++
              Text.joined (separator op) ((q :: parts).map Prod.fst)) := by
          rw [List.map_cons, List.map_cons, Text.joined_cons_cons, if_neg first.ne_empty, separator]
          simp only [String.append_assoc]
        have token : Lexes op.token [.word op.token] := by
          have words := lexes_token op
          rcases connective with rfl | rfl <;> exact words
        rw [text]
        exact lexes.spaced (token.spaced lexes')
      · intro outer l only
        obtain ⟨factor, e, ran, complete, value⟩ := reads outer l
        -- The connective moves what has been read to the level, where the others go on.
        obtain ⟨l', factor', e', ran', complete', value'⟩ :=
          read outer (l.after op e) (l.only_after only connective e)
        have joined : Stack.run ⟨outer, l, factor⟩ [.word op.token] =
            some (Stack.opened outer (l.after op e)) := by
          simp only [Stack.run, Stack.step, complete, connective?_token connective]
          rfl
        refine ⟨l', factor', e', ?_, complete', fun ρ => ?_⟩
        · rw [Stack.run_trans ran, Stack.run_trans joined, ran']
        · rw [value', l.value_after only connective, l.eval_close only connective, value,
            List.singleton_append, Operator.joins_joins, List.append_assoc]
          rfl

/-- Parts that a connective joins, in parentheses, are a part. -/
theorem stands_joined {op : Operator} (connective : IsConnective op)
    {parts : List (String × (Assignment → Bool))} (nonempty : parts ≠ [])
    (stand : ∀ p ∈ parts, Stands p.1 p.2) :
    Stands ("(" ++ Text.joined (separator op) (parts.map Prod.fst) ++ ")")
      fun ρ => op.joins (parts.map fun p => p.2 ρ) := by
  obtain ⟨ts, lexes, read⟩ := read_joined connective nonempty stand
  refine ⟨_, lexes.enclosed, fun outer level => ?_⟩
  have only : Level.empty.Only op := by
    rcases connective with rfl | rfl <;> rfl
  have nothing (ρ : Assignment) : Level.empty.value op ρ = [] := by
    rcases connective with rfl | rfl <;> rfl
  obtain ⟨l, factor, e, ran, complete, value⟩ := read (level :: outer) .empty only
  refine ⟨.enclosed (l.close e), l.close e, ?_, rfl, fun ρ => ?_⟩
  · have opened : (Stack.opened outer level).run [.opening] =
        some (Stack.opened (level :: outer) .empty) := rfl
    have closed : Stack.run ⟨level :: outer, l, factor⟩ [.closing] =
        some ⟨outer, level, .enclosed (l.close e)⟩ := by
      simp only [Stack.run, Stack.step, complete, Option.bind_some]
    exact (Stack.run_trans opened _).trans ((Stack.run_trans ran _).trans closed)
  · rw [value, nothing, List.nil_append]

/-! ### Whole conditions -/

variable {s u : String} {v w : Assignment → Bool}

/-- A part by itself is a condition. -/
theorem Stands.means (h : Stands s v) : Means s v := by
  obtain ⟨ts, lexes, reads⟩ := h
  obtain ⟨factor, e, ran, complete, value⟩ := reads [] .empty
  refine ⟨e, ?_, value⟩
  rw [read, lexes.lex_eq, ran, Option.bind_some]
  simp only [Stack.expr?, complete, Option.map_some]
  rfl

/-- Any condition in parentheses is a part. -/
theorem Means.stands_enclosed (h : Means u w) : Stands ("(" ++ u ++ ")") w := by
  obtain ⟨e, isRead, value⟩ := h
  rw [read, Option.bind_eq_some_iff] at isRead
  obtain ⟨⟨outer, level, factor⟩, ran, whole⟩ := isRead
  cases outer with
  | cons _ _ => cases whole
  | nil =>
    rw [Stack.expr?, Option.map_eq_some_iff] at whole
    obtain ⟨e', complete, rfl⟩ := whole
    refine ⟨_, lexes_enclosed (Stack.stray_notMem ran), fun outer level' => ?_⟩
    refine ⟨.enclosed (level.close e'), level.close e', ?_, rfl, value⟩
    have opened : (Stack.opened outer level').run [.opening] =
        some (Stack.opened (level' :: outer) .empty) := rfl
    have inside := Stack.run_within (level' :: outer) ran
    have closed : Stack.run ⟨level' :: outer, level, factor⟩ [.closing] =
        some ⟨outer, level', .enclosed (level.close e')⟩ := by
      simp only [Stack.run, Stack.step, complete, Option.bind_some]
    exact (Stack.run_trans opened _).trans ((Stack.run_trans inside _).trans closed)

/-- Two parts with `AND` between them are a condition. -/
theorem Stands.and (h : Stands s v) (k : Stands u w) :
    Means (s ++ " AND " ++ u) fun ρ => v ρ && w ρ := by
  have stand : ∀ p ∈ [(s, v), (u, w)], Stands p.1 p.2 := by
    intro p member
    rcases List.mem_cons.mp member with rfl | last
    · exact h
    · obtain rfl := List.mem_singleton.mp last
      exact k
  obtain ⟨ts, lexes, reads⟩ := read_joined (.inl rfl) (List.cons_ne_nil _ _) stand
  obtain ⟨l, factor, e, ran, complete, value⟩ := reads [] .empty rfl
  have text : Text.joined (separator .and) ([(s, v), (u, w)].map Prod.fst) =
      s ++ " AND " ++ u := by
    rw [List.map_cons, List.map_cons, Text.joined_cons_cons, if_neg h.ne_empty]
    rfl
  rw [text] at lexes
  refine ⟨l.close e, ?_, fun ρ => ?_⟩
  · rw [read, lexes.lex_eq, ran, Option.bind_some]
    simp only [Stack.expr?, complete, Option.map_some]
  · rw [value]
    simp [Level.value, Level.empty, Operator.joins]

end Reading

end TableAccess
