import TableAccess.Proofs.Transaction.Units

/-!
The course of a work when no statement fails: what it ends with, what the units within it end
with, and the statements that it sends.

Only the statements depend on whether units nest by savepoints. Without them they are the same
statements less those that set a savepoint or go back to one.
-/

set_option autoImplicit false
set_option relaxedAutoImplicit false

namespace TableAccess.Reference

open Client (savepointName)

/-- The command opens or closes a transaction. -/
def Command.bounds : Command → Bool
  | .begin | .commit | .rollback => true
  | .savepoint _ | .rollbackTo _ | .write => false

/-- The command sets a savepoint or goes back to one. -/
def Command.marks : Command → Bool
  | .savepoint _ | .rollbackTo _ => true
  | .begin | .commit | .rollback | .write => false

/-- The statement neither sets a savepoint nor goes back to one. -/
def unmarked (q : Query) : Bool := !(Command.of q.sql).marks

theorem unmarked_savepoint (name : String) :
    unmarked (.plain (Statement.savepoint name)) = false := by
  rw [unmarked, Query.plain, Command.of_savepoint]
  rfl

theorem unmarked_rollbackTo (name : String) :
    unmarked (.plain (Statement.rollbackTo name)) = false := by
  rw [unmarked, Query.plain, Command.of_rollbackTo]
  rfl

theorem unmarked_write (w : Write) : unmarked w.query = true := by
  rw [unmarked, w.plain]
  rfl

namespace Work

/-- What a work ends with after a part of it has ended, by what the rest of it ends with. -/
def resumed (tolerated : Bool) (part rest : Result) : Result :=
  match part with
  | .ok kept => rest.map (kept ++ ·)
  | .error f => if tolerated then rest else .error f

/-- The rest of a work is run after a part of it has ended. -/
def goesOn (tolerated : Bool) (part : Result) : Bool := part.isOk || tolerated

/-- What a work ends with. -/
def result : Work → Result
  | .finish none => .ok []
  | .finish (some f) => .error f
  | .write w tolerated rest => resumed tolerated (.ok [w.query]) rest.result
  | .unit body tolerated rest => resumed tolerated body.result rest.result

/-- What the units within a work end with, in the order of their ends. -/
def results : Work → List Result
  | .finish _ => []
  | .write _ _ rest => rest.results
  | .unit body tolerated rest =>
    body.results ++ body.result :: (if goesOn tolerated body.result then rest.results else [])

/-- The statements of a unit at a depth, by those of its work and what that ends with. -/
def bracketed (useSavepoints : Bool) (depth : Nat) (inner : List Query) (end? : Result) :
    List Query :=
  if useSavepoints then
    .plain (Statement.savepoint (savepointName depth)) :: (inner ++
      if end?.isOk then [] else [.plain (Statement.rollbackTo (savepointName depth))])
  else inner

/-- The depth of the work of a unit at a depth. -/
def innerDepth (useSavepoints : Bool) (depth : Nat) : Nat :=
  if useSavepoints then depth + 1 else depth

/-- The statements that a work sends on a started client with a number of savepoints. -/
def statements (useSavepoints : Bool) : Work → Nat → List Query
  | .finish _, _ => []
  | .write w _ rest, depth => w.query :: rest.statements useSavepoints depth
  | .unit body tolerated rest, depth =>
    bracketed useSavepoints depth (body.statements useSavepoints (innerDepth useSavepoints depth))
        body.result ++
      if goesOn tolerated body.result then rest.statements useSavepoints depth else []

/-- The savepoints of a unit are all that it adds to the statements of its work. -/
private theorem filter_bracketed (depth : Nat) (inner : List Query) (end? : Result) :
    (bracketed true depth inner end?).filter unmarked = inner.filter unmarked := by
  have mark := unmarked_savepoint (savepointName depth)
  have back := unmarked_rollbackTo (savepointName depth)
  rw [bracketed, if_pos rfl, List.filter_cons_of_neg (by rw [mark]; exact Bool.false_ne_true),
    List.filter_append]
  cases end? with
  | ok kept => exact List.append_nil _
  | error f =>
    have nothing : [Query.plain (Statement.rollbackTo (savepointName depth))].filter unmarked =
        [] := List.filter_cons_of_neg (by rw [back]; exact Bool.false_ne_true)
    exact (congrArg _ nothing).trans (List.append_nil _)

/-- Without savepoints a work sends what it sends with them, less the savepoints, at whatever
depths the two are run. -/
theorem statements_joined (work : Work) (depth joined : Nat) :
    work.statements false joined = (work.statements true depth).filter unmarked := by
  induction work generalizing depth joined with
  | finish failure => rfl
  | write w tolerated rest ih =>
    rw [statements, statements, List.filter_cons_of_pos (unmarked_write w), ← ih depth joined]
  | unit body tolerated rest inner ih =>
    rw [statements, statements, List.filter_append, filter_bracketed]
    have level := inner (innerDepth true depth) (innerDepth false joined)
    rw [← level]
    by_cases further : goesOn tolerated body.result
    · rw [if_pos further, if_pos further, ← ih depth joined]
      rfl
    · rw [if_neg further, if_neg further]
      rfl

/-- A work neither opens nor closes the transaction of its client. -/
theorem bounds_statements (useSavepoints : Bool) (work : Work) (depth : Nat) :
    ∀ q ∈ work.statements useSavepoints depth, (Command.of q.sql).bounds = false := by
  induction work generalizing depth with
  | finish failure =>
    intro q mem
    cases mem
  | write w tolerated rest ih =>
    intro q mem
    rcases List.mem_cons.mp mem with rfl | later
    · rw [w.plain]
      rfl
    · exact ih depth q later
  | unit body tolerated rest inner ih =>
    intro q mem
    rw [statements, List.mem_append] at mem
    rcases mem with level | later
    · have within := inner (innerDepth useSavepoints depth) q
      cases useSavepoints with
      | false => exact within level
      | true =>
        rcases List.mem_cons.mp level with rfl | level
        · rw [Query.plain, Command.of_savepoint]
          rfl
        · rcases List.mem_append.mp level with body_statement | back
          · exact within body_statement
          · split at back
            · cases back
            · obtain rfl := List.mem_singleton.mp back
              rw [Query.plain, Command.of_rollbackTo]
              rfl
    · split at later
      · exact ih depth q later
      · cases later

end Work

end TableAccess.Reference
