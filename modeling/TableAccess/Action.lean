import TableAccess.Failure

/-!
Work on a state that may fail, and that may be abandoned half way: because it is cancelled, or
because a check of it does not hold. A failure can be caught, an abandonment can not.
-/

set_option autoImplicit false
set_option relaxedAutoImplicit false

namespace TableAccess

/-- Why work is abandoned. -/
inductive Stop
  | cancelled
  | check (text : String)
  deriving DecidableEq, Repr

/-- How work ends. -/
inductive Outcome (α : Type)
  | done (value : α)
  | failed (f : Failure)
  | abandoned (why : Stop)

/-- Work on a state. Whatever its end, it leaves a state behind. -/
def Action (S α : Type) : Type := S → Outcome α × S

namespace Action

variable {S α β : Type}

/-- Work that does nothing. -/
def done (a : α) : Action S α := fun s => (.done a, s)

/-- Work that fails. -/
def fail (f : Failure) : Action S α := fun s => (.failed f, s)

/-- Work that is abandoned. -/
def abandon (why : Stop) : Action S α := fun s => (.abandoned why, s)

/-- One piece of work after another that has been done. -/
def andThen (a : Action S α) (next : α → Action S β) : Action S β := fun s =>
  match a s with
  | (.done x, s) => next x s
  | (.failed f, s) => (.failed f, s)
  | (.abandoned why, s) => (.abandoned why, s)

instance : Monad (Action S) where
  pure := done
  bind := andThen

/-- Work that ends with its failure instead of failing. -/
def attempt (a : Action S α) : Action S (Except Failure α) := fun s =>
  match a s with
  | (.done x, s) => (.done (.ok x), s)
  | (.failed f, s) => (.done (.error f), s)
  | (.abandoned why, s) => (.abandoned why, s)

/-- A computation that gives a value or fails, as work. -/
def ofFallible (run : S → Except Failure α × S) : Action S α := fun s =>
  match run s with
  | (.ok x, s) => (.done x, s)
  | (.error f, s) => (.failed f, s)

/-- A change of the state. -/
def change (f : S → S) : Action S Unit := fun s => (.done (), f s)

/-- What is seen of the state. -/
def observe (f : S → α) : Action S α := fun s => (.done (f s), s)

/-- Work on a part of the state. -/
def focus {T : Type} (get : S → T) (set : T → S → S) (a : Action T α) : Action S α := fun s =>
  let (outcome, t) := a (get s)
  (outcome, set t s)

end Action

end TableAccess
