import TableAccess.Number.Integer

/-!
What stops a program where it has no answer at all, not even an error: a sum that leaves its word
where sums are checked, a text that is cut within a character or behind its end, and a point in time
that no date of the calendar tells.
-/

set_option autoImplicit false
set_option relaxedAutoImplicit false

namespace TableAccess

/-- What stops a program. -/
inductive Fault
  | beyondWord (cause : IntegerError)
  | withinCharacter
  | beyondText
  | beyondCalendar
  deriving DecidableEq, Repr

namespace Fault

/-- A number that has to be one of a range of words. -/
def word (range : IntegerRange) (n : Int) : Except Fault Int :=
  (range.check n).mapError .beyondWord

/-- What comes of steps that do not stop. -/
def result {α : Type} : (r : Except Fault α) → r.isOk = true → α
  | .ok a, _ => a

/-- A step that does not stop hands on what it gives. -/
theorem ok_bind {α β : Type} (a : α) (f : α → Except Fault β) : (.ok a >>= f) = f a := rfl

theorem result_ok {α : Type} {a : α} {r : Except Fault α} (same : r = .ok a)
    (goes_on : r.isOk = true) : result r goes_on = a := by
  subst same
  rfl

end Fault

end TableAccess
