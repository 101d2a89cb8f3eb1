/-!
Texts put one after another with a separator. A separator follows a text only when that text
is not empty, so an empty text in front or in between does not double it.
-/

set_option autoImplicit false
set_option relaxedAutoImplicit false

namespace TableAccess.Text

/-- The texts in order, each but the last followed by the separator unless it is empty. -/
def joined (separator : String) : List String → String
  | [] => ""
  | [s] => s
  | s :: t :: rest => s ++ (if s = "" then "" else separator) ++ joined separator (t :: rest)

@[simp] theorem joined_nil (separator : String) : joined separator [] = "" := rfl

@[simp] theorem joined_singleton (separator s : String) : joined separator [s] = s := rfl

/-- A separator follows a text that is not the last one, unless the text is empty. -/
theorem joined_cons_cons (separator s t : String) (rest : List String) :
    joined separator (s :: t :: rest) =
      s ++ (if s = "" then "" else separator) ++ joined separator (t :: rest) := rfl

/-- Texts that are not empty are put together with the separator between each two of them. -/
theorem joined_eq_intercalate {separator : String} {ss : List String}
    (filled : ∀ s ∈ ss, s ≠ "") : joined separator ss = separator.intercalate ss := by
  induction ss with
  | nil => exact String.intercalate_nil.symm
  | cons s ss ih =>
    obtain ⟨first, others⟩ := List.forall_mem_cons.mp filled
    cases ss with
    | nil => exact String.intercalate_singleton.symm
    | cons t ss => rw [joined_cons_cons, if_neg first, ih others, String.intercalate_cons_cons]

end TableAccess.Text
