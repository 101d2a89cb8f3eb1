import TableAccess.Fault

/-!
Texts cut at their bytes in UTF-8. A cut lies between two characters or stops the program.
-/

set_option autoImplicit false
set_option relaxedAutoImplicit false

namespace TableAccess.Text

/-- What stands in front of a byte of a text, and what from there on. -/
def splitAtByte : Nat → List Char → Except Fault (List Char × List Char)
  | 0, s => .ok ([], s)
  | _ + 1, [] => .error .beyondText
  | n + 1, c :: s =>
    if c.utf8Size ≤ n + 1 then
      (splitAtByte (n + 1 - c.utf8Size) s).map fun (front, rest) => (c :: front, rest)
    else .error .withinCharacter

/-- What stands from a byte of a text on. -/
def fromByte (start : Nat) (s : List Char) : Except Fault (List Char) :=
  (splitAtByte start s).map Prod.snd

/-- What stands from one byte of a text up to another. -/
def slice (start stop : Nat) (s : List Char) : Except Fault (List Char) := do
  let (front, _) ← splitAtByte stop s
  fromByte start front

/-- How many bytes a text has. -/
def byteLength : List Char → Nat
  | [] => 0
  | c :: s => c.utf8Size + byteLength s

@[simp] theorem byteLength_nil : byteLength [] = 0 := rfl

@[simp] theorem byteLength_cons (c : Char) (s : List Char) :
    byteLength (c :: s) = c.utf8Size + byteLength s := rfl

@[simp] theorem byteLength_append (s t : List Char) :
    byteLength (s ++ t) = byteLength s + byteLength t := by
  induction s with
  | nil => rw [List.nil_append, byteLength_nil, Nat.zero_add]
  | cons c s ih => rw [List.cons_append, byteLength_cons, byteLength_cons, ih, Nat.add_assoc]

/-- A text is cut behind any of its fronts. -/
theorem splitAtByte_append (front rest : List Char) :
    splitAtByte (byteLength front) (front ++ rest) = .ok (front, rest) := by
  induction front with
  | nil => rw [byteLength_nil, List.nil_append, splitAtByte]
  | cons c front ih =>
    have wide := c.utf8Size_pos
    obtain ⟨n, whole⟩ : ∃ n, byteLength (c :: front) = n + 1 :=
      Nat.exists_eq_succ_of_ne_zero (by rw [byteLength_cons]; omega)
    rw [byteLength_cons] at whole
    have behind : n + 1 - c.utf8Size = byteLength front := by omega
    rw [byteLength_cons, whole, List.cons_append, splitAtByte, if_pos (by omega), behind, ih]
    rfl

/-- Behind the first byte of a wider character there is no cut. -/
theorem splitAtByte_within {c : Char} (wide : 1 < c.utf8Size) (front rest : List Char) :
    splitAtByte (byteLength front + 1) (front ++ c :: rest) = .error .withinCharacter := by
  induction front with
  | nil => exact if_neg (Nat.not_le.mpr wide)
  | cons d front ih =>
    have behind : byteLength (d :: front) + 1 - d.utf8Size = byteLength front + 1 := by
      rw [byteLength_cons]
      omega
    rw [List.cons_append, splitAtByte, if_pos (by rw [byteLength_cons]; omega), behind, ih]
    rfl

theorem fromByte_append (front rest : List Char) :
    fromByte (byteLength front) (front ++ rest) = .ok rest := by
  rw [fromByte, splitAtByte_append]
  rfl

theorem fromByte_within {c : Char} (wide : 1 < c.utf8Size) (front rest : List Char) :
    fromByte (byteLength front + 1) (front ++ c :: rest) = .error .withinCharacter := by
  rw [fromByte, splitAtByte_within wide]
  rfl

/-- A slice starts in what stands in front of its end. -/
theorem slice_eq (start : Nat) (front rest : List Char) :
    slice start (byteLength front) (front ++ rest) = fromByte start front := by
  rw [slice, splitAtByte_append]
  rfl

end TableAccess.Text
