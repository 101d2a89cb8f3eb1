import TableAccess.Statement.Draft

/-!
Characters that are replaced in a text while it is copied.

The copying goes on one byte behind a character that is replaced. So a character of one byte is
replaced everywhere, and one of several bytes nowhere: the next cut then lies within it, and stops
the program.
-/

set_option autoImplicit false
set_option relaxedAutoImplicit false

namespace TableAccess.Draft

variable {search : Char} {replacement : String}

/-- A character that does not occur is passed over. -/
private theorem escapeFrom_fresh (text : List Char) (position i : Nat) {rest : List Char}
    (fresh : search ∉ rest) (x : Draft) :
    escapeFrom text search replacement position i rest x =
      (Text.fromByte position text).map fun copied => x.push (String.ofList copied) := by
  induction rest generalizing i with
  | nil =>
    rw [escapeFrom]
    cases Text.fromByte position text <;> rfl
  | cons c rest ih =>
    obtain ⟨other, others⟩ := List.ne_and_not_mem_of_not_mem_cons fresh
    rw [escapeFrom, if_neg other.symm, ih _ others]

/-- From within a character nothing is copied any more. -/
private theorem escapeFrom_within (wide : 1 < search.utf8Size) (front passed rest : List Char)
    (x : Draft) :
    escapeFrom (front ++ search :: passed ++ rest) search replacement (Text.byteLength front + 1)
        (Text.byteLength (front ++ search :: passed)) rest x = .error .withinCharacter := by
  induction rest generalizing passed with
  | nil =>
    rw [escapeFrom, List.append_nil, Text.fromByte_within wide]
    rfl
  | cons c rest ih =>
    rw [escapeFrom]
    split
    · rw [Text.slice_eq, Text.fromByte_within wide]
      rfl
    · have behind := ih (passed ++ [c])
      rw [← List.cons_append, ← List.append_assoc front, Text.byteLength_append _ [c],
        Text.byteLength_cons, Text.byteLength_nil, Nat.add_zero, List.append_assoc _ [c],
        List.singleton_append] at behind
      exact behind

/-- A character of several bytes stops the program where it occurs first. -/
private theorem escapeFrom_wide (wide : 1 < search.utf8Size) (passed rest : List Char)
    (occurs : search ∈ rest) (x : Draft) :
    escapeFrom (passed ++ rest) search replacement 0 (Text.byteLength passed) rest x =
      .error .withinCharacter := by
  induction rest generalizing passed with
  | nil => cases occurs
  | cons c rest ih =>
    have next : Text.byteLength passed + c.utf8Size = Text.byteLength (passed ++ [c]) := by
      rw [Text.byteLength_append, Text.byteLength_cons, Text.byteLength_nil, Nat.add_zero]
    have further : passed ++ c :: rest = passed ++ [c] ++ rest := by
      rw [List.append_assoc, List.singleton_append]
    rw [escapeFrom, next, further]
    split
    · next hit =>
      subst hit
      have copied : Text.fromByte 0 passed = .ok passed := Text.fromByte_append [] passed
      rw [← further, Text.slice_eq, copied, Fault.ok_bind, further]
      exact escapeFrom_within wide passed [] rest _
    · next other =>
      exact ih (passed ++ [c]) ((List.mem_cons.mp occurs).resolve_left fun same => other same.symm)

/-- What is written of a text with a replacement for one of its characters: the text with each of
these replaced, unless the character takes up several bytes and occurs at all. -/
theorem escaped_eq (x : Draft) (search : Char) (replacement text : String) :
    x.escaped search replacement text =
      if 1 < search.utf8Size ∧ search ∈ text.toList then .error .withinCharacter
      else .ok (x.push (String.ofList
        (Literal.replaced search replacement.toList text.toList))) := by
  by_cases occurs : search ∈ text.toList
  · by_cases wide : 1 < search.utf8Size
    · rw [if_pos ⟨wide, occurs⟩]
      exact escapeFrom_wide wide [] text.toList occurs x
    · have byte : search.utf8Size = 1 := Nat.le_antisymm (Nat.not_lt.mp wide) search.utf8Size_pos
      rw [if_neg fun h => wide h.1, escaped_byte x byte]
  · rw [if_neg fun h => occurs h.2, escaped, escapeFrom_fresh _ _ _ occurs,
      Literal.replaced_of_not_mem _ occurs]
    exact congrArg (Except.map _) (Text.fromByte_append [] text.toList)

end TableAccess.Draft
