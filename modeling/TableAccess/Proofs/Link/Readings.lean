import TableAccess.Proofs.Link.Forms

/-!
Forms read as the parameters of a connection text.

A connection text keeps plus signs as they are, so that it reads what a form has written with plus
signs in place of blanks. What it reads in any other query is read by a form as well, with blanks in
place of plus signs; so a part comes through a form unchanged exactly if it stands for texts without
blanks.
-/

set_option autoImplicit false
set_option relaxedAutoImplicit false

namespace TableAccess.Link

namespace Target

/-! ### Parts of a query -/

theorem parameterItems_nil : parameterItems [] = [] := by
  rw [parameterItems]
  rfl

private theorem parameterItems_eq {s : List Char} (filled : s ≠ []) : parameterItems s =
    match Text.cutFirst (· == '=') s with
    | none => [.error .unterminated]
    | some (key, rest) =>
      match Text.cutFirst (· == '&') rest with
      | none => [parameterItem key rest]
      | some (value, rest) => parameterItem key value :: parameterItems rest := by
  have some_text : s.isEmpty = false := List.isEmpty_eq_false_iff.mpr filled
  rw [parameterItems, some_text, if_neg Bool.false_ne_true]
  split
  · next uncut => rw [uncut]
  · next cut =>
    rw [cut]
    dsimp only
    split
    · next uncut => rw [uncut]
    · next cut => rw [cut]

section Cut

variable {key value : List Char} (keyed : '=' ∉ key) (ended : '&' ∉ value)

include keyed ended

/-- The last parameter of a query. -/
theorem parameterItems_singleton :
    parameterItems (key ++ '=' :: value) = [parameterItem key value] := by
  rw [parameterItems_eq (by simp), Text.cutFirst_append (Text.beq_false_of_not_mem keyed) rfl]
  dsimp only
  rw [Text.cutFirst_eq_none (Text.beq_false_of_not_mem ended)]

/-- A parameter in front of others. -/
theorem parameterItems_cons (rest : List Char) :
    parameterItems (key ++ '=' :: value ++ '&' :: rest) =
      parameterItem key value :: parameterItems rest := by
  rw [List.append_assoc, List.cons_append, parameterItems_eq (by simp),
    Text.cutFirst_append (Text.beq_false_of_not_mem keyed) rfl]
  dsimp only
  rw [Text.cutFirst_append (Text.beq_false_of_not_mem ended) rfl]

end Cut

/-! ### What a form has written -/

private theorem decodeBytes_encode (s : String) :
    decodeBytes (Form.encode s) = Text.utf8Bytes (plussed s).toList := by
  rw [decodeBytes, Form.percentDecode_encode, plussed, String.toList_ofList]

private theorem ofBytes_utf8Bytes (s : String) : ofBytes (Text.utf8Bytes s.toList) = .ok s := by
  rw [ofBytes, Text.ofUtf8_utf8Bytes]
  dsimp only
  rw [String.ofList_toList]

theorem decode_encode (s : String) : decode (Form.encode s) = .ok (plussed s) := by
  rw [decode, decodeBytes_encode, ofBytes_utf8Bytes]

private theorem hostItem_encode (s : String) :
    hostItem (Form.encode s) = .ok ("host", plussed s) := by
  simp only [hostItem, decodeBytes_encode, ofBytes_utf8Bytes, Text.lossy_utf8Bytes,
    String.ofList_toList]
  exact ite_self _

theorem parameterItem_encode (key value : String) :
    parameterItem (Form.encode key) (Form.encode value) = .ok (plussed key, plussed value) := by
  rw [parameterItem, decode_encode]
  dsimp only
  by_cases host : plussed key = "host"
  · rw [if_pos host, hostItem_encode, host]
  · rw [if_neg host, item, decode_encode]
    rfl

private theorem keyed (pair : String × String) : '=' ∉ Form.encode pair.1 :=
  Form.not_mem_encode (by decide)

private theorem ended (pair : String × String) : '&' ∉ Form.encode pair.2 :=
  Form.not_mem_encode (by decide)

/-- What stands behind a form belongs to the last of its pairs. -/
theorem parameterItems_write_append (f : Form) (pair : String × String) (rest : List Char) :
    parameterItems (Form.write (f ++ [pair]) ++ rest) =
      (f.map fun pair => .ok (plussed pair.1, plussed pair.2)) ++
        parameterItems (Form.writePair pair ++ rest) := by
  induction f with
  | nil =>
    rw [List.nil_append, Form.write_singleton]
    rfl
  | cons first f ih =>
    obtain ⟨next, others, same⟩ := List.exists_cons_of_ne_nil
      (List.append_ne_nil_of_right_ne_nil f (List.cons_ne_nil pair []))
    rw [List.cons_append, same, Form.write_cons_cons, ← same, List.append_assoc,
      List.cons_append, Form.writePair, parameterItems_cons (keyed first) (ended first),
      parameterItem_encode, ih]
    rfl

/-- What a form has written is read with plus signs in place of blanks. -/
theorem parameterItems_write (f : Form) :
    parameterItems f.write = f.map fun pair => .ok (plussed pair.1, plussed pair.2) := by
  rcases List.eq_nil_or_concat f with rfl | ⟨f, pair, rfl⟩
  · exact parameterItems_nil
  · have last := parameterItems_write_append f pair []
    rw [List.append_nil, List.append_nil, Form.writePair,
      parameterItems_singleton (keyed pair) (ended pair), parameterItem_encode] at last
    rw [List.concat_eq_append, last, List.map_append]
    rfl

/-! ### Parts that come through a form unchanged -/

/-- A text that is read has no bytes to replace. -/
private theorem lossy_of_decode {s : List Char} {t : String} (read : decode s = .ok t) :
    String.ofList (Text.lossy (decodeBytes s)) = t := by
  rw [decode, ofBytes] at read
  cases bytes : Text.ofUtf8 (decodeBytes s) with
  | error e =>
    rw [bytes] at read
    cases read
  | ok cs =>
    rw [bytes] at read
    cases read
    rw [Text.lossy_of_ofUtf8 bytes]

/-- A text that a connection text reads is read by a form as well. -/
private theorem plussed_of_decode {s : List Char} {t : String} (read : decode s = .ok t) :
    plussed (Form.decode s) = plussed t :=
  (Form.plussed_decode s).trans (congrArg plussed (lossy_of_decode read))

/-- A part of a query denotes a key and a value, which are percent encoded around the first equals
sign. -/
def Denotes (part : List Char) (key value : String) : Prop :=
  ∃ k v, part = k ++ '=' :: v ∧ '=' ∉ k ∧ decode k = .ok key ∧ decode v = .ok value

/-- A connection text reads what a part denotes, for hosts as well. -/
theorem Denotes.parameterItems_eq {part : List Char} {key value : String}
    (h : Denotes part key value) (unseparated : '&' ∉ part) :
    parameterItems part = [.ok (key, value)] := by
  obtain ⟨k, v, rfl, keyed, name, text⟩ := h
  have ended : '&' ∉ v := fun member =>
    unseparated (List.mem_append_right _ (List.mem_cons_of_mem _ member))
  have host : hostItem v = .ok ("host", value) := by
    have replaced := lossy_of_decode text
    rw [decode] at text
    rw [hostItem, text, replaced]
    exact ite_self _
  rw [parameterItems_singleton keyed ended, parameterItem, name]
  dsimp only
  by_cases named : key = "host"
  · rw [if_pos named, host, named]
  · rw [if_neg named, item, text]
    rfl

/-- What a part denotes, a form reads as well. -/
private theorem Denotes.plussed_readPair {part : List Char} {key value : String}
    (h : Denotes part key value) :
    plussed (Form.readPair part).1 = plussed key ∧
      plussed (Form.readPair part).2 = plussed value := by
  obtain ⟨k, v, rfl, keyed, name, text⟩ := h
  rw [Form.readPair, Text.cutFirst_append (Text.beq_false_of_not_mem keyed) rfl]
  exact ⟨plussed_of_decode name, plussed_of_decode text⟩

/-- What a form has written for a part is what the part denotes exactly if that has no blanks. -/
theorem denotes_plussed_iff {part : List Char} :
    Denotes part (plussed (Form.readPair part).1) (plussed (Form.readPair part).2) ↔
      ∃ key value, Denotes part key value ∧ Blankless key ∧ Blankless value := by
  constructor
  · intro same
    exact ⟨_, _, same, blankless_plussed _, blankless_plussed _⟩
  · rintro ⟨key, value, denotes, keyless, valueless⟩
    obtain ⟨first, second⟩ := denotes.plussed_readPair
    rwa [first, second, plussed_eq_self keyless, plussed_eq_self valueless]

end Target

end TableAccess.Link
