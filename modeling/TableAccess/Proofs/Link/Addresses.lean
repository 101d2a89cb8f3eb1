import Mathlib.Data.List.TakeWhile
import TableAccess.Link.Settings
import TableAccess.Proofs.Link.Readings

/-!
The part of a URL in front of its query.

The text of a URL of a server has no question mark in front of its query, so that a connection text
reads that part by itself and the query as its parameters. What is written for a form has no sign
that ends a user, and so the query is not taken for a user either.
-/

set_option autoImplicit false
set_option relaxedAutoImplicit false

namespace TableAccess.Link

namespace Target

/-! ### A connection text with a query -/

private theorem takeWhile_stop {p : Char → Bool} {c : Char} (stop : p c = false) (s t : List Char) :
    (s ++ c :: t).takeWhile p = s.takeWhile p := by
  induction s with
  | nil => rw [List.nil_append, List.takeWhile_cons_of_neg (by simp [stop]), List.takeWhile_nil]
  | cons d s ih => rw [List.cons_append, List.takeWhile_cons, List.takeWhile_cons, ih]

private theorem dropWhile_stop {p : Char → Bool} {c : Char} (stop : p c = false) (s t : List Char) :
    (s ++ c :: t).dropWhile p = s.dropWhile p ++ c :: t := by
  induction s with
  | nil => rw [List.nil_append, List.dropWhile_cons_of_neg (by simp [stop])]; rfl
  | cons d s ih =>
    rw [List.cons_append, List.dropWhile_cons, List.dropWhile_cons, ih]
    split <;> rfl

/-- The host ends at the path or at the query. -/
private def staysInHost (c : Char) : Bool := !(c == '/' || c == '?')

private def isPathStart (s : List Char) : Prop := s = [] ∨ ∃ rest, s = '/' :: rest

private theorem databaseItems_query {rest : List Char} (start : isPathStart rest)
    (unasked : '?' ∉ rest) (query : List Char) :
    databaseItems (rest ++ '?' :: query) = databaseItems rest ++ parameterItems query := by
  rcases start with rfl | ⟨path, rfl⟩
  · rfl
  · have silent : ∀ c ∈ path, (c != '?') = true := by
      intro c member
      rw [bne_iff_ne]
      rintro rfl
      exact unasked (List.mem_cons_of_mem _ member)
    have nothing : path.dropWhile (· != '?') = [] := List.dropWhile_eq_nil_iff.mpr silent
    simp only [databaseItems, List.cons_append, takeWhile_stop (p := (· != '?')) (c := '?') rfl,
      dropWhile_stop (p := (· != '?')) (c := '?') rfl, nothing, List.nil_append, List.append_nil]

private theorem isPathStart_dropWhile {s : List Char} (unasked : '?' ∉ s) :
    isPathStart (s.dropWhile staysInHost) := by
  cases rest : s.dropWhile staysInHost with
  | nil => exact .inl rfl
  | cons c t =>
    have stops : staysInHost c = false := by
      have head := List.head?_dropWhile_not staysInHost s
      rw [rest] at head
      simpa using head
    have member : c ∈ s := (List.dropWhile_sublist _).mem (rest ▸ List.mem_cons_self)
    rw [staysInHost, Bool.not_eq_false', Bool.or_eq_true, beq_iff_eq, beq_iff_eq] at stops
    rcases stops with rfl | rfl
    · exact .inr ⟨t, rfl⟩
    · exact absurd member unasked

/-- What a connection text says of its hosts and the database. -/
private def hostedItems (s : List Char) : List Item :=
  (if (s.takeWhile staysInHost).isEmpty then []
    else (Text.pieces (· == ',') (s.takeWhile staysInHost)).flatMap hostItems) ++
    databaseItems (s.dropWhile staysInHost)

private theorem items_eq (s : List Char) : items s =
    match Text.cutFirst (· == '@') s with
    | some (user, s) => item "user" (user.takeWhile (· != ':')) :: hostedItems s
    | none => hostedItems s := by
  rw [items]
  cases Text.cutFirst (· == '@') s with
  | none => rfl
  | some sides => rfl

private theorem hostedItems_query {s : List Char} (unasked : '?' ∉ s) (query : List Char) :
    hostedItems (s ++ '?' :: query) = hostedItems s ++ parameterItems query := by
  have rest : '?' ∉ s.dropWhile staysInHost := fun member =>
    unasked ((List.dropWhile_sublist _).mem member)
  simp only [hostedItems, takeWhile_stop (p := staysInHost) (c := '?') rfl,
    dropWhile_stop (p := staysInHost) (c := '?') rfl,
    databaseItems_query (isPathStart_dropWhile unasked) rest, List.append_assoc]

/-- The parameters of a connection text come after what it says without them. -/
theorem items_query {front query : List Char} (unasked : '?' ∉ front) (userless : '@' ∉ query) :
    items (front ++ '?' :: query) = items front ++ parameterItems query := by
  rw [items_eq, items_eq]
  cases cut : Text.cutFirst (· == '@') front with
  | none =>
    have none_behind : ∀ c ∈ '?' :: query, (c == '@') = false :=
      List.forall_mem_cons.mpr ⟨rfl, Text.beq_false_of_not_mem userless⟩
    rw [Text.cutFirst_eq_none
      (List.forall_mem_append.mpr ⟨Text.classless_of_cutFirst cut, none_behind⟩)]
    exact hostedItems_query unasked query
  | some sides =>
    obtain ⟨user, s⟩ := sides
    obtain ⟨sign, rfl, -⟩ := Text.eq_of_cutFirst cut
    have rest : '?' ∉ s := fun member =>
      unasked (List.mem_append_right _ (List.mem_cons_of_mem _ member))
    rw [Text.cutFirst_append_of_some cut]
    exact congrArg (_ :: ·) (hostedItems_query rest query)

end Target

namespace Url

/-! ### The front of a URL -/

/-- The text of a URL between its scheme and its query. -/
def front (u : Url) : List Char :=
  u.user ++ u.host ++ (match u.port with | some n => ':' :: Text.numeral n | none => []) ++ u.path

private theorem not_mem_encode {reserved s : List Char} (h : '?' ∈ reserved) :
    '?' ∉ encode reserved s := by
  intro member
  rcases Text.mem_percentEncode member with ⟨-, harmless⟩ | digit
  · have contained : reserved.contains '?' = true := List.contains_iff_mem.mpr h
    rw [contained] at harmless
    cases harmless
  · exact absurd digit (by decide)

private theorem not_mem_writeUser (s : List Char) : '?' ∉ writeUser s := by
  have encoded (t : List Char) : '?' ∉ encode userReserved t := not_mem_encode (by decide)
  rw [writeUser]
  generalize (Text.cutFirst (· == ':') s).getD (s, []) = sides
  obtain ⟨name, password⟩ := sides
  dsimp only
  rw [List.mem_append, List.mem_append]
  rintro ((inName | inPassword) | sign)
  · exact encoded name inName
  · split at inPassword
    · cases inPassword
    · rcases List.mem_cons.mp inPassword with impossible | inPassword
      · exact absurd impossible (by decide)
      · exact encoded password inPassword
  · split at sign
    · cases sign
    · exact absurd (List.mem_singleton.mp sign) (by decide)

private theorem not_mem_readUser {s user rest : List Char} (read : readUser s = .ok (user, rest)) :
    '?' ∉ user := by
  rw [readUser] at read
  split at read
  · cases read
    exact List.not_mem_nil
  · split at read
    · cases read
    · cases read
      exact List.not_mem_nil
  · cases read
    exact not_mem_writeUser _

private theorem not_mem_splitHost (bracketed : Bool) (s : List Char) :
    '?' ∉ (splitHost bracketed s).1 := by
  induction s generalizing bracketed with
  | nil => exact List.not_mem_nil
  | cons c s ih =>
    rw [splitHost]
    split
    · exact List.not_mem_nil
    · next within =>
      intro member
      rcases List.mem_cons.mp member with rfl | member
      · exact within rfl
      · exact ih _ member

private theorem not_mem_readHost {s host : List Char} (read : readHost s = .ok host)
    (unasked : '?' ∉ s) : '?' ∉ host := by
  unfold readHost at read
  split at read
  · split at read
    · split at read
      · cases read
        exact unasked
      · cases read
    · cases read
  · split at read
    · cases read
    · cases read
      intro member
      rcases Text.mem_percentEncode member with ⟨inside, -⟩ | digit
      · exact unasked inside
      · exact absurd digit (by decide)

private theorem not_mem_port (port : Option Nat) :
    '?' ∉ (match port with | some n => ':' :: Text.numeral n | none => []) := by
  cases port with
  | none => exact List.not_mem_nil
  | some n =>
    intro member
    rcases List.mem_cons.mp member with impossible | digit
    · exact absurd impossible (by decide)
    · exact absurd (Text.isDigit_of_mem_numeral digit) (by decide)

/-- Segments that are settled are segments of the path, or empty. -/
private theorem forall_mem_settle {P : List Char → Prop} (empty : P [])
    {before segments : List (List Char)} (earlier : ∀ s ∈ before, P s)
    (later : ∀ s ∈ segments, P s) : ∀ s ∈ settle before segments, P s := by
  have backward {ss : List (List Char)} (h : ∀ s ∈ ss, P s) : ∀ s ∈ ss.reverse, P s :=
    fun s member => h s (List.mem_reverse.mp member)
  have behind {ss : List (List Char)} (h : ∀ s ∈ ss, P s) : ∀ s ∈ ss.tail, P s :=
    fun s member => h s (List.mem_of_mem_tail member)
  induction segments generalizing before with
  | nil => exact backward earlier
  | cons segment segments ih =>
    obtain ⟨first, others⟩ := List.forall_mem_cons.mp later
    cases segments with
    | nil =>
      rw [settle]
      split
      · exact backward (List.forall_mem_cons.mpr ⟨empty, earlier⟩)
      · exact backward (List.forall_mem_cons.mpr ⟨empty, behind earlier⟩)
      · exact backward (List.forall_mem_cons.mpr ⟨first, earlier⟩)
    | cons next segments =>
      rw [settle]
      split
      · exact ih earlier others
      · exact ih (behind earlier) others
      · exact ih (List.forall_mem_cons.mpr ⟨first, earlier⟩) others
      · exact List.cons_ne_nil _ _

private theorem not_mem_readPath (s : List Char) : '?' ∉ readPath s := by
  cases s with
  | nil => exact List.not_mem_nil
  | cons c s =>
    rw [readPath]
    intro member
    rcases List.mem_cons.mp member with impossible | member
    · exact absurd impossible (by decide)
    · have pieces : ∀ segment ∈ Text.pieces (· == '/')
          (encode pathReserved (if c == '/' then s else c :: s)), '?' ∉ segment :=
        fun segment piece inside =>
          not_mem_encode (by decide) (Text.mem_of_mem_pieces piece inside)
      have settled := forall_mem_settle List.not_mem_nil (List.forall_mem_nil _) pieces
      exact Text.not_mem_intercalate (by decide) settled member

/-- No question mark stands in front of the query of a URL that has been read. -/
theorem not_mem_front {scheme s : List Char} {u : Url} (h : read scheme s = .ok u) :
    '?' ∉ u.front := by
  rw [read] at h
  cases user : readUser (clean s) with
  | error e =>
    rw [user] at h
    cases h
  | ok sides =>
    obtain ⟨name, rest⟩ := sides
    rw [user] at h
    dsimp only at h
    have hostless := not_mem_splitHost false rest
    generalize splitHost false rest = split at h hostless
    obtain ⟨hostChars, rest⟩ := split
    dsimp only at h
    cases host : readHost hostChars with
    | error e =>
      rw [host] at h
      cases h
    | ok host' =>
      rw [host] at h
      dsimp only at h
      split at h
      · cases h
      · cases port : readPort rest with
        | error e =>
          rw [port] at h
          cases h
        | ok sides =>
          obtain ⟨number, rest⟩ := sides
          rw [port] at h
          dsimp only at h
          split at h
          · cases h
          · cases h
            simp only [front, List.mem_append, not_or]
            exact ⟨⟨⟨not_mem_readUser user, not_mem_readHost host hostless⟩, not_mem_port number⟩,
              not_mem_readPath _⟩

/-! ### The text of a URL -/

/-- What the text of a URL says in a connection text, without its scheme. -/
def items (u : Url) : List Item := Target.items (u.text.drop (u.scheme.length + 3))

private theorem items_eq (u : Url) :
    u.items = Target.items (u.front ++ ((match u.query with | some q => '?' :: q | none => []) ++
      match u.fragment with | some f => '#' :: f | none => [])) := by
  have parts : u.text = (u.scheme ++ [':', '/', '/']) ++
      (u.front ++ ((match u.query with | some q => '?' :: q | none => []) ++
        match u.fragment with | some f => '#' :: f | none => [])) := by
    obtain ⟨scheme, user, host, port, path, query, fragment⟩ := u
    cases port <;> cases query <;> cases fragment <;>
      simp only [text, front, List.append_assoc, List.cons_append, List.nil_append,
        List.append_nil]
  have front : (u.scheme ++ [':', '/', '/']).length = u.scheme.length + 3 := List.length_append
  rw [items, parts, List.drop_left' front]

/-- The text of a URL with some parameters says of the server what it says without them, and then
the parameters as they are read. -/
theorem items_withParameters {u : Url} (unasked : '?' ∉ u.front) (whole : u.fragment = none)
    (f : Form) : (u.withParameters f).items =
      Target.items u.front ++ f.map fun pair => .ok (plussed pair.1, plussed pair.2) := by
  have fragmentless : (u.withParameters f).fragment = none := whole
  rw [items_eq, fragmentless, List.append_nil]
  cases f with
  | nil =>
    show Target.items (u.front ++ []) = _
    rw [List.append_nil, List.map_nil, List.append_nil]
  | cons pair f =>
    show Target.items (u.front ++ '?' :: Form.write (pair :: f)) = _
    rw [Target.items_query unasked (Form.not_mem_write (by decide)), Target.parameterItems_write]

/-- A fragment is read as the end of what stands in front of the query, if there is none. -/
theorem items_fragment {u : Url} {fragment : List Char} (ending : u.fragment = some fragment) :
    (u.withParameters []).items = Target.items (u.front ++ '#' :: fragment) := by
  have same : (u.withParameters []).fragment = some fragment := ending
  rw [items_eq, same]
  rfl

/-- A fragment is read as the end of the last parameter. -/
theorem items_parameters_fragment {u : Url} (unasked : '?' ∉ u.front) {fragment : List Char}
    (ending : u.fragment = some fragment) (userless : '@' ∉ fragment) (f : Form)
    (pair : String × String) : (u.withParameters (f ++ [pair])).items =
      Target.items u.front ++ (f.map fun pair => .ok (plussed pair.1, plussed pair.2)) ++
        Target.parameterItems (Form.writePair pair ++ '#' :: fragment) := by
  have same : (u.withParameters (f ++ [pair])).fragment = some fragment := ending
  have query : (u.withParameters (f ++ [pair])).query = some (Form.write (f ++ [pair])) := by
    have filled : (f ++ [pair]).isEmpty = false := by simp
    simp only [withParameters, filled, Bool.false_eq_true, if_false]
  have behind : '@' ∉ Form.write (f ++ [pair]) ++ '#' :: fragment := by
    rw [List.mem_append, List.mem_cons, not_or, not_or]
    exact ⟨Form.not_mem_write (by decide), by decide, userless⟩
  rw [items_eq, same, query]
  show Target.items (u.front ++ '?' :: (Form.write (f ++ [pair]) ++ '#' :: fragment)) = _
  rw [Target.items_query unasked behind, Target.parameterItems_write_append, List.append_assoc]

end Url

end TableAccess.Link
