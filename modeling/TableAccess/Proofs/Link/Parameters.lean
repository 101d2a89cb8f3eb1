import TableAccess.Proofs.Link.Addresses

/-!
The parameters that a pool takes from a URL, and those that it leaves to the server.

Each parameter is taken where its key occurs first, whatever the order in which they are taken. What
is left is written anew as a form, without the first occurrence of each key. So a key that is
repeated is still there, and the server is told blanks as plus signs; apart from that, what is left
says what it said before.
-/

set_option autoImplicit false
set_option relaxedAutoImplicit false

namespace TableAccess.Link

namespace Form

/-! ### Pairs without the first of some keys -/

/-- The value of the first pair with a key. -/
def first? (key : String) (f : Form) : Option String :=
  (f.filter fun pair => pair.1 == key).head?.map Prod.snd

/-- The keys of the pairs, in order. -/
def keys (f : Form) : List String := f.map Prod.fst

/-- The form without the first pair of each of some keys. -/
def without : List String → Form → Form
  | _, [] => []
  | taken, pair :: f =>
    if pair.1 ∈ taken then without (taken.erase pair.1) f else pair :: without taken f

variable {taken : List String} {key : String} {pair : String × String}

theorem without_cons_of_mem (h : pair.1 ∈ taken) (f : Form) :
    without taken (pair :: f) = without (taken.erase pair.1) f := if_pos h

theorem without_cons_of_not_mem (h : pair.1 ∉ taken) (f : Form) :
    without taken (pair :: f) = pair :: without taken f := if_neg h

theorem without_nil (f : Form) : without [] f = f := by
  induction f with
  | nil => rfl
  | cons pair f ih => rw [without_cons_of_not_mem List.not_mem_nil, ih]

/-- One key is taken where it occurs first. -/
theorem take_eq (key : String) (f : Form) : take key f = (first? key f, without [key] f) := by
  induction f with
  | nil => rfl
  | cons pair f ih =>
    rw [take]
    by_cases here : pair.1 = key
    · subst here
      rw [if_pos (beq_self_eq_true _), without_cons_of_mem List.mem_cons_self, List.erase_cons_head,
        without_nil, first?, List.filter_cons_of_pos (by simp)]
      rfl
    · have other : (pair.1 == key) = false := beq_eq_false_iff_ne.mpr here
      rw [other, if_neg Bool.false_ne_true, ih, without_cons_of_not_mem (by simpa using here),
        first?, first?, List.filter_cons_of_neg (by simp [other])]

/-- Taking other keys does not change the first occurrence of a key. -/
theorem first?_without (fresh : key ∉ taken) (f : Form) :
    first? key (without taken f) = first? key f := by
  induction f generalizing taken with
  | nil => rfl
  | cons pair f ih =>
    by_cases listed : pair.1 ∈ taken
    · have other : pair.1 ≠ key := by
        rintro rfl
        exact fresh listed
      have gone : first? key (pair :: f) = first? key f := by
        rw [first?, first?, List.filter_cons_of_neg (by simpa using other)]
      rw [without_cons_of_mem listed, gone]
      exact ih fun member => fresh (List.mem_of_mem_erase member)
    · rw [without_cons_of_not_mem listed]
      have rest := ih fresh
      simp only [first?, List.filter_cons] at rest ⊢
      split
      · rfl
      · exact rest

/-- One key after others. -/
theorem without_without (fresh : key ∉ taken) (f : Form) :
    without [key] (without taken f) = without (key :: taken) f := by
  induction f generalizing taken with
  | nil => rfl
  | cons pair f ih =>
    by_cases listed : pair.1 ∈ taken
    · have other : key ≠ pair.1 := by
        rintro rfl
        exact fresh listed
      rw [without_cons_of_mem listed, without_cons_of_mem (List.mem_cons_of_mem key listed),
        List.erase_cons_tail (by simpa using other),
        ih fun member => fresh (List.mem_of_mem_erase member)]
    · rw [without_cons_of_not_mem listed]
      by_cases here : pair.1 = key
      · subst here
        rw [without_cons_of_mem List.mem_cons_self, without_cons_of_mem List.mem_cons_self,
          List.erase_cons_head, List.erase_cons_head, without_nil]
      · rw [without_cons_of_not_mem (by simpa using here),
          without_cons_of_not_mem (by simpa using ⟨here, listed⟩), ih fresh]

/-- The order of the keys does not matter. -/
theorem without_perm {taken taken' : List String} (h : taken.Perm taken') (f : Form) :
    without taken f = without taken' f := by
  induction f generalizing taken taken' with
  | nil => rfl
  | cons pair f ih =>
    by_cases listed : pair.1 ∈ taken
    · rw [without_cons_of_mem listed, without_cons_of_mem (h.mem_iff.mp listed), ih (h.erase _)]
    · have listed' : pair.1 ∉ taken' := fun member => listed (h.mem_iff.mpr member)
      rw [without_cons_of_not_mem listed, without_cons_of_not_mem listed', ih h]

/-- Each key occurs as often less as it is taken. -/
theorem count_keys_without (taken : List String) (key : String) (f : Form) :
    (without taken f).keys.count key = f.keys.count key - taken.count key := by
  induction f generalizing taken with
  | nil => exact (Nat.zero_sub _).symm
  | cons pair f ih =>
    have front : keys (pair :: f) = pair.1 :: keys f := rfl
    by_cases listed : pair.1 ∈ taken
    · have some_taken := List.count_pos_iff.mpr listed
      rw [without_cons_of_mem listed, ih, front, List.count_erase, List.count_cons]
      by_cases here : pair.1 = key
      · subst here
        simp only [beq_self_eq_true, if_true]
        omega
      · have other : (pair.1 == key) = false := beq_eq_false_iff_ne.mpr here
        simp only [other, Bool.false_eq_true, if_false, Nat.sub_zero, Nat.add_zero]
    · have rest : keys (pair :: without taken f) = pair.1 :: keys (without taken f) := rfl
      rw [without_cons_of_not_mem listed, front, rest, List.count_cons, List.count_cons, ih]
      by_cases here : pair.1 = key
      · subst here
        have untaken := List.count_eq_zero.mpr listed
        simp only [beq_self_eq_true, if_true]
        omega
      · have other : (pair.1 == key) = false := beq_eq_false_iff_ne.mpr here
        simp only [other, Bool.false_eq_true, if_false, Nat.add_zero]

/-- Pairs of other keys are left as they are, in order. -/
theorem filter_without {known : List String} (listed : ∀ key ∈ taken, key ∈ known) (f : Form) :
    (without taken f).filter (fun pair => pair.1 ∉ known) =
      f.filter fun pair => pair.1 ∉ known := by
  induction f generalizing taken with
  | nil => rfl
  | cons pair f ih =>
    by_cases here : pair.1 ∈ taken
    · have gone : (pair :: f).filter (fun pair => pair.1 ∉ known) =
          f.filter fun pair => pair.1 ∉ known :=
        List.filter_cons_of_neg (by simpa using listed _ here)
      rw [without_cons_of_mem here, gone]
      exact ih fun key member => listed key (List.mem_of_mem_erase member)
    · rw [without_cons_of_not_mem here, List.filter_cons, List.filter_cons, ih listed]

/-- Where no key is repeated, all pairs with these keys are gone. -/
theorem without_eq_filter (f : Form) (once : ∀ key ∈ taken, f.keys.count key ≤ taken.count key) :
    without taken f = f.filter fun pair => pair.1 ∉ taken := by
  rw [← filter_without (fun _ listed => listed), List.filter_eq_self.mpr]
  intro pair member
  have absent (listed : pair.1 ∈ taken) : False := by
    have occurs : 0 < (without taken f).keys.count pair.1 :=
      List.count_pos_iff.mpr (List.mem_map_of_mem member)
    rw [count_keys_without] at occurs
    have seldom := once _ listed
    omega
  simpa using absent

end Form

namespace Url

variable (u : Url) (f g : Form)

theorem parameters_withParameters : (u.withParameters f).parameters = f := by
  cases f with
  | nil => rfl
  | cons pair f => exact Form.read_write (pair :: f)

theorem withParameters_withParameters :
    (u.withParameters f).withParameters g = u.withParameters g := rfl

end Url

namespace Settings

namespace Parameter

/-- The parameters that a pool takes, in the order in which it takes them. -/
def all : List Parameter :=
  [.sslMode, .rootCertificate, .certificate, .certificateKey, .poolSize, .connectionCheck]

/-- The keys of some parameters. -/
def keys (ps : List Parameter) : List String := ps.map key

/-- The value of a parameter: of its first occurrence in a form, or else of its variable. -/
def value (s : Surroundings) (f : Form) (p : Parameter) : Option String :=
  (f.first? p.key).orElse fun _ => s.values.lookup p.fallback

/-- Parameters taken one after another, and the URL without them. -/
def takeEach (s : Surroundings) : List Parameter → Url → List (Option String) × Url
  | [], u => ([], u)
  | p :: ps, u =>
    let (value, u) := p.take s u
    let (values, u) := takeEach s ps u
    (value :: values, u)

variable {s : Surroundings}

private theorem take_first (p : Parameter) (u : Url) : p.take s u =
    (p.value s u.parameters, u.withParameters (u.parameters.without [p.key])) := by
  rw [take, Url.takeParameter, Form.take_eq]
  rfl

/-- One parameter is taken from a URL from which others have been taken. -/
private theorem take_without {p : Parameter} {taken : List String} (fresh : p.key ∉ taken) (u : Url)
    (f : Form) : p.take s (u.withParameters (f.without taken)) =
      (p.value s f, u.withParameters (f.without (p.key :: taken))) := by
  simp only [take, Url.takeParameter, Url.parameters_withParameters, Form.take_eq,
    Form.first?_without fresh, Form.without_without fresh, Url.withParameters_withParameters]
  rfl

private theorem takeEach_without {ps : List Parameter} {taken : List String}
    (fresh : (keys ps ++ taken).Nodup) (u : Url) (f : Form) :
    takeEach s ps (u.withParameters (f.without taken)) =
      (ps.map (value s f), u.withParameters (f.without (keys ps ++ taken))) := by
  induction ps generalizing taken with
  | nil => rfl
  | cons p ps ih =>
    have moved : (keys ps ++ p.key :: taken).Perm (keys (p :: ps) ++ taken) := List.perm_middle
    obtain ⟨unlisted, -⟩ := List.nodup_cons.mp fresh
    rw [takeEach, take_without fun member => unlisted (List.mem_append_right _ member)]
    dsimp only
    rw [ih (moved.nodup_iff.mpr fresh), Form.without_perm moved]
    rfl

/-- Whatever the order in which different parameters are taken, each has the value of its first
occurrence, and their first occurrences are what is taken away. -/
theorem takeEach_eq {ps : List Parameter} (some_parameter : ps ≠ []) (different : (keys ps).Nodup)
    (u : Url) : takeEach s ps u = (ps.map (value s u.parameters),
      u.withParameters (u.parameters.without (keys ps))) := by
  cases ps with
  | nil => exact absurd rfl some_parameter
  | cons p ps =>
    have moved : (keys ps ++ [p.key]).Perm (keys (p :: ps)) :=
      List.perm_append_singleton p.key (keys ps)
    rw [takeEach, take_first]
    dsimp only
    rw [takeEach_without (moved.nodup_iff.mpr different), Form.without_perm moved]
    rfl

end Parameter

/-! ### What is left of a URL -/

/-- The parts of the query of a URL that no parameter of a pool is read from. -/
def foreignParts (u : Url) : List (List Char) :=
  ((Text.pieces (· == '&') (u.query.getD [])).filter fun part => !part.isEmpty).filter fun part =>
    (Form.readPair part).1 ∉ Parameter.keys Parameter.all

/-- No parameter of a pool is left of a URL, and each other part of its query denotes a key and a
value, which the server is told in this order after what it is told without a query. -/
def PassesOn (u left : Url) : Prop :=
  (∀ p : Parameter, p.key ∉ left.parameters.keys) ∧
    ∃ pairs,
      List.Forall₂ (fun part pair => Target.Denotes part pair.1 pair.2) (foreignParts u) pairs ∧
      left.items = Target.items u.front ++ pairs.map .ok

private theorem foreign_parameters (u : Url) :
    u.parameters.filter (fun pair => pair.1 ∉ Parameter.keys Parameter.all) =
      (foreignParts u).map Form.readPair := by
  rw [Url.parameters, Form.read, List.filter_map]
  rfl

/-- What a server is told of a part once a form has written it. -/
private def told (part : List Char) : String × String :=
  (plussed (Form.readPair part).1, plussed (Form.readPair part).2)

private theorem count_key (p : Parameter) : (Parameter.keys Parameter.all).count p.key = 1 := by
  cases p <;> decide

/-- A parameter is left exactly if it is repeated. -/
theorem key_left_iff (f : Form) (p : Parameter) :
    p.key ∈ (f.without (Parameter.keys Parameter.all)).keys ↔ 2 ≤ f.keys.count p.key := by
  rw [← List.count_pos_iff, Form.count_keys_without, count_key]
  omega

/-- Where no parameter is repeated, only the other parts are left. -/
private theorem without_eq_foreign {u : Url}
    (once : ∀ p : Parameter, u.parameters.keys.count p.key ≤ 1) :
    u.parameters.without (Parameter.keys Parameter.all) =
      (foreignParts u).map Form.readPair := by
  rw [← foreign_parameters]
  refine Form.without_eq_filter _ fun key listed => ?_
  obtain ⟨p, -, rfl⟩ := List.mem_map.mp listed
  rw [count_key]
  exact once p

/-- What the pool leaves of a URL passes on the rest exactly if none of its parameters is repeated
and each other part denotes a key and a value without blanks. -/
theorem passesOn_iff {u : Url} (unasked : '?' ∉ u.front) (whole : u.fragment = none) :
    PassesOn u (u.withParameters (u.parameters.without (Parameter.keys Parameter.all))) ↔
      (∀ p : Parameter, u.parameters.keys.count p.key ≤ 1) ∧
        ∀ part ∈ foreignParts u, ∃ k v, Target.Denotes part k v ∧ Blankless k ∧ Blankless v := by
  have once_iff : (∀ p : Parameter,
      p.key ∉ (u.parameters.without (Parameter.keys Parameter.all)).keys) ↔
        ∀ p : Parameter, u.parameters.keys.count p.key ≤ 1 := by
    refine forall_congr' fun p => ?_
    rw [key_left_iff]
    omega
  have written : ((foreignParts u).map Form.readPair).map
      (fun pair => (.ok (plussed pair.1, plussed pair.2) : Item)) =
        ((foreignParts u).map told).map .ok := by
    rw [List.map_map, List.map_map]
    rfl
  rw [PassesOn, Url.parameters_withParameters, once_iff, Url.items_withParameters unasked whole]
  refine and_congr_right fun once => ?_
  rw [without_eq_foreign once, written]
  have unchanged : (∀ part ∈ foreignParts u, Target.Denotes part (told part).1 (told part).2) ↔
      ∀ part ∈ foreignParts u, ∃ k v, Target.Denotes part k v ∧ Blankless k ∧ Blankless v :=
    forall₂_congr fun _ _ => Target.denotes_plussed_iff
  rw [← unchanged]
  constructor
  · rintro ⟨pairs, denoted, same⟩
    have equal : Function.Injective (Except.ok : String × String → Item) :=
      fun _ _ h => Except.ok.inj h
    obtain rfl := List.map_injective_iff.mpr equal (List.append_cancel_left same)
    rwa [List.forall₂_map_right_iff, List.forall₂_same] at denoted
  · intro denoted
    refine ⟨(foreignParts u).map told, ?_, rfl⟩
    rwa [List.forall₂_map_right_iff, List.forall₂_same]

/-- The settings by the values of the parameters and what is left of the URL. -/
def ofTaken (s : Surroundings) (value : Parameter → Option String) (left : Url) :
    Except SettingsError Settings :=
  match readPoolSize (value .poolSize) with
  | .error e => .error e
  | .ok size =>
    match readTarget left with
    | .error e => .error e
    | .ok target =>
      match refuseFiles s ((value .sslMode).getD "disable")
        [value .rootCertificate, value .certificate, value .certificateKey] with
      | .error e => .error e
      | .ok _ => .ok ⟨size, !(value .connectionCheck).any refuses, target⟩

/-- Nothing else of a URL counts for its settings. -/
theorem ofUrl_eq (s : Surroundings) (u : Url) : ofUrl s u =
    ofTaken s (Parameter.value s u.parameters)
      (u.withParameters (u.parameters.without (Parameter.keys Parameter.all))) := by
  have reversed : ["connection_check", "pool_size", "sslkey", "sslcert", "sslrootcert",
      "sslmode"].Perm (Parameter.keys Parameter.all) := by decide
  -- Each parameter is taken after those whose keys are not its own.
  delta ofUrl
  rw [Parameter.take_first]
  simp (disch := decide) only [Parameter.take_without]
  rw [← Form.without_perm reversed]
  rfl

private theorem not_mem_front_of_readUrl {text : String} {u : Url} (read : readUrl text = .ok u) :
    '?' ∉ u.front := by
  rw [readUrl] at read
  split at read
  · cases read
  · next scheme rest _ =>
    cases parsed : Url.read scheme rest with
    | error e =>
      rw [parsed] at read
      cases read
    | ok v =>
      rw [parsed] at read
      cases read
      exact Url.not_mem_front parsed

private theorem takeEach_perm (s : Surroundings) (u : Url) {order : List Parameter}
    (each : order.Perm Parameter.all) :
    Parameter.takeEach s order u = (order.map (Parameter.value s u.parameters),
      u.withParameters (u.parameters.without (Parameter.keys Parameter.all))) := by
  have listed : (Parameter.keys order).Perm (Parameter.keys Parameter.all) := each.map _
  have different : (Parameter.keys Parameter.all).Nodup := by decide
  have filled : order ≠ [] := by
    rintro rfl
    exact absurd each.length_eq (by decide)
  rw [Parameter.takeEach_eq filled (listed.nodup_iff.mpr different), Form.without_perm listed]

/-- Whatever the order in which a pool takes its parameters from a URL, each has the value of its
first occurrence, and the first occurrences are taken away. What is left of a URL without a fragment
is what the server is told, blanks as plus signs: nothing of the pool is left, and everything else
reaches the server as it was, exactly if no parameter of the pool is repeated and every other part
denotes a key and a value without blanks. A fragment is told as the end of the last parameter that
is left, whichever parameter it stood behind, or of the database if none is left. -/
theorem parameters_pass_iff (s : Surroundings) {text : String} {u : Url}
    (read : readUrl text = .ok u) {order : List Parameter} (each : order.Perm Parameter.all) :
    let left := (Parameter.takeEach s order u).2
    (Parameter.takeEach s order u).1 = order.map (Parameter.value s u.parameters) ∧
      left.parameters = u.parameters.without (Parameter.keys Parameter.all) ∧
      (∀ p : Parameter, p.key ∈ left.parameters.keys ↔ 2 ≤ u.parameters.keys.count p.key) ∧
      ofUrl s u = ofTaken s (Parameter.value s u.parameters) left ∧
      (u.fragment = none →
        left.items = Target.items u.front ++
          left.parameters.map (fun pair => .ok (plussed pair.1, plussed pair.2)) ∧
        (PassesOn u left ↔ (∀ p : Parameter, u.parameters.keys.count p.key ≤ 1) ∧
          ∀ part ∈ foreignParts u, ∃ k v,
            Target.Denotes part k v ∧ Blankless k ∧ Blankless v)) ∧
      (∀ fragment, u.fragment = some fragment →
        (left.parameters = [] → left.items = Target.items (u.front ++ '#' :: fragment)) ∧
        ('@' ∉ fragment → ∀ pairs pair, left.parameters = pairs ++ [pair] →
          left.items = Target.items u.front ++
            (pairs.map fun pair => .ok (plussed pair.1, plussed pair.2)) ++
            Target.parameterItems (Form.writePair pair ++ '#' :: fragment))) := by
  intro left
  have unasked : '?' ∉ u.front := not_mem_front_of_readUrl read
  have taken : Parameter.takeEach s order u = (order.map (Parameter.value s u.parameters),
      u.withParameters (u.parameters.without (Parameter.keys Parameter.all))) :=
    takeEach_perm s u each
  have form : left = u.withParameters (u.parameters.without (Parameter.keys Parameter.all)) :=
    congrArg Prod.snd taken
  rw [form, Url.parameters_withParameters]
  refine ⟨congrArg Prod.fst taken, rfl, fun p => ?_, ?_, fun whole => ⟨?_, ?_⟩,
    fun fragment ending => ⟨fun nothing => ?_, fun userless pairs pair rest => ?_⟩⟩
  · exact key_left_iff u.parameters p
  · exact ofUrl_eq s u
  · exact Url.items_withParameters unasked whole _
  · exact passesOn_iff unasked whole
  · rw [nothing]
    exact Url.items_fragment ending
  · rw [rest]
    exact Url.items_parameters_fragment unasked ending userless pairs pair

/-- A user, a host, a database and a query. -/
def asking (query : String) : Url :=
  ⟨"postgres".toList, ['u', '@'], ['h'], none, "/db".toList, some query.toList, none⟩

/-- A user, a host, a database, a query and a fragment. -/
def askingBehind (query fragment : String) : Url :=
  { asking query with fragment := some fragment.toList }

/-- A plus sign that is written as a byte passes on, and a fragment changes hands. -/
theorem byte_passes_on :
    (readUrl "postgres://u@h/db?application_name=a%2Bb&pool_size=5" =
        .ok (asking "application_name=a%2Bb&pool_size=5") ∧
      PassesOn (asking "application_name=a%2Bb&pool_size=5")
        (Parameter.takeEach {} Parameter.all.reverse
          (asking "application_name=a%2Bb&pool_size=5")).2) ∧
    readUrl "postgres://u@h/db?application_name=a&pool_size=5#b" =
        .ok (askingBehind "application_name=a&pool_size=5" "b") ∧
      (Parameter.takeEach {} Parameter.all
          (askingBehind "application_name=a&pool_size=5" "b")).2.items =
        Target.items "u@h/db".toList ++ [.ok ("application_name", "a#b")] := by
  have read : readUrl "postgres://u@h/db?application_name=a%2Bb&pool_size=5" =
      .ok (asking "application_name=a%2Bb&pool_size=5") := by decide +kernel
  have parts : foreignParts (asking "application_name=a%2Bb&pool_size=5") =
      ["application_name=a%2Bb".toList] := by decide +kernel
  have named : Target.Denotes "application_name=a%2Bb".toList "application_name" "a+b" :=
    ⟨"application_name".toList, "a%2Bb".toList, rfl, by decide, by decide +kernel,
      by decide +kernel⟩
  have once : ∀ p : Parameter,
      (asking "application_name=a%2Bb&pool_size=5").parameters.keys.count p.key ≤ 1 := by
    intro p
    cases p <;> decide +kernel
  have moved : readUrl "postgres://u@h/db?application_name=a&pool_size=5#b" =
      .ok (askingBehind "application_name=a&pool_size=5" "b") := by decide +kernel
  have left : (Parameter.takeEach {} Parameter.all
      (askingBehind "application_name=a&pool_size=5" "b")).2.parameters =
        [] ++ [("application_name", "a")] := by decide +kernel
  have told : Target.parameterItems
      (Form.writePair ("application_name", "a") ++ '#' :: "b".toList) =
        [.ok ("application_name", "a#b")] := by
    rw [Form.writePair, List.append_assoc, List.cons_append,
      Target.parameterItems_singleton (by decide) (by decide)]
    decide +kernel
  refine ⟨⟨read, ((parameters_pass_iff {} read (List.reverse_perm _)).2.2.2.2.1 rfl).2.mpr
    ⟨once, ?_⟩⟩, moved, ?_⟩
  · rw [parts]
    exact List.forall_mem_singleton.mpr ⟨_, _, named, by decide, by decide⟩
  · have passed := ((parameters_pass_iff {} moved (.refl _)).2.2.2.2.2 _ rfl).2 (by decide) _ _ left
    rw [told, List.map_nil, List.append_nil] at passed
    exact passed

/-- A blank reaches the server as a plus sign, and a parameter that is repeated is left. -/
theorem blank_not_passed_on :
    (readUrl "postgres://u@h/db?foo%20bar=1" = .ok (asking "foo%20bar=1") ∧
      Target.Denotes "foo%20bar=1".toList "foo bar" "1" ∧
      (Parameter.takeEach {} Parameter.all (asking "foo%20bar=1")).2.items =
        Target.items (asking "foo%20bar=1").front ++ [.ok ("foo+bar", "1")] ∧
      ¬ PassesOn (asking "foo%20bar=1")
        (Parameter.takeEach {} Parameter.all (asking "foo%20bar=1")).2) ∧
    readUrl "postgres://u@h/db?pool_size=1&pool_size=2" =
        .ok (asking "pool_size=1&pool_size=2") ∧
      Parameter.poolSize.key ∈ (Parameter.takeEach {} Parameter.all
        (asking "pool_size=1&pool_size=2")).2.parameters.keys := by
  have named : Target.Denotes "foo%20bar=1".toList "foo bar" "1" :=
    ⟨"foo%20bar".toList, ['1'], rfl, by decide, by decide +kernel, by decide +kernel⟩
  have parts : foreignParts (asking "foo%20bar=1") = ["foo%20bar=1".toList] := by decide +kernel
  have kept : (asking "foo%20bar=1").parameters.without (Parameter.keys Parameter.all) =
      [("foo bar", "1")] := by decide +kernel
  have unasked : '?' ∉ (asking "foo%20bar=1").front := by decide
  have repeated : 2 ≤ (asking "pool_size=1&pool_size=2").parameters.keys.count
      Parameter.poolSize.key := by decide +kernel
  refine ⟨⟨by decide +kernel, named, ?_, ?_⟩, by decide +kernel, ?_⟩
  · rw [takeEach_perm {} _ (.refl _), Url.items_withParameters unasked rfl, kept]
    rfl
  · rw [takeEach_perm {} _ (.refl _), passesOn_iff unasked rfl, parts]
    rintro ⟨-, denoted⟩
    obtain ⟨k, v, other, blankless, -⟩ := denoted _ List.mem_cons_self
    have unseparated : '&' ∉ "foo%20bar=1".toList := by decide
    have same := (other.parameterItems_eq unseparated).symm.trans
      (named.parameterItems_eq unseparated)
    cases same
    exact absurd blankless (by decide)
  · rw [takeEach_perm {} _ (.refl _), Url.parameters_withParameters]
    exact (key_left_iff _ .poolSize).mpr repeated

end Settings

end TableAccess.Link
