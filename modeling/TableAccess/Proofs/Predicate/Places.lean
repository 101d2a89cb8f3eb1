import TableAccess.Proofs.Text.Numeral
import TableAccess.Statement.Clause
import TableAccess.Text.Joined

/-!
The places of parameters in a text: a dollar sign and the digits after it.

A text is read as pieces, which are places and single characters. A character that is no digit
ends a place, so the pieces of texts in a row are those of each text.
-/

set_option autoImplicit false
set_option relaxedAutoImplicit false

namespace TableAccess

/-- A piece of a text: a character, or the place of a parameter with the digits of its number. -/
inductive Piece
  | char (c : Char)
  | place (digits : List Char)
  deriving DecidableEq

namespace Piece

/-- What a dollar sign and the digits after it are: a dollar sign without any stands for itself. -/
def ofDollar : List Char → Piece
  | [] => .char '$'
  | d :: ds => .place (d :: ds)

/-- The pieces of some characters, maybe after a dollar sign and some digits. -/
def readFrom : Option (List Char) → List Char → List Piece
  | none, [] => []
  | some ds, [] => [ofDollar ds]
  | none, c :: cs => if c = '$' then readFrom (some []) cs else .char c :: readFrom none cs
  | some ds, c :: cs =>
    if Text.isDigit c then readFrom (some (ds ++ [c])) cs
    else ofDollar ds :: (if c = '$' then readFrom (some []) cs else .char c :: readFrom none cs)

def read (s : String) : List Piece := readFrom none s.toList

/-- The text of a place. -/
def place? : Piece → Option String
  | .char _ => none
  | .place ds => some (String.ofList ('$' :: ds))

/-- The characters of a piece, with operands in the places of the parameters. -/
def filled (operand : Nat → String) : Piece → List Char
  | .char c => [c]
  | .place ds => (operand (Text.valueOf ds)).toList

end Piece

/-- The places of parameters in a text, from left to right. -/
def places (s : String) : List String := (Piece.read s).filterMap Piece.place?

/-- A text with operands in the places of its parameters. -/
def fill (operand : Nat → String) (s : String) : String :=
  String.ofList ((Piece.read s).flatMap (Piece.filled operand))

/-- No place is continued by a text. -/
def EndsPlace (s : String) : Prop := ∀ c ∈ s.toList.head?, Text.isDigit c = false

instance (s : String) : Decidable (EndsPlace s) :=
  decidable_of_iff (s.toList.head?.all fun c => !Text.isDigit c) <| by
    simp only [EndsPlace, Option.all_eq_true, Bool.not_eq_true', Option.mem_def]

/-- There is no dollar sign in a text. -/
def Dollarless (s : String) : Prop := '$' ∉ s.toList

instance (s : String) : Decidable (Dollarless s) := inferInstanceAs (Decidable ('$' ∉ s.toList))

/-- A text does not start with a place, so it stays a text whatever its places are filled with. -/
def Solid (s : String) : Prop := ∃ c pieces, Piece.read s = .char c :: pieces

/-- A text between others is not empty, continues no place and holds none. -/
structure Separates (s : String) : Prop where
  nonempty : s ≠ ""
  ends : EndsPlace s
  dollarless : Dollarless s

namespace Piece

/-- A text that continues no place is read by itself. -/
private theorem readFrom_append {t : List Char} (ends : ∀ c ∈ t.head?, Text.isDigit c = false)
    (s : List Char) (digits : Option (List Char)) :
    readFrom digits (s ++ t) = readFrom digits s ++ readFrom none t := by
  induction s generalizing digits with
  | nil =>
    cases digits with
    | none => rfl
    | some ds =>
      -- Digits at the end may still be continued, but not by the first character that follows.
      cases t with
      | nil => rfl
      | cons c t =>
        have other : Text.isDigit c = false := ends c rfl
        simp only [List.nil_append, readFrom, other, Bool.false_eq_true, if_false,
          List.singleton_append]
  | cons c s ih =>
    cases digits with
    | none =>
      simp only [List.cons_append, readFrom]
      split
      · exact ih (some [])
      · rw [ih none, List.cons_append]
    | some ds =>
      simp only [List.cons_append, readFrom]
      split
      · exact ih (some (ds ++ [c]))
      · split
        · rw [ih (some []), List.cons_append]
        · rw [ih none, List.cons_append, List.cons_append]

private theorem readFrom_dollarless {s : List Char} (dollarless : '$' ∉ s) (t : List Char) :
    readFrom none (s ++ t) = s.map .char ++ readFrom none t := by
  induction s with
  | nil => rfl
  | cons c s ih =>
    have other : ¬ c = '$' := fun same => dollarless (same ▸ List.mem_cons_self)
    have rest := ih fun member => dollarless (List.mem_cons_of_mem c member)
    rw [List.cons_append, readFrom, if_neg other, rest, List.map_cons, List.cons_append]

private theorem readFrom_digits {ds : List Char} (digits : ∀ c ∈ ds, Text.isDigit c = true)
    (before : List Char) : readFrom (some before) ds = [ofDollar (before ++ ds)] := by
  induction ds generalizing before with
  | nil => rw [List.append_nil]; rfl
  | cons d ds ih =>
    have first : Text.isDigit d = true := digits d List.mem_cons_self
    have others := ih (fun c member => digits c (List.mem_cons_of_mem d member)) (before ++ [d])
    rw [readFrom, if_pos first, others, List.append_assoc, List.singleton_append]

theorem read_append {t : String} (ends : EndsPlace t) (s : String) :
    read (s ++ t) = read s ++ read t := by
  rw [read, String.toList_append, readFrom_append ends]
  rfl

theorem read_dollarless {s : String} (dollarless : Dollarless s) (t : String) :
    read (s ++ t) = s.toList.map .char ++ read t := by
  rw [read, String.toList_append, readFrom_dollarless dollarless]
  rfl

theorem read_placeholder (n : Nat) : read (Clause.placeholder n) = [.place (Text.numeral n)] := by
  have text := Clause.toList_placeholder n
  have dollar := readFrom_digits (fun c => Text.isDigit_of_mem_numeral (n := n) (c := c)) []
  obtain ⟨d, ds, numeral⟩ := List.exists_cons_of_ne_nil (Text.numeral_ne_nil n)
  rw [read, text, readFrom, if_pos rfl, dollar, numeral, List.nil_append, ofDollar]

private theorem filterMap_char (s : List Char) : (s.map Piece.char).filterMap place? = [] := by
  rw [List.filterMap_map, List.filterMap_eq_nil_iff]
  exact fun c _ => rfl

private theorem flatMap_char (operand : Nat → String) (s : List Char) :
    (s.map Piece.char).flatMap (filled operand) = s := by
  induction s with
  | nil => rfl
  | cons c s ih =>
    rw [List.map_cons, List.flatMap_cons, ih]
    rfl

end Piece

variable {s t : String} {operand : Nat → String}

/-! ### Places -/

theorem places_append (ends : EndsPlace t) (s : String) :
    places (s ++ t) = places s ++ places t := by
  rw [places, Piece.read_append ends, List.filterMap_append]
  rfl

theorem places_dollarless (dollarless : Dollarless s) (t : String) :
    places (s ++ t) = places t := by
  rw [places, Piece.read_dollarless dollarless, List.filterMap_append, Piece.filterMap_char,
    List.nil_append]
  rfl

theorem places_eq_nil (dollarless : Dollarless s) : places s = [] := by
  have whole := places_dollarless dollarless ""
  rwa [String.append_empty] at whole

theorem places_placeholder (n : Nat) : places (Clause.placeholder n) = [Clause.placeholder n] := by
  have text : String.ofList ('$' :: Text.numeral n) = Clause.placeholder n := by
    rw [← List.singleton_append, String.ofList_append]
    rfl
  rw [places, Piece.read_placeholder]
  exact congrArg (fun s => [s]) text

/-! ### Filling -/

theorem fill_append (ends : EndsPlace t) (s : String) :
    fill operand (s ++ t) = fill operand s ++ fill operand t := by
  rw [fill, Piece.read_append ends, List.flatMap_append, String.ofList_append]
  rfl

theorem fill_dollarless (dollarless : Dollarless s) (t : String) :
    fill operand (s ++ t) = s ++ fill operand t := by
  rw [fill, Piece.read_dollarless dollarless, List.flatMap_append, Piece.flatMap_char,
    String.ofList_append, String.ofList_toList]
  rfl

theorem fill_eq_self (dollarless : Dollarless s) : fill operand s = s := by
  have whole : fill operand (s ++ "") = s ++ fill operand "" := fill_dollarless dollarless ""
  have nothing : fill operand "" = "" := rfl
  rwa [nothing, String.append_empty] at whole

theorem fill_placeholder (n : Nat) : fill operand (Clause.placeholder n) = operand n := by
  rw [fill, Piece.read_placeholder, List.flatMap_singleton, Piece.filled, Text.valueOf_numeral,
    String.ofList_toList]

/-! ### Texts put together -/

theorem dollarless_append (hs : Dollarless s) (ht : Dollarless t) :
    Dollarless (s ++ t) := by
  rw [Dollarless, String.toList_append, List.mem_append]
  exact not_or.mpr ⟨hs, ht⟩

private theorem toList_ne_nil (nonempty : s ≠ "") : s.toList ≠ [] := by
  intro nothing
  exact nonempty (String.toList_injective nothing)

theorem endsPlace_append (nonempty : s ≠ "") (ends : EndsPlace s) (t : String) :
    EndsPlace (s ++ t) := by
  obtain ⟨c, cs, text⟩ := List.exists_cons_of_ne_nil (toList_ne_nil nonempty)
  intro d member
  rw [String.toList_append, text] at member
  exact ends d (by rw [text]; exact member)

theorem Solid.ne_empty (h : Solid s) : s ≠ "" := by
  rintro rfl
  obtain ⟨c, pieces, read⟩ := h
  cases read

theorem Solid.fill_ne_empty (h : Solid s) : fill operand s ≠ "" := by
  obtain ⟨c, pieces, read⟩ := h
  intro nothing
  have chars := congrArg String.toList nothing
  rw [fill, read, String.toList_ofList] at chars
  cases chars

theorem solid_append (nonempty : s ≠ "") (dollarless : Dollarless s) (t : String) :
    Solid (s ++ t) := by
  obtain ⟨c, cs, text⟩ := List.exists_cons_of_ne_nil (toList_ne_nil nonempty)
  refine ⟨c, cs.map .char ++ Piece.read t, ?_⟩
  rw [Piece.read_dollarless dollarless, text]
  rfl

theorem places_joined {separator : String} (h : Separates separator) (ss : List String) :
    places (Text.joined separator ss) = ss.flatMap places := by
  induction ss with
  | nil => rfl
  | cons s ss ih =>
    cases ss with
    | nil => rw [Text.joined_singleton, List.flatMap_singleton]
    | cons t ss =>
      rw [Text.joined_cons_cons, List.flatMap_cons, ← ih]
      split
      · next empty =>
        rw [empty, String.empty_append, String.empty_append]
        rfl
      · rw [String.append_assoc, places_append (endsPlace_append h.nonempty h.ends _),
          places_dollarless h.dollarless]

theorem fill_joined {separator : String} (h : Separates separator) {ss : List String}
    (solid : ∀ s ∈ ss, Solid s) :
    fill operand (Text.joined separator ss) = Text.joined separator (ss.map (fill operand)) := by
  induction ss with
  | nil => rfl
  | cons s ss ih =>
    cases ss with
    | nil => rfl
    | cons t ss =>
      obtain ⟨first, others⟩ := List.forall_mem_cons.mp solid
      have rest := ih others
      rw [List.map_cons, List.map_cons, Text.joined_cons_cons, Text.joined_cons_cons,
        if_neg first.ne_empty, if_neg first.fill_ne_empty, String.append_assoc,
        fill_append (endsPlace_append h.nonempty h.ends _), fill_dollarless h.dollarless, rest,
        List.map_cons, String.append_assoc]

end TableAccess
