import TableAccess.Proofs.Number.Integers
import TableAccess.Proofs.Text.Cuts
import TableAccess.Time.Interval

/-!
Intervals read from clock texts: hours, minutes, seconds and a fraction of a second. The text of an
interval itself is read as the whole seconds of the interval.
-/

set_option autoImplicit false
set_option relaxedAutoImplicit false

namespace TableAccess.Interval

open Text (isDigit valueOf)

/-- A row of digits whose number is below a bound. -/
structure DigitsBelow (bound : Nat) (ds : List Char) : Prop where
  some_digit : ds ≠ []
  digits : ∀ c ∈ ds, isDigit c = true
  below : valueOf ds < bound

theorem digitsBelow_padded {bound n : Nat} (width : Nat) (below : n < bound) :
    DigitsBelow bound (Text.padded width n) where
  some_digit := Text.padded_ne_nil width n
  digits _ mem := Text.isDigit_of_mem_padded mem
  below := by rwa [Text.valueOf_padded]

/-- Exactly rows of digits whose numbers have 64 bits are read as numbers. -/
theorem readNumber?_eq_some_iff {ds : List Char} {n : Int} :
    readNumber? ds = some n ↔ DigitsBelow (2 ^ 63) ds ∧ n = (valueOf ds : Nat) := by
  have zero : (IntegerRange.signed 64).Contains 0 := by decide
  have range : (IntegerRange.signed 64).Contains (valueOf ds : Nat) ↔ valueOf ds < 2 ^ 63 := by
    simp only [IntegerRange.Contains, IntegerRange.signed]
    omega
  constructor
  · intro read
    rw [readNumber?] at read
    split at read
    · next all =>
      have digits : ∀ c ∈ ds, isDigit c = true := List.all_eq_true.mp all
      have unsigned := fun c mem => IntegerRange.unsigned_of_isDigit (digits c mem)
      cases result : (IntegerRange.signed 64).read ds with
      | error e =>
        rw [result] at read
        cases read
      | ok m =>
        rw [result] at read
        cases read
        obtain ⟨some_digit, -, within, same⟩ :=
          (IntegerRange.read_eq_ok_iff zero unsigned).mp result
        exact ⟨⟨some_digit, digits, range.mp within⟩, same⟩
    · cases read
  · rintro ⟨⟨some_digit, digits, below⟩, rfl⟩
    rw [readNumber?, if_pos (List.all_eq_true.mpr digits),
      IntegerRange.read_digits some_digit digits zero,
      IntegerRange.check_of_contains (range.mpr below)]
    rfl

theorem readNumber?_digits {ds : List Char} (h : DigitsBelow (2 ^ 63) ds) :
    readNumber? ds = some (valueOf ds : Int) :=
  readNumber?_eq_some_iff.mpr ⟨h, rfl⟩

/-- What the first nine of some digits behind a point come to in nanoseconds. -/
def fractionNanos (ds : List Char) : Nat := valueOf (ds.take 9) * 10 ^ (9 - (ds.take 9).length)

theorem fractionNanos_lt {ds : List Char} (digits : ∀ c ∈ ds, isDigit c = true) :
    fractionNanos ds < nanosInSecond := by
  have first : ∀ c ∈ ds.take 9, isDigit c = true := fun c mem => digits c (List.mem_of_mem_take mem)
  have short : (ds.take 9).length ≤ 9 := List.length_take_le 9 ds
  calc valueOf (ds.take 9) * 10 ^ (9 - (ds.take 9).length)
      < 10 ^ (ds.take 9).length * 10 ^ (9 - (ds.take 9).length) :=
        Nat.mul_lt_mul_of_pos_right (Text.valueOf_lt first) (Nat.pow_pos (by decide))
    _ = 10 ^ ((ds.take 9).length + (9 - (ds.take 9).length)) := (Nat.pow_add ..).symm
    _ = nanosInSecond := by
      rw [Nat.add_sub_of_le short]
      rfl

theorem readFraction_eq_fractionNanos (ds : List Char) : readFraction ds = fractionNanos ds := by
  rw [readFraction, fractionNanos]
  cases ds <;> rfl

/-- A fraction of up to nine digits counts in nanoseconds. -/
theorem readFraction_digits {ds : List Char} (some_digit : ds ≠ []) (short : ds.length ≤ 9) :
    readFraction ds = valueOf ds * 10 ^ (9 - ds.length) := by
  have some_left : ds.isEmpty = false := List.isEmpty_eq_false_iff.mpr some_digit
  simp only [readFraction, List.take_of_length_le short, some_left, Bool.false_eq_true, if_false]

section Fields

variable {hours minutes seconds fraction : List Char}

theorem ofFields?_digits (negative : Bool) (h : DigitsBelow (2 ^ 63) hours)
    (m : DigitsBelow 60 minutes) (s : DigitsBelow 60 seconds)
    (f : ∀ c ∈ fraction, isDigit c = true) :
    ofFields? negative hours minutes seconds fraction =
      let n : Int := (valueOf hours * 3600 + valueOf minutes * 60 + valueOf seconds) *
        nanosInSecond + readFraction fraction
      some (ofNanos (if negative then -n else n)) := by
  have wide {ds : List Char} (h : DigitsBelow 60 ds) : DigitsBelow (2 ^ 63) ds :=
    ⟨h.some_digit, h.digits, Nat.lt_trans h.below (by decide)⟩
  have minutes_below := m.below
  have seconds_below := s.below
  have digits : fraction.all isDigit = true := List.all_eq_true.mpr f
  simp only [ofFields?, readNumber?_digits h, readNumber?_digits (wide m),
    readNumber?_digits (wide s), digits, Option.bind_eq_bind, Option.bind_some]
  rw [if_neg]
  simp
  omega

/-- A text is read by cutting it into hours, minutes, and seconds with what follows them. -/
theorem read?_cut (negative : Bool) {rest : List Char} (some_hour : hours ≠ [])
    (h : ∀ c ∈ hours, isDigit c = true) (m : ∀ c ∈ minutes, isDigit c = true)
    (unblank : ∀ c ∈ rest, Text.isBlank c = false) :
    read? ((if negative then ['-'] else []) ++ hours ++ ':' :: (minutes ++ ':' :: rest)) =
      let (seconds, fraction) := (Text.cutFirst (· == '.') rest).getD (rest, [])
      ofFields? negative hours minutes seconds fraction := by
  let s := hours ++ ':' :: (minutes ++ ':' :: rest)
  have colonless {ds : List Char} (digits : ∀ c ∈ ds, isDigit c = true) :
      ∀ d ∈ ds, (d == ':') = false :=
    fun d mem => Text.ne_of_isDigit (digits d mem) rfl
  have hours_cut : Text.cutFirst (· == ':') s = some (hours, minutes ++ ':' :: rest) :=
    Text.cutFirst_append (colonless h) rfl _
  have minutes_cut : Text.cutFirst (· == ':') (minutes ++ ':' :: rest) = some (minutes, rest) :=
    Text.cutFirst_append (colonless m) rfl _
  -- Neither a digit nor a sign nor a colon is a blank.
  have trimmed : Text.trim ((if negative then ['-'] else []) ++ s) =
      (if negative then ['-'] else []) ++ s := by
    refine Text.trim_eq_self fun c mem => ?_
    have sign : c ∈ (if negative then ['-'] else []) → Text.isBlank c = false := by
      cases negative with
      | false => exact nofun
      | true =>
        intro mem
        rw [List.mem_singleton.mp mem]
        rfl
    simp only [s, List.mem_append, List.mem_cons] at mem
    rcases mem with first | hour | rfl | minute | rfl | other
    · exact sign first
    · exact Text.isBlank_of_isDigit (h c hour)
    · rfl
    · exact Text.isBlank_of_isDigit (m c minute)
    · rfl
    · exact unblank c other
  rw [List.append_assoc, read?]
  simp only [s] at trimmed
  rw [trimmed]
  cases negative with
  | true => simp only [if_true, List.singleton_append, s, hours_cut, minutes_cut]
  | false =>
    rw [if_neg Bool.false_ne_true, List.nil_append]
    split
    next signed =>
    split at signed
    · next minus =>
      -- The minus sign would be the first digit of the hours.
      cases hours with
      | nil => exact absurd rfl some_hour
      | cons c hours =>
        injection minus with same
        have digit := h c List.mem_cons_self
        rw [same] at digit
        cases digit
    · obtain ⟨rfl, rfl⟩ := Prod.mk.inj signed
      simp only [s] at hours_cut
      rw [hours_cut]
      dsimp only
      rw [minutes_cut]

/-- A text of hours, minutes, seconds and a fraction is read as what they come to. -/
theorem read?_clock (h : DigitsBelow (2 ^ 63) hours) (m : DigitsBelow 60 minutes)
    (s : DigitsBelow 60 seconds) (f : ∀ c ∈ fraction, isDigit c = true) :
    read? (hours ++ ':' :: (minutes ++ ':' :: (seconds ++ '.' :: fraction))) =
      some (ofNanos ((valueOf hours * 3600 + valueOf minutes * 60 + valueOf seconds : Int) *
        nanosInSecond + readFraction fraction)) := by
  have unblank : ∀ c ∈ seconds ++ '.' :: fraction, Text.isBlank c = false := by
    intro c mem
    rcases List.mem_append.mp mem with second | rest
    · exact Text.isBlank_of_isDigit (s.digits c second)
    · rcases List.mem_cons.mp rest with rfl | digit
      · rfl
      · exact Text.isBlank_of_isDigit (f c digit)
  have pointless : ∀ d ∈ seconds, (d == '.') = false :=
    fun d mem => Text.ne_of_isDigit (s.digits d mem) rfl
  have cut := read?_cut false h.some_digit h.digits m.digits unblank
  rw [Text.cutFirst_append pointless rfl, Option.getD_some, if_neg Bool.false_ne_true,
    List.nil_append] at cut
  exact cut.trans (ofFields?_digits false h m s f)

end Fields

/-! ### The text of an interval -/

/-- The whole seconds of an interval, toward zero. -/
def wholeSeconds (i : Interval) : Int := i.totalNanos.tdiv nanosInSecond

/-- The whole seconds are those of the length without its sign, with its sign. -/
theorem wholeSeconds_eq (i : Interval) :
    i.wholeSeconds = if i.totalNanos < 0 then -((i.totalNanos.natAbs / nanosInSecond : Nat) : Int)
      else (i.totalNanos.natAbs / nanosInSecond : Nat) := by
  rw [wholeSeconds]
  cases i.totalNanos with
  | ofNat n => rfl
  | negSucc n =>
    rw [if_pos (Int.negSucc_lt_zero n)]
    rfl

theorem natAbs_wholeSeconds (i : Interval) :
    i.wholeSeconds.natAbs = i.totalNanos.natAbs / nanosInSecond := Int.natAbs_tdiv _ _

/-- The text of an interval is cut into the digits that it was put together from. -/
theorem read?_text_fields {i : Interval} {seconds : Nat}
    (length : i.totalNanos.natAbs / nanosInSecond = seconds) :
    read? i.text.toList = ofFields? (decide (i.totalNanos < 0)) (Text.padded 2 (seconds / 3600))
      (Text.padded 2 (seconds / 60 % 60)) (Text.padded 2 (seconds % 60)) [] := by
  have digits {n : Nat} : ∀ c ∈ Text.padded 2 n, isDigit c = true :=
    fun c mem => Text.isDigit_of_mem_padded mem
  let last := Text.padded 2 (seconds % 60)
  have shape : i.text.toList = (if decide (i.totalNanos < 0) then ['-'] else []) ++
      Text.padded 2 (seconds / 3600) ++ ':' ::
        (Text.padded 2 (seconds / 60 % 60) ++ ':' :: last) := by
    simp only [text, chars, String.toList_ofList, decide_eq_true_eq, List.append_assoc,
      List.cons_append, length, last]
  have pointless : Text.cutFirst (· == '.') last = none :=
    Text.cutFirst_eq_none fun c mem => Text.ne_of_isDigit (digits c mem) rfl
  rw [shape, read?_cut _ (Text.padded_ne_nil 2 _) digits digits
    fun c mem => Text.isBlank_of_isDigit (digits c mem), pointless, Option.getD_none]

/-- The text of an interval is read as its whole seconds, as long as there are not too many hours
to be read. -/
theorem read?_text {i : Interval} (hours : i.wholeSeconds.natAbs / 3600 < 2 ^ 63) :
    read? i.text.toList = some (ofNanos (i.wholeSeconds * nanosInSecond)) := by
  rw [natAbs_wholeSeconds] at hours
  rw [read?_text_fields rfl, wholeSeconds_eq]
  generalize i.totalNanos.natAbs / nanosInSecond = seconds at hours ⊢
  have h : DigitsBelow (2 ^ 63) (Text.padded 2 (seconds / 3600)) := digitsBelow_padded 2 hours
  have m : DigitsBelow 60 (Text.padded 2 (seconds / 60 % 60)) :=
    digitsBelow_padded 2 (Nat.mod_lt _ (by decide))
  have s : DigitsBelow 60 (Text.padded 2 (seconds % 60)) :=
    digitsBelow_padded 2 (Nat.mod_lt _ (by decide))
  have whole : ((seconds / 3600 : Nat) * 3600 + (seconds / 60 % 60 : Nat) * 60 +
      (seconds % 60 : Nat) : Int) = seconds := by omega
  rw [ofFields?_digits _ h m s (List.forall_mem_nil _), Text.valueOf_padded, Text.valueOf_padded,
    Text.valueOf_padded, whole]
  have fractionless : readFraction [] = 0 := rfl
  simp only [fractionless, decide_eq_true_eq, Int.natCast_zero, Int.add_zero]
  split
  · rw [Int.neg_mul]
  · rfl

end TableAccess.Interval
