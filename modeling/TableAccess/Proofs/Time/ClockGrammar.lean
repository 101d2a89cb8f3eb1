import TableAccess.Proofs.Time.IntervalText
import TableAccess.Time.Reading

/-!
The texts that are read as times of day, and what they are read as.

A time of day is read from exactly the texts of two digits each for hours, minutes and seconds, with
a point and digits behind it or without. Nothing may stand around them. The last second of a minute
is refused only when the parts are put together.
-/

set_option autoImplicit false
set_option relaxedAutoImplicit false

namespace TableAccess

open Text (isDigit valueOf)
open TableAccess.Interval (fractionNanos fractionNanos_lt)

/-- What is done one after the other succeeds exactly if each of the two does. -/
theorem bind_eq_ok_iff {ε α β : Type} {x : Except ε α} {f : α → Except ε β} {b : β} :
    (x >>= f) = .ok b ↔ ∃ a, x = .ok a ∧ f a = .ok b := by
  cases x with
  | error e => exact ⟨nofun, nofun⟩
  | ok a => exact ⟨fun h => ⟨a, rfl, h⟩, fun ⟨_, same, h⟩ => by cases same; exact h⟩

namespace TimeReading

variable {s rest : List Char}

/-- Two digits whose number is below a bound. -/
structure TwoDigits (bound : Nat) (ds : List Char) : Prop where
  length : ds.length = 2
  digits : ∀ c ∈ ds, isDigit c = true
  below : valueOf ds < bound

theorem twoDigits_padded {bound n : Nat} (below : n < bound) (two : bound ≤ 100) :
    TwoDigits bound (Text.padded 2 n) where
  length := Text.length_padded (by decide) (Nat.lt_of_lt_of_le below two)
  digits _ mem := Text.isDigit_of_mem_padded mem
  below := by rwa [Text.valueOf_padded]

/-- A part is taken exactly if two digits in its range stand in front. -/
theorem part_eq_ok_iff {name : TimePart} {high n : Nat} :
    part name 0 high s = .ok (n, rest) ↔
      ∃ ds, TwoDigits (high + 1) ds ∧ s = ds ++ rest ∧ n = valueOf ds := by
  constructor
  · intro taken
    rw [part] at taken
    split at taken
    · next m behind found =>
      rw [digits] at found
      split at found
      · next two =>
        cases found
        split at taken
        · next within =>
          cases taken
          exact ⟨s.take 2, ⟨two.1, List.all_eq_true.mp two.2, Nat.lt_succ_of_le within.2⟩,
            (List.take_append_drop 2 s).symm, rfl⟩
        · cases taken
      · cases found
    · cases taken
  · rintro ⟨ds, two, rfl, rfl⟩
    have front : (ds ++ rest).take 2 = ds := List.take_left' two.length
    have behind : (ds ++ rest).drop 2 = rest := List.drop_left' two.length
    have found : digits 2 (ds ++ rest) = some (valueOf ds, rest) := by
      rw [digits, front, behind]
      exact if_pos ⟨two.length, List.all_eq_true.mpr two.digits⟩
    rw [part, found]
    exact if_pos ⟨Nat.zero_le _, Nat.le_of_lt_succ two.below⟩

theorem separator_eq_ok_iff {c : Char} : separator c s = .ok rest ↔ s = c :: rest := by
  cases s with
  | nil => exact ⟨nofun, nofun⟩
  | cons d s =>
    rw [separator]
    split
    · next same =>
      subst same
      exact ⟨fun taken => by cases taken; rfl, fun shape => by cases shape; rfl⟩
    · next other => exact ⟨nofun, fun shape => by cases shape; exact absurd rfl other⟩

theorem finish_eq_ok_iff {u : Unit} : finish s = .ok u ↔ s = [] := by
  cases s with
  | nil => exact ⟨fun _ => rfl, fun _ => rfl⟩
  | cons c s => exact ⟨nofun, nofun⟩

/-- The point with the digits behind it, if there is one. -/
def fractionChars : Option (List Char) → List Char
  | none => []
  | some ds => '.' :: ds

/-- Nothing is left behind a fraction exactly if there is no more than a point with digits. -/
theorem fraction_eq_iff {nano : Nat} :
    fraction s = (nano, []) ↔
      ∃ f : Option (List Char), (∀ ds ∈ f, ds ≠ [] ∧ ∀ c ∈ ds, isDigit c = true) ∧
        s = fractionChars f ∧ nano = fractionNanos (f.getD []) := by
  constructor
  · intro taken
    unfold fraction at taken
    split at taken
    · next s =>
      dsimp only at taken
      split at taken
      · cases taken
      · next some_digit =>
        obtain ⟨value, stop⟩ := Prod.mk.inj taken
        have whole : s.takeWhile isDigit = s := by
          have parts : s.takeWhile isDigit ++ s.dropWhile isDigit = s :=
            List.takeWhile_append_dropWhile
          rwa [stop, List.append_nil] at parts
        rw [whole] at value some_digit
        refine ⟨some s, ?_, rfl, value.symm⟩
        rintro ds ⟨⟩
        refine ⟨fun empty => some_digit (List.isEmpty_iff.mpr empty), ?_⟩
        rw [← whole]
        exact List.all_eq_true.mp List.all_takeWhile
    · cases taken
      exact ⟨none, nofun, rfl, rfl⟩
  · rintro ⟨f, digits, rfl, rfl⟩
    cases f with
    | none => rfl
    | some ds =>
      obtain ⟨some_digit, digits⟩ := digits ds rfl
      have taken : ds.takeWhile isDigit = ds := by
        have kept : (ds ++ []).takeWhile isDigit = ds ++ [] := List.takeWhile_append_of_pos digits
        rwa [List.append_nil] at kept
      have behind : ds.dropWhile isDigit = [] := by
        have passed : (ds ++ []).dropWhile isDigit = [] := List.dropWhile_append_of_pos digits
        rwa [List.append_nil] at passed
      have nonempty : ds.isEmpty = false := List.isEmpty_eq_false_iff.mpr some_digit
      simp only [fractionChars, fraction, taken, behind, nonempty, Bool.false_eq_true, if_false]
      rfl

end TimeReading

/-! ### Whole times -/

namespace TimeOfDay

open TimeReading

/-- The parts of a text of a time of day, each in digits. -/
structure ClockText where
  hours : List Char
  minutes : List Char
  seconds : List Char
  fraction : Option (List Char)
  hours_below : TwoDigits 24 hours
  minutes_below : TwoDigits 60 minutes
  seconds_below : TwoDigits 60 seconds
  fraction_digits : ∀ ds ∈ fraction, ds ≠ [] ∧ ∀ c ∈ ds, isDigit c = true

namespace ClockText

/-- The text of the parts. -/
def chars (t : ClockText) : List Char :=
  t.hours ++ ':' :: (t.minutes ++ ':' :: (t.seconds ++ fractionChars t.fraction))

/-- The nanoseconds since midnight that the text tells. -/
def nanos (t : ClockText) : Nat :=
  ((valueOf t.hours * 60 + valueOf t.minutes) * 60 + valueOf t.seconds) * nanosInSecond +
    fractionNanos (t.fraction.getD [])

theorem fraction_lt (t : ClockText) : fractionNanos (t.fraction.getD []) < nanosInSecond := by
  refine fractionNanos_lt ?_
  cases fraction : t.fraction with
  | none => exact List.forall_mem_nil _
  | some ds => exact (t.fraction_digits ds fraction).2

theorem nanos_lt (t : ClockText) : t.nanos < nanosInDay := by
  have h := t.hours_below.below
  have m := t.minutes_below.below
  have s := t.seconds_below.below
  have f := t.fraction_lt
  simp only [nanos, nanosInSecond, nanosInDay] at f ⊢
  omega

/-- The time of day that the text tells. -/
def value (t : ClockText) : TimeOfDay := ⟨t.nanos, t.nanos_lt⟩

/-- Neither a blank nor a sign is part of the text. -/
theorem mem_chars {t : ClockText} {c : Char} (mem : c ∈ t.chars) :
    isDigit c = true ∨ c = ':' ∨ c = '.' := by
  simp only [chars, List.mem_append, List.mem_cons] at mem
  rcases mem with hour | rfl | minute | rfl | second | rest
  · exact .inl (t.hours_below.digits c hour)
  · exact .inr (.inl rfl)
  · exact .inl (t.minutes_below.digits c minute)
  · exact .inr (.inl rfl)
  · exact .inl (t.seconds_below.digits c second)
  · cases fraction : t.fraction with
    | none =>
      rw [fraction] at rest
      cases rest
    | some ds =>
      rw [fraction] at rest
      rcases List.mem_cons.mp rest with rfl | digit
      · exact .inr (.inr rfl)
      · exact .inl ((t.fraction_digits ds fraction).2 c digit)

end ClockText

theorem hour_lt (t : TimeOfDay) : t.hour < 24 := by
  have bound := t.nanos_lt
  simp only [hour, nanosInSecond, nanosInDay] at bound ⊢
  omega

theorem ofParts?_eq_some_iff {hour minute second nano : Nat} {t : TimeOfDay} :
    ofParts? hour minute second nano = some t ↔
      (hour < 24 ∧ minute < 60 ∧ second < 60 ∧ nano < nanosInSecond) ∧
        t.nanos = ((hour * 60 + minute) * 60 + second) * nanosInSecond + nano := by
  rw [ofParts?]
  split
  · next within =>
    let n := ((hour * 60 + minute) * 60 + second) * nanosInSecond + nano
    have below : n < nanosInDay := by
      simp only [n, nanosInSecond, nanosInDay] at within ⊢
      omega
    have same : ofNanos (n : Nat) = ⟨n, below⟩ :=
      ofNanos_eq (by rw [← Int.natCast_emod, Nat.mod_eq_of_lt below])
    rw [same, Option.some.injEq]
    constructor
    · rintro rfl
      exact ⟨within, rfl⟩
    · rintro ⟨-, nanos⟩
      exact (eq_of_nanos nanos).symm
  · next outside => exact ⟨nofun, fun h => absurd h.1 outside⟩

/-- A time of day is read from exactly the texts of parts. -/
theorem read_eq_ok_iff {s : List Char} {t : TimeOfDay} :
    read s = .ok t ↔ ∃ c : ClockText, s = c.chars ∧ t = c.value := by
  rw [read]
  simp only [bind_eq_ok_iff, Prod.exists, part_eq_ok_iff, separator_eq_ok_iff, finish_eq_ok_iff]
  constructor
  · rintro ⟨-, -, ⟨hours, h, rfl, rfl⟩, -, rfl, -, -, ⟨minutes, m, rfl, rfl⟩, -, rfl, -, behind,
      ⟨seconds, s, rfl, rfl⟩, -, stop, parts⟩
    have fraction_taken : fraction behind = ((fraction behind).fst, []) := Prod.ext rfl stop
    obtain ⟨f, digits, rfl, nano⟩ := fraction_eq_iff.mp fraction_taken
    split at parts
    · next found =>
      cases parts
      obtain ⟨⟨-, -, second, -⟩, nanos⟩ := ofParts?_eq_some_iff.mp found
      refine ⟨⟨hours, minutes, seconds, f, h, m, ⟨s.length, s.digits, second⟩, digits⟩, rfl, ?_⟩
      rw [nano] at nanos
      exact eq_of_nanos nanos
    · cases parts
  · rintro ⟨c, rfl, rfl⟩
    have s := c.seconds_below
    have stop := fraction_eq_iff.mpr ⟨c.fraction, c.fraction_digits, rfl, rfl⟩
    have found : ofParts? (valueOf c.hours) (valueOf c.minutes) (valueOf c.seconds)
        (fractionNanos (c.fraction.getD [])) = some c.value :=
      ofParts?_eq_some_iff.mpr
        ⟨⟨c.hours_below.below, c.minutes_below.below, s.below, c.fraction_lt⟩, rfl⟩
    refine ⟨_, _, ⟨c.hours, c.hours_below, rfl, rfl⟩, _, rfl, _, _,
      ⟨c.minutes, c.minutes_below, rfl, rfl⟩, _, rfl, _, fractionChars c.fraction,
      ⟨c.seconds, ⟨s.length, s.digits, Nat.lt_succ_of_lt s.below⟩, rfl, rfl⟩, ⟨⟩, ?_, ?_⟩
    · rw [stop]
    · rw [stop]
      dsimp only
      rw [found]

end TimeOfDay

end TableAccess
