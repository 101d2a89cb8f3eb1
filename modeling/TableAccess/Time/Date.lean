import TableAccess.Text.Digits

/-!
Days of the proleptic Gregorian calendar, from the year -9999 to the year 9999.

A date is held as its number of days since the first of January 2000, so that arithmetic on
dates is arithmetic on integers; year, month and day are read from that number.
-/

set_option autoImplicit false
set_option relaxedAutoImplicit false

namespace TableAccess

namespace Calendar

/-- A year, a month from 1 to 12 and a day of that month. -/
structure Civil where
  year : Int
  month : Nat
  day : Nat
  deriving DecidableEq, Repr

/-- The year has a 29th of February. -/
def isLeap (year : Int) : Bool := year % 4 == 0 && (year % 100 != 0 || year % 400 == 0)

def daysInMonth (year : Int) (month : Nat) : Nat :=
  if month = 2 then (if isLeap year then 29 else 28)
  else if month = 4 ∨ month = 6 ∨ month = 9 ∨ month = 11 then 30
  else 31

/-- The day that a number of days after the first of January 2000 falls on. Years are counted
from March, so that a leap day is the last day of its year. -/
def civilOfDay (n : Int) : Civil :=
  let z := n + 730425
  let era := z / 146097
  let doe := (z % 146097).toNat
  let yoe := (doe - doe / 1460 + doe / 36524 - doe / 146096) / 365
  let doy := doe - (365 * yoe + yoe / 4 - yoe / 100)
  let mp := (5 * doy + 2) / 153
  let day := doy - (153 * mp + 2) / 5 + 1
  let month := if mp < 10 then mp + 3 else mp - 9
  ⟨era * 400 + yoe + (if month ≤ 2 then 1 else 0), month, day⟩

/-- The number of days from the first of January 2000 to a day. -/
def dayOfCivil (c : Civil) : Int :=
  let y := if c.month ≤ 2 then c.year - 1 else c.year
  let era := y / 400
  let yoe := (y % 400).toNat
  let mp := if 2 < c.month then c.month - 3 else c.month + 9
  let doy := (153 * mp + 2) / 5 + c.day - 1
  let doe := yoe * 365 + yoe / 4 - yoe / 100 + doy
  era * 146097 + doe - 730425

/-- A year with at least four digits, a negative one after a minus sign. -/
def yearText (year : Int) : List Char :=
  (if year < 0 then ['-'] else []) ++ Text.padded 4 year.natAbs

end Calendar

/-- A day between the first of January -9999 and the last of December 9999. -/
structure Date where
  day : Int
  day_ge : -4382544 ≤ day
  day_le : day ≤ 2921939
  deriving DecidableEq

namespace Date

/-- The date a number of days after the first of January 2000, if it is in range. -/
def ofDay? (day : Int) : Option Date :=
  if h : -4382544 ≤ day ∧ day ≤ 2921939 then some ⟨day, h.1, h.2⟩ else none

/-- The first of January 2000. -/
def origin : Date := ⟨0, by decide, by decide⟩

instance : Inhabited Date := ⟨origin⟩

/-- Year, month and day of a date. -/
def civil (d : Date) : Calendar.Civil := Calendar.civilOfDay d.day

/-- The date with the given year, month and day, if there is one. -/
def ofCivil? (year : Int) (month day : Nat) : Option Date :=
  if 1 ≤ month ∧ month ≤ 12 ∧ 1 ≤ day ∧ day ≤ Calendar.daysInMonth year month then
    ofDay? (Calendar.dayOfCivil ⟨year, month, day⟩)
  else none

def messageText (d : Date) : String :=
  let c := d.civil
  String.ofList
    (Calendar.yearText c.year ++ '-' :: Text.padded 2 c.month ++ '-' :: Text.padded 2 c.day)

/-- A date that comes from a number of days holds that number. -/
theorem day_of_ofDay? {n : Int} {d : Date} (h : ofDay? n = some d) : d.day = n := by
  unfold ofDay? at h
  split at h
  · cases h; rfl
  · cases h

/-- A number of days is out of range if it is that of no date. -/
theorem ofDay?_eq_none_iff {n : Int} : ofDay? n = none ↔ ∀ d : Date, d.day ≠ n := by
  constructor
  · rintro none d rfl
    rw [ofDay?, dif_pos ⟨d.day_ge, d.day_le⟩] at none
    cases none
  · intro undated
    rw [Option.eq_none_iff_forall_ne_some]
    exact fun d dated => undated d (day_of_ofDay? dated)

/-- Every date comes from the number of days that it holds. -/
@[simp] theorem ofDay?_day (d : Date) : ofDay? d.day = some d := by
  unfold ofDay?
  rw [dif_pos ⟨d.day_ge, d.day_le⟩]

end Date

end TableAccess
