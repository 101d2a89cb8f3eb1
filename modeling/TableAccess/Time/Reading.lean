import TableAccess.Time.Clock
import TableAccess.Text.Split

/-!
Dates and times of day from text: parts of a fixed number of digits with fixed characters
between them, read from left to right. The first part that fails is named.
-/

set_option autoImplicit false
set_option relaxedAutoImplicit false

namespace TableAccess

/-- The parts of dates, times and offsets that a reading error can name. -/
inductive TimePart
  | hour
  | minute
  | second
  | year
  | month
  | day
  | offsetHour
  | offsetMinute
  | offsetSeconds
  deriving DecidableEq, Repr

def TimePart.name : TimePart → String
  | .hour => "hour"
  | .minute => "minute"
  | .second => "second"
  | .year => "year"
  | .month => "month"
  | .day => "day"
  | .offsetHour => "offset hour"
  | .offsetMinute => "offset minute"
  | .offsetSeconds => "seconds"

/-- Why a text is no date or time, or why parts make none up. -/
inductive TimeError
  | unreadable (part : TimePart)
  | separator
  | trailing
  | outOfRange (part : TimePart)
  deriving DecidableEq, Repr

def TimeError.message : TimeError → String
  | .unreadable part => "the '" ++ part.name ++ "' component could not be parsed"
  | .separator => "a character literal was not valid"
  | .trailing => "unexpected trailing characters; the end of input was expected"
  | .outOfRange part => part.name ++ " was not in range"

namespace TimeReading

/-- Exactly `count` digits at the start of a text, as a number, and the rest. -/
def digits (count : Nat) (s : List Char) : Option (Nat × List Char) :=
  let ds := s.take count
  if ds.length = count ∧ ds.all Text.isDigit then some (Text.valueOf ds, s.drop count) else none

/-- A part of two digits between `low` and `high`. -/
def part (name : TimePart) (low high : Nat) (s : List Char) :
    Except TimeError (Nat × List Char) :=
  match digits 2 s with
  | some (n, rest) =>
    if low ≤ n ∧ n ≤ high then .ok (n, rest) else .error (.unreadable name)
  | none => .error (.unreadable name)

def separator (c : Char) : List Char → Except TimeError (List Char)
  | d :: rest => if d = c then .ok rest else .error .separator
  | [] => .error .separator

/-- A point and at least one digit. The first nine digits count as nanoseconds, further ones
are passed over. -/
def fraction : List Char → Nat × List Char
  | '.' :: s =>
    let ds := s.takeWhile Text.isDigit
    if ds.isEmpty then (0, '.' :: s)
    else
      let kept := ds.take 9
      (Text.valueOf kept * 10 ^ (9 - kept.length), s.dropWhile Text.isDigit)
  | s => (0, s)

def finish : List Char → Except TimeError Unit
  | [] => .ok ()
  | _ :: _ => .error .trailing

/-- A year: a sign, if any, and exactly four digits. -/
def year (s : List Char) : Except TimeError (Int × List Char) :=
  let (negative, rest) := match s with
    | '-' :: rest => (true, rest)
    | '+' :: rest => (false, rest)
    | rest => (false, rest)
  match digits 4 rest with
  | some (n, rest) => .ok (if negative then -(n : Int) else n, rest)
  | none => .error (.unreadable .year)

end TimeReading

open TimeReading in
/-- A time of day written as `hh:mm:ss`, with a fraction of a second if there is one. -/
def TimeOfDay.read (s : List Char) : Except TimeError TimeOfDay := do
  let (hour, s) ← part .hour 0 23 s
  let s ← separator ':' s
  let (minute, s) ← part .minute 0 59 s
  let s ← separator ':' s
  let (second, s) ← part .second 0 60 s
  let (nano, s) := fraction s
  finish s
  match TimeOfDay.ofParts? hour minute second nano with
  | some t => .ok t
  | none => .error (.outOfRange .second)

open TimeReading in
/-- A date written as year, month and day with hyphens between them. -/
def Date.read (s : List Char) : Except TimeError Date := do
  let (year, s) ← year s
  let s ← separator '-' s
  let (month, s) ← part .month 1 12 s
  let s ← separator '-' s
  let (day, s) ← part .day 1 31 s
  finish s
  match Date.ofCivil? year month day with
  | some d => .ok d
  | none => .error (.outOfRange .day)

end TableAccess
