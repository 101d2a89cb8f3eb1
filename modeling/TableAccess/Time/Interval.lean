import TableAccess.Fault
import TableAccess.Text.Blank
import TableAccess.Text.Split
import TableAccess.Time.Clock

/-!
Intervals of calendar months, days and nanoseconds, which need not agree in sign.

The text of an interval is `hh:mm:ss`, with the months (of 30 days) and the days in the hours,
and it is read back in that form.
-/

set_option autoImplicit false
set_option relaxedAutoImplicit false

namespace TableAccess

/-- A length of time in calendar months, days and nanoseconds. -/
structure Interval where
  months : Int64
  days : Int64
  nanos : Int
  deriving DecidableEq

namespace Interval

/-- How many days a month counts for. -/
def daysInMonth : Int := 30

def zero : Interval := ⟨0, 0, 0⟩

instance : Inhabited Interval := ⟨zero⟩

/-- The interval of a number of nanoseconds, whole days apart. The number of days wraps around
at 64 bits. -/
def ofNanos (n : Int) : Interval :=
  ⟨0, Int64.ofInt (n.tdiv nanosInDay), n.tmod nanosInDay⟩

/-- The interval of a number of microseconds, whole days apart. -/
def ofMicros (n : Int) : Interval :=
  ⟨0, Int64.ofInt (n.tdiv microsInDay), n.tmod microsInDay * 1000⟩

/-- The interval of a number of seconds, whole days apart. -/
def ofSeconds (n : Int64) : Interval :=
  ⟨0, Int64.ofInt (n.toInt.tdiv secondsInDay), n.toInt.tmod secondsInDay * nanosInSecond⟩

/-- The interval of hours, minutes and seconds, added up in 64 bits. -/
def ofClock (hours minutes seconds : Int64) : Interval :=
  ofSeconds (hours * 3600 + minutes * 60 + seconds)

def ofDays (n : Int64) : Interval := ⟨0, n, 0⟩

def ofMonths (n : Int64) : Interval := ⟨n, 0, 0⟩

def ofDuration (d : Duration) : Interval := ofNanos d.totalNanos

def isZero (i : Interval) : Bool := i.months == 0 && i.days == 0 && i.nanos == 0

/-- The days and nanoseconds of an interval, in nanoseconds. -/
def dayNanos (i : Interval) : Int := i.days.toInt * nanosInDay + i.nanos

/-- The whole interval in nanoseconds. -/
def totalNanos (i : Interval) : Int :=
  (i.months.toInt * daysInMonth + i.days.toInt) * nanosInDay + i.nanos

/-- The whole interval in microseconds, truncated toward zero. -/
def totalMicros (i : Interval) : Int := i.totalNanos.tdiv 1000

/-- The length of time of an interval, zero for a negative one. -/
def toDuration (i : Interval) : Duration :=
  if i.totalNanos ≤ 0 then Duration.zero else Duration.ofNanos i.totalNanos.toNat

/-! ### Words

The sums above are whole numbers. Where sums are checked, these are the same on words of 128
bits. -/

/-- The days and nanoseconds of an interval, on words. -/
def dayNanosOnWords (i : Interval) : Except Fault Int := do
  let nanos ← Fault.word (.signed 128) (i.days.toInt * nanosInDay)
  Fault.word (.signed 128) (nanos + i.nanos)

/-- The whole interval in nanoseconds, on words. -/
def totalNanosOnWords (i : Interval) : Except Fault Int := do
  let months ← Fault.word (.signed 128) (i.months.toInt * daysInMonth)
  let days ← Fault.word (.signed 128) (months + i.days.toInt)
  let nanos ← Fault.word (.signed 128) (days * nanosInDay)
  Fault.word (.signed 128) (nanos + i.nanos)

/-- The length of time of an interval, on words. -/
def toDurationOnWords (i : Interval) : Except Fault Duration := do
  let nanos ← i.totalNanosOnWords
  return if nanos ≤ 0 then Duration.zero else Duration.ofNanos nanos.toNat

/-! ### Equality and texts -/

/-- What two intervals are compared and hashed by: the months, and what the days and nanoseconds
come to. -/
def key (i : Interval) : Int64 × Int := (i.months, i.dayNanos)

instance : Hashable Interval := ⟨fun i => hash i.key⟩

/-- Two intervals of the same months, and of days and nanoseconds that come to the same. -/
def same (a b : Interval) : Bool := a.key == b.key

/-- The text of an interval: hours, minutes and whole seconds, each with at least two digits. -/
def chars (i : Interval) : List Char :=
  let seconds := i.totalNanos.natAbs / nanosInSecond
  (if i.totalNanos < 0 then ['-'] else []) ++ Text.padded 2 (seconds / 3600) ++
    ':' :: Text.padded 2 (seconds / 60 % 60) ++ ':' :: Text.padded 2 (seconds % 60)

def text (i : Interval) : String := String.ofList i.chars

def messageText (i : Interval) : String :=
  "Interval \x7b months: " ++ Text.intText i.months.toInt ++ ", days: " ++
    Text.intText i.days.toInt ++ ", nanos: " ++ Text.intText i.nanos ++ " \x7d"

/-! ### Reading -/

/-- A row of digits as a number within 64 bits. -/
def readNumber? (s : List Char) : Option Int :=
  if s.all Text.isDigit then ((IntegerRange.signed 64).read s).toOption else none

/-- The digits after the point of a second, the first nine of them, in nanoseconds. -/
def readFraction (s : List Char) : Nat :=
  let ds := s.take 9
  if ds.isEmpty then 0 else Text.valueOf ds * 10 ^ (9 - ds.length)

/-- Hours, minutes, seconds and a fraction as an interval, if they are in range. -/
def ofFields? (negative : Bool) (hours minutes seconds fraction : List Char) :
    Option Interval := do
  let h ← readNumber? hours
  let m ← readNumber? minutes
  let s ← readNumber? seconds
  if 60 ≤ m ∨ 60 ≤ s ∨ !fraction.all Text.isDigit then none
  else
    let n := (h * 3600 + m * 60 + s) * nanosInSecond + readFraction fraction
    some (ofNanos (if negative then -n else n))

/-- An interval from text, blanks around it aside. -/
def read? (s : List Char) : Option Interval :=
  let s := Text.trim s
  let (negative, s) := match s with
    | '-' :: rest => (true, rest)
    | s => (false, s)
  match Text.cutFirst (· == ':') s with
  | none => none
  | some (hours, s) =>
    match Text.cutFirst (· == ':') s with
    | none => none
    | some (minutes, s) =>
      let (seconds, fraction) := (Text.cutFirst (· == '.') s).getD (s, [])
      ofFields? negative hours minutes seconds fraction

/-- An interval of at least no time and less than a day, as a time of day. -/
def toTimeOfDay? (i : Interval) : Option TimeOfDay :=
  if 0 ≤ i.totalMicros ∧ i.totalMicros < microsInDay then
    some (TimeOfDay.ofNanos (i.totalMicros * 1000))
  else none

end Interval

end TableAccess
