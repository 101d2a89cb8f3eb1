import TableAccess.Number.Integer
import TableAccess.Text.Blank
import TableAccess.Time.Reading

/-!
Times of day at a place with an offset from Coordinated Universal Time, and their text
`hh:mm:ss+hh:mm`.
-/

set_option autoImplicit false
set_option relaxedAutoImplicit false

namespace TableAccess

/-- A time of day with its offset from Coordinated Universal Time. -/
structure ZonedClock where
  time : TimeOfDay
  offset : Offset
  deriving DecidableEq, Inhabited

/-- Why a text is no time of day with an offset: a part of it fails, or its shape does. -/
inductive ZonedClockError
  | shape
  | part (cause : TimeError)
  deriving DecidableEq, Repr

namespace ZonedClock

/-- The same moment in Coordinated Universal Time, wrapped around midnight. -/
def toUtc (t : ZonedClock) : TimeOfDay :=
  TimeOfDay.ofNanos (t.time.nanos - t.offset.seconds * nanosInSecond)

/-- The text of a time of day with its offset, in whole seconds and whole minutes. -/
def chars (t : ZonedClock) : List Char :=
  t.time.clockText ++ t.offset.sign :: Text.padded 2 t.offset.hours ++
    ':' :: Text.padded 2 t.offset.minutes

/-- The text of a time of day with its offset. -/
def text (t : ZonedClock) : String := String.ofList t.chars

/-- The text of a time of day with its offset in messages. -/
def messageText (t : ZonedClock) : String :=
  "TimeTz \x7b time: " ++ t.time.messageText ++ ", offset: " ++ t.offset.messageText ++ " \x7d"

def isSign (c : Char) : Bool := c == '+' || c == '-'

def readOffsetPart (s : List Char) : Except ZonedClockError Int :=
  match (IntegerRange.signed 8).read s with
  | .ok n => .ok n
  | .error _ => .error .shape

/-- The offset of hours and minutes with one sign for both. -/
def offsetOf (negative : Bool) (hours minutes : Int) : Except ZonedClockError Offset :=
  if hours < -25 ∨ 25 < hours then .error (.part (.outOfRange .offsetHour))
  else if minutes < -59 ∨ 59 < minutes then .error (.part (.outOfRange .offsetMinute))
  else
    let seconds := hours * 3600 + minutes * 60
    match Offset.ofSeconds? (if negative then -seconds else seconds) with
    | some o => .ok o
    | none => .error (.part (.outOfRange .offsetSeconds))

/-- Hours, and minutes after a colon if there is one. -/
def readOffset (negative : Bool) (s : List Char) : Except ZonedClockError Offset :=
  match Text.cutFirst (· == ':') s with
  | some (hours, minutes) => do
    let h ← readOffsetPart hours
    let m ← readOffsetPart minutes
    offsetOf negative h m
  | none => do
    let h ← readOffsetPart s
    offsetOf negative h 0

/-- A time of day with its offset from text, blanks around it aside. The offset starts at the
last sign character. -/
def read (s : List Char) : Except ZonedClockError ZonedClock :=
  match Text.cutLast isSign (Text.trim s) with
  | none => .error .shape
  | some (clock, sign, rest) =>
    match TimeOfDay.read clock with
    | .error e => .error (.part e)
    | .ok time =>
      match readOffset (sign == '-') rest with
      | .error e => .error e
      | .ok offset => .ok ⟨time, offset⟩

end ZonedClock

end TableAccess
