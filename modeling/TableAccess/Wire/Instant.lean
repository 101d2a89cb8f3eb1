import TableAccess.Wire.Bytes
import TableAccess.Wire.Error

/-!
The bytes of dates, times of day, points in time and intervals. Dates count days and points in
time microseconds from the start of the year 2000, times of day count microseconds from midnight.
What lies below a microsecond is left out.
-/

set_option autoImplicit false
set_option relaxedAutoImplicit false

namespace TableAccess.Wire

/-- Bytes of which there are exactly `n`; `longer` tells that there are more. -/
def exactly (n : Nat) (longer : DecodeError) (bytes : List UInt8) :
    Except DecodeError (List UInt8) :=
  if bytes.length < n then .error .short
  else if n < bytes.length then .error longer
  else .ok bytes

/-- An integer of `width` bytes at the start of bytes, and the others. -/
def takeInt (width : Nat) (bytes : List UInt8) : Except DecodeError (Int × List UInt8) :=
  match take? width bytes with
  | some (word, rest) => .ok (intOfBytes word, rest)
  | none => .error .short

/-- An integer that has `width` bytes to itself; `longer` tells that there are more. -/
def wholeInt (width : Nat) (longer : DecodeError) (bytes : List UInt8) :
    Except DecodeError Int :=
  (exactly width longer bytes).map intOfBytes

/-- The integer of `bits` bits next to an integer. -/
def clamp (bits : Nat) (n : Int) : Int := max (-(2 ^ (bits - 1))) (min n (2 ^ (bits - 1) - 1))

end TableAccess.Wire

namespace TableAccess

open Wire

def Date.ofImage (bytes : List UInt8) : Except DecodeError Date :=
  match wholeInt 4 (.remainder .date) bytes with
  | .error e => .error e
  | .ok day =>
    match Date.ofDay? day with
    | some d => .ok d
    | none => .error .outOfRange

def Date.image (d : Date) : List UInt8 := bytesOfInt 4 d.day

def Timestamp.ofImage (bytes : List UInt8) : Except DecodeError Timestamp :=
  match wholeInt 8 (.remainder .timestamp) bytes with
  | .error e => .error e
  | .ok micros =>
    match Timestamp.ofNanos? (micros * 1000) with
    | some t => .ok t
    | none => .error .outOfRange

def Timestamp.image (t : Timestamp) : List UInt8 := bytesOfInt 8 (t.nanos.tdiv 1000)

/-- The point in time that bytes stand for, in Coordinated Universal Time. -/
def ZonedTimestamp.ofImage (bytes : List UInt8) : Except DecodeError ZonedTimestamp :=
  (Timestamp.ofImage bytes).map fun t => ⟨t, Offset.utc⟩

/-- The bytes of a point in time, whatever its offset, if it has a date and a time in Coordinated
Universal Time. -/
def ZonedTimestamp.image (t : ZonedTimestamp) : Except EncodeError (List UInt8) :=
  match t.toUtc? with
  | some utc => .ok utc.image
  | none => .error .beyondCalendar

/-- The time since midnight that the bytes of a time of day stand for. -/
def Interval.ofTimeImage (bytes : List UInt8) : Except DecodeError Interval :=
  (takeInt 8 bytes).map fun (micros, _) => Interval.ofMicros micros

def TimeOfDay.image (t : TimeOfDay) : List UInt8 := bytesOfInt 8 t.micros

/-- The bytes of an interval as a time of day, which it is up to the end of the day included. -/
def Interval.timeImage (i : Interval) : Except EncodeError (List UInt8) :=
  if 0 ≤ i.totalMicros ∧ i.totalMicros ≤ microsInDay then .ok (bytesOfInt 8 i.totalMicros)
  else .error (.notTimeOfDay i)

/-- The time of day with an offset that bytes stand for: the time, wrapped around midnight, and
the seconds to the west. -/
def ZonedClock.ofImage (bytes : List UInt8) : Except DecodeError ZonedClock :=
  match takeInt 8 bytes with
  | .error e => .error e
  | .ok (micros, rest) =>
    match takeInt 4 rest with
    | .error e => .error e
    | .ok (west, _) =>
      match Offset.ofSeconds? (-west) with
      | some offset => .ok ⟨TimeOfDay.ofNanos (micros * 1000), offset⟩
      | none => .error (.offset (.outOfRange .offsetSeconds))

/-- The bytes of a time of day with an offset. -/
def ZonedClock.image (t : ZonedClock) : List UInt8 :=
  t.time.image ++ bytesOfInt 4 (-t.offset.seconds)

/-- The interval that bytes stand for: microseconds, days and months. -/
def Interval.ofImage (bytes : List UInt8) : Except DecodeError Interval :=
  match takeInt 8 bytes with
  | .error e => .error e
  | .ok (micros, rest) =>
    match takeInt 4 rest with
    | .error e => .error e
    | .ok (days, rest) =>
      match takeInt 4 rest with
      | .error e => .error e
      | .ok (months, _) => .ok ⟨Int64.ofInt months, Int64.ofInt days, micros * 1000⟩

/-- The whole microseconds of an interval, its days and months aside. -/
def Interval.micros (i : Interval) : Int := i.nanos.tdiv 1000

/-- The days of an interval, with those that its microseconds exceed their word by. -/
def Interval.carriedDays (i : Interval) : Int :=
  i.days.toInt + (i.micros - clamp 64 i.micros).tdiv microsInDay

/-- The bytes of an interval. Days and months that do not fit their words are cut off. -/
def Interval.image (i : Interval) : List UInt8 :=
  bytesOfInt 8 (clamp 64 i.micros) ++ bytesOfInt 4 (clamp 32 i.carriedDays) ++
    bytesOfInt 4 (clamp 32 i.months.toInt)

end TableAccess
