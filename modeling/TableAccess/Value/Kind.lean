import TableAccess.Number.Approximate
import TableAccess.Number.Layout
import TableAccess.Text.Quoted
import TableAccess.Time.Interval
import TableAccess.Time.ZonedClock
import TableAccess.Uuid

/-!
The kinds of scalar values that a table can hold, what a value of each kind is, and when two
of them are equal.
-/

set_option autoImplicit false
set_option relaxedAutoImplicit false

namespace TableAccess

/-- The kinds of scalar values. -/
inductive Kind
  | boolean
  | int16
  | int32
  | int64
  | float32
  | float64
  | decimal
  | varchar
  | blob
  | date
  | time
  | timestamp
  | zonedTimestamp
  | interval
  | zonedClock
  | uuid
  deriving DecidableEq, Repr

namespace Kind

/-- What a value of a kind is made of. -/
@[reducible] def Payload : Kind → Type
  | .boolean => Bool
  | .int16 => Int16
  | .int32 => Int32
  | .int64 => Int64
  | .float32 => Binary .single
  | .float64 => Binary .double
  | .decimal => Decimal
  | .varchar => String
  | .blob => List UInt8
  | .date => Date
  | .time => TimeOfDay
  | .timestamp => Timestamp
  | .zonedTimestamp => ZonedTimestamp
  | .interval => Interval
  | .zonedClock => ZonedClock
  | .uuid => Uuid

def name : Kind → String
  | .boolean => "Boolean"
  | .int16 => "Int16"
  | .int32 => "Int32"
  | .int64 => "Int64"
  | .float32 => "Float32"
  | .float64 => "Float64"
  | .decimal => "Decimal"
  | .varchar => "Varchar"
  | .blob => "Blob"
  | .date => "Date"
  | .time => "Time"
  | .timestamp => "Timestamp"
  | .zonedTimestamp => "TimestampWithTimezone"
  | .interval => "Interval"
  | .zonedClock => "TimeTz"
  | .uuid => "Uuid"

/-- Equality within a kind: floats as numbers, decimals by value, points in time by their
instant and intervals by what their days and nanoseconds come to. -/
def same : (k : Kind) → k.Payload → k.Payload → Bool
  | .boolean, a, b => a == b
  | .int16, a, b => a == b
  | .int32, a, b => a == b
  | .int64, a, b => a == b
  | .float32, a, b => a.sameValue b
  | .float64, a, b => a.sameValue b
  | .decimal, a, b => a.sameValue b
  | .varchar, a, b => a == b
  | .blob, a, b => a == b
  | .date, a, b => a == b
  | .time, a, b => a == b
  | .timestamp, a, b => a == b
  | .zonedTimestamp, a, b => a.instant == b.instant
  | .interval, a, b => a.same b
  | .zonedClock, a, b => a == b
  | .uuid, a, b => a == b

/-- The text of a value of a kind in messages. -/
def messageText : (k : Kind) → k.Payload → String
  | .boolean, b => if b then "true" else "false"
  | .int16, n => Text.intText n.toInt
  | .int32, n => Text.intText n.toInt
  | .int64, n => Text.intText n.toInt
  | .float32, x => x.messageText
  | .float64, x => x.messageText
  | .decimal, d => d.text
  | .varchar, s => Text.quoted s
  | .blob, b =>
    "[" ++ ", ".intercalate (b.map fun (x : UInt8) => Text.natText x.toNat) ++ "]"
  | .date, d => d.messageText
  | .time, t => t.messageText
  | .timestamp, t => t.messageText
  | .zonedTimestamp, t => t.messageText
  | .interval, i => i.messageText
  | .zonedClock, t => t.messageText
  | .uuid, u => u.text

end Kind

end TableAccess
