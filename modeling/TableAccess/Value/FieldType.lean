import TableAccess.Value.Basic

/-!
The types of the fields of records, and the conversion of their values to and from the
dynamically typed ones.

A value of a field's type survives the way through `toValue` and `ofValue?`; a value of another
kind is taken only where it denotes the same thing, and a null only where the field is optional.
-/

set_option autoImplicit false
set_option relaxedAutoImplicit false

namespace TableAccess

/-- The types of fields: scalars, borrowed texts and lengths of time, and optional, boxed,
shared and listed fields of a type. -/
inductive FieldType
  | scalar (kind : Kind)
  | borrowed
  | duration
  | optional (content : FieldType)
  | boxed (content : FieldType)
  | shared (content : FieldType)
  | listed (content : FieldType)
  deriving DecidableEq, Repr

/-- Why a value does not convert. -/
inductive ConversionError
  | unsuited (value : Value) (type : String)
  | outOfRange (n : Int) (source target : String)
  | notInteger (d : Decimal) (target : String)
  | decimalOutOfRange (d : Decimal) (target : String)
  | notTimeOfDay (i : Interval)
  | interval (text : String)
  | zonedClock (text : String) (cause : ZonedClockError)
  | uuid (cause : UuidError)

/-- The texts of a conversion error, the outermost first. -/
def ConversionError.chain : ConversionError → List String
  | .unsuited v type => ["Cannot convert " ++ v.messageText ++ " to " ++ type]
  | .outOfRange n source target =>
    ["Value " ++ Text.intText n ++ ": " ++ source ++ " is out of range for " ++ target]
  | .notInteger d target =>
    ["The value is not a integer", "Value " ++ d.text ++ ": Decimal does not fit into " ++ target]
  | .decimalOutOfRange d target => ["Value " ++ d.text ++ ": Decimal does not fit into " ++ target]
  | .notTimeOfDay i => ["Interval " ++ i.text ++ " is not a time of day"]
  | .interval s => ["Cannot parse `" ++ s ++ "` as a hh:mm:ss duration"]
  | .zonedClock s .shape => ["Cannot parse `" ++ s ++ "` as a time with time zone"]
  | .zonedClock s (.part e) =>
    [e.message, "Cannot parse `" ++ s ++ "` as a time with time zone"]
  | .uuid e => [e.message]

namespace Kind

/-- The name of the type of a field of a kind, as messages give it. -/
def typeName : Kind → String
  | .boolean => "bool"
  | .int16 => "i16"
  | .int32 => "i32"
  | .int64 => "i64"
  | .float32 => "f32"
  | .float64 => "f64"
  | .decimal => "rust_decimal::decimal::Decimal"
  | .varchar => "alloc::string::String"
  | .blob => "alloc::boxed::Box<[u8]>"
  | .date => "time::date::Date"
  | .time => "time::time::Time"
  | .timestamp => "time::plain_date_time::PlainDateTime"
  | .zonedTimestamp => "time::offset_date_time::OffsetDateTime"
  | .interval => "postgrape_core::interval::Interval"
  | .zonedClock => "postgrape_core::time_tz::TimeTz"
  | .uuid => "uuid::Uuid"

def readInterval (s : String) : Except ConversionError Interval :=
  match Interval.read? s.toList with
  | some i => .ok i
  | none => .error (.interval s)

def readZonedClock (s : String) : Except ConversionError ZonedClock :=
  match ZonedClock.read s.toList with
  | .ok t => .ok t
  | .error e => .error (.zonedClock s e)

def readUuid (s : String) : Except ConversionError Uuid :=
  match Uuid.read s.toList with
  | .ok u => .ok u
  | .error e => .error (.uuid e)

/-- An integer of the kind `source` within a narrower range, as `wrap` makes it. -/
def narrow {α : Type} (source target : Kind) (range : IntegerRange) (wrap : Int → α) (n : Int) :
    Except ConversionError α :=
  if range.low ≤ n ∧ n ≤ range.high then .ok (wrap n)
  else .error (.outOfRange n source.typeName target.typeName)

/-- The integer that a decimal without fractional part denotes, within a range. -/
def wholeDecimal {α : Type} (target : Kind) (range : IntegerRange) (wrap : Int → α)
    (d : Decimal) : Except ConversionError α :=
  if !d.isInteger then .error (.notInteger d target.typeName)
  else
    let n := d.integralPart
    if range.low ≤ n ∧ n ≤ range.high then .ok (wrap n)
    else .error (.decimalOutOfRange d target.typeName)

def ofValue? : (k : Kind) → Value → Except ConversionError k.Payload
  | .boolean, v => match v with
    | .scalar .boolean (some b) => .ok b
    | .scalar .int16 (some n) => .ok (n != 0)
    | .scalar .int32 (some n) => .ok (n != 0)
    | .scalar .int64 (some n) => .ok (n != 0)
    | v => .error (.unsuited v (typeName .boolean))
  | .int16, v => match v with
    | .scalar .int16 (some n) => .ok n
    | .scalar .int32 (some n) => narrow .int32 .int16 (.signed 16) Int16.ofInt n.toInt
    | .scalar .int64 (some n) => narrow .int64 .int16 (.signed 16) Int16.ofInt n.toInt
    | v => .error (.unsuited v (typeName .int16))
  | .int32, v => match v with
    | .scalar .int32 (some n) => .ok n
    | .scalar .int16 (some n) => .ok n.toInt32
    | .scalar .int64 (some n) => narrow .int64 .int32 (.signed 32) Int32.ofInt n.toInt
    | .scalar .decimal (some d) => wholeDecimal .int32 (.signed 32) Int32.ofInt d
    | v => .error (.unsuited v (typeName .int32))
  | .int64, v => match v with
    | .scalar .int64 (some n) => .ok n
    | .scalar .int32 (some n) => .ok n.toInt64
    | .scalar .int16 (some n) => .ok n.toInt64
    | .scalar .decimal (some d) => wholeDecimal .int64 (.signed 64) Int64.ofInt d
    | v => .error (.unsuited v (typeName .int64))
  | .float32, v => match v with
    | .scalar .float32 (some x) => .ok x
    | .scalar .float64 (some x) => .ok (x.convert .single)
    | .scalar .decimal (some d) => .ok d.toSingle
    | v => .error (.unsuited v (typeName .float32))
  | .float64, v => match v with
    | .scalar .float64 (some x) => .ok x
    | .scalar .float32 (some x) => .ok (x.convert .double)
    | .scalar .int32 (some n) => .ok (Binary.ofInt .double n.toInt)
    | .scalar .int64 (some n) => .ok (Binary.ofInt .double n.toInt)
    | .scalar .decimal (some d) => .ok d.toDouble
    | v => .error (.unsuited v (typeName .float64))
  | .decimal, v => match v with
    | .scalar .decimal (some d) => .ok d
    | .scalar .int16 (some n) => .ok (Decimal.ofInt n.toInt)
    | .scalar .int32 (some n) => .ok (Decimal.ofInt n.toInt)
    | .scalar .int64 (some n) => .ok (Decimal.ofInt n.toInt)
    | v => .error (.unsuited v (typeName .decimal))
  | .varchar, v => match v with
    | .scalar .varchar (some s) => .ok s
    | v => .error (.unsuited v (typeName .varchar))
  | .blob, v => match v with
    | .scalar .blob (some b) => .ok b
    | .scalar .varchar (some s) => .ok (Text.utf8Bytes s.toList)
    | v => .error (.unsuited v (typeName .blob))
  | .date, v => match v with
    | .scalar .date (some d) => .ok d
    | v => .error (.unsuited v (typeName .date))
  | .time, v => match v with
    | .scalar .time (some t) => .ok t
    | .scalar .interval (some i) => match i.toTimeOfDay? with
      | some t => .ok t
      | none => .error (.notTimeOfDay i)
    | .scalar .zonedClock (some t) => .ok t.time
    | v => .error (.unsuited v (typeName .time))
  | .timestamp, v => match v with
    | .scalar .timestamp (some t) => .ok t
    | v => .error (.unsuited v (typeName .timestamp))
  | .zonedTimestamp, v => match v with
    | .scalar .zonedTimestamp (some t) => .ok t
    | v => .error (.unsuited v (typeName .zonedTimestamp))
  | .interval, v => match v with
    | .scalar .interval (some i) => .ok i
    | .scalar .varchar (some s) => readInterval s
    | v => .error (.unsuited v (typeName .interval))
  | .zonedClock, v => match v with
    | .scalar .zonedClock (some t) => .ok t
    | .scalar .varchar (some s) => readZonedClock s
    | v => .error (.unsuited v (typeName .zonedClock))
  | .uuid, v => match v with
    | .scalar .uuid (some u) => .ok u
    | .scalar .varchar (some s) => readUuid s
    | v => .error (.unsuited v (typeName .uuid))

/-- What a field of a kind holds when nothing was read into it. -/
def initial : (k : Kind) → k.Payload
  | .boolean => false
  | .int16 => 0
  | .int32 => 0
  | .int64 => 0
  | .float32 => default
  | .float64 => default
  | .decimal => default
  | .varchar => ""
  | .blob => []
  | .date => default
  | .time => default
  | .timestamp => default
  | .zonedTimestamp => default
  | .interval => default
  | .zonedClock => default
  | .uuid => default

end Kind

namespace FieldType

/-- What a field of a type holds. -/
@[reducible] def Carrier : FieldType → Type
  | .scalar k => k.Payload
  | .borrowed => String
  | .duration => Duration
  | .optional t => Option t.Carrier
  | .boxed t => t.Carrier
  | .shared t => t.Carrier
  | .listed t => List t.Carrier

def typeName : FieldType → String
  | .scalar k => k.typeName
  | .borrowed => "alloc::borrow::Cow<str>"
  | .duration => "core::time::Duration"
  | .optional t => "core::option::Option<" ++ t.typeName ++ ">"
  | .boxed t => "alloc::boxed::Box<" ++ t.typeName ++ ">"
  | .shared t => "alloc::sync::Arc<" ++ t.typeName ++ ">"
  | .listed t => "alloc::vec::Vec<" ++ t.typeName ++ ">"

def nullValue : FieldType → Value
  | .scalar k => .nullOf k
  | .borrowed => .nullOf .varchar
  | .duration => .nullOf .interval
  | .optional t => t.nullValue
  | .boxed t => t.nullValue
  | .shared t => t.nullValue
  | .listed t => .list none t.nullValue

def toValue : (t : FieldType) → t.Carrier → Value
  | .scalar k, x => .scalar k (some x)
  | .borrowed, s => .text s
  | .duration, d => .scalar .interval (some (Interval.ofDuration d))
  | .optional t, x => match x with
    | some x => t.toValue x
    | none => t.nullValue
  | .boxed t, x => t.toValue x
  | .shared t, x => t.toValue x
  | .listed t, xs => .list (some (xs.map t.toValue)) t.nullValue

/-- The items of a list converted in order, up to the first that does not convert. -/
def convertAll {α : Type} (convert : Value → Except ConversionError α) :
    List Value → Except ConversionError (List α)
  | [] => .ok []
  | v :: vs =>
    match convert v with
    | .error e => .error e
    | .ok x =>
      match convertAll convert vs with
      | .error e => .error e
      | .ok xs => .ok (x :: xs)

/-- A value as what a field of a type holds. -/
def ofValue? : (t : FieldType) → Value → Except ConversionError t.Carrier
  | .scalar k, v => k.ofValue? v
  | .borrowed, v => Kind.ofValue? .varchar v
  | .duration, v => (Kind.ofValue? .interval v).map Interval.toDuration
  | .optional t, v => if v.isNull then .ok none else (t.ofValue? v).map some
  | .boxed t, v => t.ofValue? v
  | .shared t, v => t.ofValue? v
  | .listed t, v => match v with
    | .list (some vs) _ => convertAll t.ofValue? vs
    | v => .error (.unsuited v (typeName (.listed t)))

/-- What a field of a type holds when nothing was read into it. -/
def initial : (t : FieldType) → t.Carrier
  | .scalar k => k.initial
  | .borrowed => ""
  | .duration => Duration.zero
  | .optional _ => none
  | .boxed t => t.initial
  | .shared t => t.initial
  | .listed _ => []

end FieldType

end TableAccess
