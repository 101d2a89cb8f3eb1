import TableAccess.Wire.Array
import TableAccess.Wire.Numeric

/-!
The values that bytes stand for in the columns of a type. A null is that of the kind of its
column, as far as the type has a kind.
-/

set_option autoImplicit false
set_option relaxedAutoImplicit false

namespace TableAccess.Wire

namespace Scalar

/-- The kind of the values of a scalar type. A time of day is the interval since midnight. -/
@[reducible] def kind : Scalar → Kind
  | .bool => .boolean
  | .char => .int16
  | .int2 => .int16
  | .int4 => .int32
  | .int8 => .int64
  | .oid => .int64
  | .float4 => .float32
  | .float8 => .float64
  | .numeric => .decimal
  | .bytea => .blob
  | .date => .date
  | .time => .interval
  | .timetz => .zonedClock
  | .timestamp => .timestamp
  | .timestamptz => .zonedTimestamp
  | .interval => .interval
  | .uuid => .uuid

/-- What bytes stand for in a column of a scalar type. -/
def ofImage : (s : Scalar) → List UInt8 → Except DecodeError s.kind.Payload
  | .bool, bytes => match bytes with
    | [b] => .ok (b != 0)
    | _ => .error .size
  | .char, bytes => (wholeInt 1 .size bytes).map Int16.ofInt
  | .int2, bytes => (wholeInt 2 .size bytes).map Int16.ofInt
  | .int4, bytes => (wholeInt 4 .size bytes).map Int32.ofInt
  | .int8, bytes => (wholeInt 8 .size bytes).map Int64.ofInt
  | .oid, bytes => (exactly 4 .size bytes).map fun word => Int64.ofNat (natOfBytes word)
  | .float4, bytes => (exactly 4 .size bytes).map fun word => .ofBits .single (natOfBytes word)
  | .float8, bytes => (exactly 8 .size bytes).map fun word => .ofBits .double (natOfBytes word)
  | .numeric, bytes => match Groups.read? bytes with
    | none => .error .short
    | some groups => match groups.toDecimal? with
      | some d => .ok d
      | none => .error .outOfRange
  | .bytea, bytes => .ok bytes
  | .date, bytes => Date.ofImage bytes
  | .time, bytes => Interval.ofTimeImage bytes
  | .timetz, bytes => ZonedClock.ofImage bytes
  | .timestamp, bytes => Timestamp.ofImage bytes
  | .timestamptz, bytes => ZonedTimestamp.ofImage bytes
  | .interval, bytes => Interval.ofImage bytes
  | .uuid, bytes =>
    if bytes.length = 16 then .ok (Uuid.ofNat (natOfBytes bytes)) else .error .uuidSize

end Scalar

/-- The names of the types whose texts follow a byte with the version of their form. -/
def versioned : List String := ["ltree", "lquery", "ltxtquery"]

/-- The bytes of a text without the version in front of it. -/
def unversioned (label : TypeLabel) (bytes : List UInt8) : Except DecodeError (List UInt8) :=
  if versioned.contains label.name then
    match bytes with
    | 1 :: bytes => .ok bytes
    | _ => .error (.version label.name)
  else .ok bytes

/-- The text that bytes stand for in a column of a type. -/
def textOfImage (label : TypeLabel) (bytes : List UInt8) : Except DecodeError String :=
  match unversioned label bytes with
  | .error e => .error e
  | .ok bytes =>
    match Text.ofUtf8 bytes with
    | .error e => .error (.characters e)
    | .ok cs => .ok (String.ofList cs)

/-- The value of a text, or the null of no kind. -/
def decodeText (label : TypeLabel) : Option (List UInt8) → Except DecodeError Value
  | none => .ok .null
  | some bytes =>
    match textOfImage label bytes with
    | .error e => .error (.within (.sqlType label.text) e)
    | .ok s => .ok (.text s)

def SqlType.nullValue : SqlType → Value
  | .scalar s => .nullOf s.kind
  | .text _ => .nullOf .varchar
  | .array _ _ member => .list none member.nullValue
  | .other _ => .null

/-- The elements of an array decoded in order, up to the first one that fails. -/
def decodeAll (decode : Option (List UInt8) → Except DecodeError Value) :
    Images → Except DecodeError (List Value)
  | [] => .ok []
  | image :: images =>
    match decode image with
    | .error e => .error e
    | .ok v =>
      match decodeAll decode images with
      | .error e => .error e
      | .ok vs => .ok (v :: vs)

def decode : SqlType → Option (List UInt8) → Except DecodeError Value
  | .scalar s, none => .ok (.nullOf s.kind)
  | .scalar s, some bytes => (s.ofImage bytes).map fun x => .scalar s.kind (some x)
  | .text label, image => decodeText label image
  | .array _ _ member, none => .ok (.list none member.nullValue)
  | .array _ _ member, some bytes =>
    match readArray bytes with
    | .error e => .error e
    | .ok images => (decodeAll (decode member) images).map fun vs =>
      .list (some vs) member.nullValue
  | .other label, image => decodeText label image

end TableAccess.Wire
