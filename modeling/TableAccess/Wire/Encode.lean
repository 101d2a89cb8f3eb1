import TableAccess.Wire.Decode

/-!
The bytes of values as parameters of a type. A text is taken for what it denotes where the type
is no text, and other values are converted first as they are for the fields of records.
-/

set_option autoImplicit false
set_option relaxedAutoImplicit false

namespace TableAccess

open Wire

def readSigned (bits : Nat) (s : String) : Except LiteralError Int :=
  ((IntegerRange.signed bits).read s.toList).mapError .integer

/-- A text as a value of a kind, for the kinds that parameters read from texts. -/
def Kind.ofText? : (k : Kind) → String → Option (Except LiteralError k.Payload)
  | .boolean, s =>
    some (if s = "true" then .ok true else if s = "false" then .ok false else .error .boolean)
  | .int16, s => some ((readSigned 16 s).map Int16.ofInt)
  | .int32, s => some ((readSigned 32 s).map Int32.ofInt)
  | .int64, s => some ((readSigned 64 s).map Int64.ofInt)
  | .float32, s => some ((Binary.read .single s.toList).mapError .float)
  | .float64, s => some ((Binary.read .double s.toList).mapError .float)
  | .decimal, s => some ((Decimal.read s.toList).mapError .decimal)
  | .date, s => some ((Date.read s.toList).mapError .date)
  | .interval, s => some ((Kind.readInterval s).mapError .conversion)
  | .zonedClock, s => some ((Kind.readZonedClock s).mapError .conversion)
  | .uuid, s => some ((Kind.readUuid s).mapError .conversion)
  | .varchar, _ => none
  | .blob, _ => none
  | .time, _ => none
  | .timestamp, _ => none
  | .zonedTimestamp, _ => none

namespace Wire

/-- A value as one of a kind, read from it where it is a text. -/
def convert (k : Kind) (v : Value) : Except EncodeError k.Payload :=
  let parsed := match v with
    | .text s => (k.ofText? s).map fun r => r.mapError (EncodeError.literal s k)
    | _ => none
  match parsed with
  | some r => r
  | none => (k.ofValue? v).mapError .conversion

def integerImage (range : IntegerRange) (width : Nat) (n : Int) :
    Except EncodeError (List UInt8) :=
  match range.check n with
  | .error e => .error (.range e)
  | .ok n => .ok (bytesOfInt width n)

/-- The bytes of a value as a time of day. -/
def timeImage (v : Value) : Except EncodeError (List UInt8) :=
  match v with
  | .scalar .time (some t) => .ok t.image
  | .scalar .zonedClock (some t) => .ok t.time.image
  | v =>
    match convert .interval v with
    | .error e => .error e
    | .ok i => i.timeImage

/-- The bytes of what a value of a scalar type holds. -/
def Scalar.image : (s : Scalar) → s.kind.Payload → Except EncodeError (List UInt8)
  | .bool, b => .ok [if b then 1 else 0]
  | .char, n => integerImage (.signed 8) 1 n.toInt
  | .int2, n => .ok (bytesOfInt 2 n.toInt)
  | .int4, n => .ok (bytesOfInt 4 n.toInt)
  | .int8, n => .ok (bytesOfInt 8 n.toInt)
  | .oid, n => integerImage (.unsigned 32) 4 n.toInt
  | .float4, x => .ok (bytesOfNat 4 x.bits)
  | .float8, x => .ok (bytesOfNat 8 x.bits)
  | .numeric, d => .ok (Groups.ofDecimal d).bytes
  | .bytea, bytes => .ok bytes
  | .date, d => .ok d.image
  | .time, i => i.timeImage
  | .timetz, t => .ok t.image
  | .timestamp, t => .ok t.image
  | .timestamptz, t => t.image
  | .interval, i => .ok i.image
  | .uuid, u => .ok (bytesOfNat 16 u.bits)

/-- The bytes of a value as one of a scalar type. -/
def Scalar.encode (s : Scalar) (v : Value) : Except EncodeError (List UInt8) :=
  if s = .time then timeImage v
  else
    match convert s.kind v with
    | .error e => .error e
    | .ok x => s.image x

/-- The bytes of a text in a column of a type. -/
def textImage (label : TypeLabel) (s : String) : List UInt8 :=
  (if versioned.contains label.name then [1] else []) ++ Text.utf8Bytes s.toList

/-- The bytes of a value as one of a type that takes texts only. -/
def encodeText (t : SqlType) (v : Value) : Except EncodeError (List UInt8) :=
  match v with
  | .text s => .ok (textImage t.label s)
  | v => .error (.unsuited v t)

/-- The elements of an array encoded in order, up to the first one that fails or is too long for a
frame. -/
def encodeAll (encode : Value → Except EncodeError (Option (List UInt8))) :
    List Value → Except EncodeError Images
  | [] => .ok []
  | v :: vs =>
    match encode v with
    | .error e => .error e
    | .ok image =>
      if frameLimit ≤ (image.getD []).length then .error .tooLarge
      else
        match encodeAll encode vs with
        | .error e => .error e
        | .ok images => .ok (image :: images)

/-- The bytes of a value as a parameter of a type, none for a null. -/
def encode : SqlType → Value → Except EncodeError (Option (List UInt8))
  | t, v =>
    if v.isNull then .ok none
    else
      match t with
      | .scalar s => (s.encode v).map some
      | .text label => (encodeText (.text label) v).map some
      | .other label => (encodeText (.other label) v).map some
      | .array label lowest member =>
        match v with
        | .list (some vs) _ =>
          if frameLimit ≤ vs.length then .error .tooLarge
          else (encodeAll (encode member) vs).map fun images =>
            some (arrayImage member.oid lowest images)
        | v => (encodeText (.array label lowest member) v).map some

end Wire

end TableAccess
