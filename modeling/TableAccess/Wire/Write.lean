import TableAccess.Wire.Encode

/-!
The writing of parameters behind what a buffer holds. A value is converted and checked before the
first of its bytes is put out. The frame of an array is put out in front of its elements, with
zeros for what only they decide: the mark for nulls, and the length of each. These are overwritten
when the elements are there.
-/

set_option autoImplicit false
set_option relaxedAutoImplicit false

namespace TableAccess

namespace Wire

/-- What puts bytes out behind those of a buffer. After an error the buffer holds what was put out
before it. -/
abbrev Output (α : Type) : Type := EStateM EncodeError (List UInt8) α

namespace Output

def put (bytes : List UInt8) : Output Unit := modify (· ++ bytes)

/-- What a step without output comes to. -/
def lift {α : Type} : Except EncodeError α → Output α
  | .ok a => pure a
  | .error e => throw e

/-- Bytes in place of as many others, from a position of the buffer on. -/
def overwrite (start : Nat) (bytes : List UInt8) : Output Unit :=
  modify fun out => out.take start ++ bytes ++ out.drop (start + bytes.length)

/-- The position behind all that has been put out. -/
def position : Output Nat := return (← get).length

end Output

open Output (put lift overwrite position)

end Wire

open Wire Wire.Output

/-! ### Times and intervals -/

/-- A point in time, whatever its offset. -/
def ZonedTimestamp.write (t : ZonedTimestamp) : Output Unit :=
  match t.toUtc? with
  | some utc => put utc.image
  | none => throw .beyondCalendar

/-- An interval as a time of day, which it is up to the end of the day included. -/
def Interval.writeTime (i : Interval) : Output Unit := do
  let micros := i.totalMicros
  if 0 ≤ micros ∧ micros ≤ microsInDay then put (bytesOfInt 8 micros)
  else throw (.notTimeOfDay i)

/-- A time of day with an offset, counted to the west. -/
def ZonedClock.write (t : ZonedClock) : Output Unit := do
  put (bytesOfInt 8 t.time.micros)
  put (bytesOfInt 4 (-t.offset.seconds))

/-- An interval as microseconds, days and months. -/
def Interval.write (i : Interval) : Output Unit := do
  put (bytesOfInt 8 (clamp 64 i.micros))
  put (bytesOfInt 4 (clamp 32 i.carriedDays))
  put (bytesOfInt 4 (clamp 32 i.months.toInt))

namespace Wire

/-! ### Scalars -/

/-- An integer as a word, if it lies within the range of the column. -/
def writeInteger (range : IntegerRange) (width : Nat) (n : Int) : Output Unit := do
  let n ← lift ((range.check n).mapError .range)
  put (bytesOfInt width n)

def Groups.write (g : Groups) : Output Unit := do
  put (bytesOfNat 2 g.digits.length)
  put (bytesOfInt 2 g.weight)
  put (bytesOfNat 2 (if g.negative then negativeMark else 0))
  put (bytesOfNat 2 g.displayScale)
  g.digits.forM fun digit => put (bytesOfNat 2 digit)

/-- What a value of a scalar type holds. -/
def Scalar.writePayload : (s : Scalar) → s.kind.Payload → Output Unit
  | .bool, b => put [if b then 1 else 0]
  | .char, n => writeInteger (.signed 8) 1 n.toInt
  | .int2, n => put (bytesOfInt 2 n.toInt)
  | .int4, n => put (bytesOfInt 4 n.toInt)
  | .int8, n => put (bytesOfInt 8 n.toInt)
  | .oid, n => writeInteger (.unsigned 32) 4 n.toInt
  | .float4, x => put (bytesOfNat 4 x.bits)
  | .float8, x => put (bytesOfNat 8 x.bits)
  | .numeric, d => (Groups.ofDecimal d).write
  | .bytea, bytes => put bytes
  | .date, d => put d.image
  | .time, i => i.writeTime
  | .timetz, t => t.write
  | .timestamp, t => put t.image
  | .timestamptz, t => t.write
  | .interval, i => i.write
  | .uuid, u => put (bytesOfNat 16 u.bits)

/-- A value as a time of day. -/
def writeTime (v : Value) : Output Unit :=
  match v with
  | .scalar .time (some t) => put t.image
  | .scalar .zonedClock (some t) => put t.time.image
  | v => do
    let i ← lift (convert .interval v)
    i.writeTime

/-- A value as one of a scalar type. -/
def Scalar.write (s : Scalar) (v : Value) : Output Unit :=
  if s = .time then writeTime v
  else do
    let x ← lift (convert s.kind v)
    s.writePayload x

/-- A value as one of a type that takes texts only. -/
def writeText (t : SqlType) (v : Value) : Output Unit :=
  match v with
  | .text s => do
    if versioned.contains t.label.name then put [1]
    put (Text.utf8Bytes s.toList)
  | v => throw (.unsuited v t)

/-! ### Arrays -/

/-- An element behind its length, which is negative for a null. -/
def writeElement (write : Output Bool) : Output Bool := do
  let start ← position
  put (bytesOfNat 4 0)
  let null ← write
  if null then overwrite start (bytesOfInt 4 (-1))
  else
    let length := (← position) - start - 4
    if frameLimit ≤ length then throw .tooLarge
    overwrite start (bytesOfNat 4 length)
  return null

/-- Elements one after another, and whether one of them is null. -/
def writeElements (write : Value → Output Bool) : List Value → Output Bool
  | [] => return false
  | v :: vs => do
    let null ← writeElement (write v)
    let others ← writeElements write vs
    return null || others

/-- The frame of elements of a type in one dimension. -/
def writeArray (memberOid lowest : Nat) (write : Value → Output Bool) (vs : List Value) :
    Output Unit := do
  if frameLimit ≤ vs.length then throw .tooLarge
  let dimensions ← position
  put (bytesOfNat 4 0)
  let mark ← position
  put (bytesOfNat 4 0)
  put (bytesOfNat 4 memberOid)
  put (bytesOfNat 4 vs.length)
  put (bytesOfNat 4 lowest)
  overwrite dimensions (bytesOfNat 4 1)
  let null ← writeElements write vs
  overwrite mark (bytesOfNat 4 (if null then 1 else 0))

/-- A value as a parameter of a type, and whether it is null, of which nothing is put out. -/
def write : SqlType → Value → Output Bool
  | t, v =>
    if v.isNull then return true
    else do
      match t with
      | .scalar s => s.write v
      | .text label => writeText (.text label) v
      | .other label => writeText (.other label) v
      | .array label lowest member =>
        match v with
        | .list (some vs) _ => writeArray member.oid lowest (write member) vs
        | v => writeText (.array label lowest member) v
      return false

end Wire

end TableAccess
