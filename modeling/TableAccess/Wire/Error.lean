import TableAccess.Failure
import TableAccess.Number.Reading
import TableAccess.Text.Utf8
import TableAccess.Wire.SqlType

/-!
Why bytes are no value of a type, and why a value has no bytes as one of a type.
-/

set_option autoImplicit false
set_option relaxedAutoImplicit false

namespace TableAccess.Wire

/-- What follows the values that do not use up their bytes. -/
inductive Remainder
  | date
  | timestamp
  | element
  deriving DecidableEq, Repr

/-- The name of a value that does not use up its bytes. -/
def Remainder.name : Remainder → String
  | .date => "date"
  | .timestamp => "timestamp"
  | .element => "arrayvalue"

/-- Why bytes are no value of a type. -/
inductive DecodeError
  | short
  | size
  | remainder (what : Remainder)
  | uuidSize
  | outOfRange
  | offset (cause : TimeError)
  | dimensionCount
  | dimensionSize
  | elementCount
  | manyDimensions
  | elementSize
  | version (type : String)
  | characters (cause : Text.Utf8Error)
  | within (activity : Activity) (cause : DecodeError)

namespace DecodeError

/-- What was being done when an error arose, the outermost first, and the text of its cause. -/
def explain : DecodeError → List Activity × String
  | .short => ([], "failed to fill whole buffer")
  | .size => ([], "invalid buffer size")
  | .remainder what => ([], "invalid message length: " ++ what.name ++ " not drained")
  | .uuidSize => ([], "invalid message length: uuid size mismatch")
  | .outOfRange => ([], "value too large to decode")
  | .offset cause => ([], cause.message)
  | .dimensionCount => ([], "invalid dimension count")
  | .dimensionSize => ([], "invalid dimension size")
  | .elementCount => ([], "too many array elements")
  | .manyDimensions => ([], "array contains too many dimensions")
  | .elementSize => ([], "invalid value length")
  | .version type => ([], type ++ " version 1 only supported")
  | .characters cause => ([], cause.message)
  | .within activity cause => (activity :: cause.explain.1, cause.explain.2)

/-- The failure of an operation by an error. -/
def failure (e : DecodeError) : Failure := ⟨e.explain.1, .reported [e.explain.2]⟩

end DecodeError

/-- Why a text is no value of a kind. -/
inductive LiteralError
  | boolean
  | integer (cause : IntegerError)
  | float (cause : Binary.ReadError)
  | decimal (cause : Decimal.ReadError)
  | date (cause : TimeError)
  | conversion (cause : ConversionError)

/-- The text of the error that a text is no value of a kind. -/
def LiteralError.message : LiteralError → String
  | .boolean => "provided string was not `true` or `false`"
  | .integer cause => cause.message
  | .float cause => cause.message
  | .decimal cause => cause.message
  | .date cause => cause.message
  | .conversion cause => cause.chain.headD ""

/-- Why a value has no bytes as one of a type. -/
inductive EncodeError
  | conversion (cause : ConversionError)
  | literal (text : String) (kind : Kind) (cause : LiteralError)
  | range (cause : IntegerError)
  | notTimeOfDay (i : Interval)
  | beyondCalendar
  | tooLarge
  | unsuited (value : Value) (type : SqlType)

/-- The texts of the error that a value has no bytes as one of a type, the outermost first. A text
that is no date is not repeated. -/
def EncodeError.chain : EncodeError → List String
  | .conversion cause => cause.chain
  | .literal _ _ (.date cause) => [cause.message]
  | .literal text kind cause =>
    ["Cannot parse `" ++ text ++ "` as " ++ kind.typeName ++ ": " ++ cause.message]
  | .range cause => [cause.message]
  | .notTimeOfDay i => ["Interval " ++ i.text ++ " is not a time of day"]
  | .beyondCalendar => ["local datetime out of valid range"]
  | .tooLarge => ["value too large to transmit"]
  | .unsuited v t => ["Cannot encode " ++ v.messageText ++ " as the sql type `" ++ t.name ++ "`"]

end TableAccess.Wire
