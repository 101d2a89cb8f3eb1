import TableAccess.Fault
import TableAccess.Text.Percent
import TableAccess.Value.Basic

/-!
The literals of values in statements. Texts are percent encoded between single quotes, so that
no text can end its literal; what differs between servers is one record, the dialect. A point in
time is told in Coordinated Universal Time, and where no date tells it there, its literal stops the
program.
-/

set_option autoImplicit false
set_option relaxedAutoImplicit false

namespace TableAccess

/-- The literals that differ between servers: infinities, what is no number, and bytes. -/
structure Dialect where
  infinity : Bool → String
  notNumber : String
  blob : List UInt8 → String

namespace Dialect

/-- The literals that every server understands. Bytes have none. -/
def generic : Dialect where
  infinity negative := if negative then "'-Infinity'" else "'Infinity'"
  notNumber := "'NaN'"
  blob _ := ""

def postgres : Dialect where
  infinity negative := if negative then "'-Infinity'::FLOAT8" else "'Infinity'::FLOAT8"
  notNumber := "'NaN'::FLOAT8"
  blob bytes := "decode('" ++ Text.hexText bytes ++ "', 'hex')"

end Dialect

namespace Literal

/-- The characters of a text that stand for themselves between quotes. -/
def isHarmless (c : Char) : Bool :=
  Text.isAsciiAlphanumeric c || ";,/?:@&=+$_.!~*()#".toList.contains c

def body (s : List Char) : List Char := Text.percentEncode isHarmless s

def string (s : String) : String := String.ofList ('\'' :: body s.toList ++ ['\''])

/-- A text with other characters in place of each of one character. -/
def replaced (search : Char) (replacement s : List Char) : List Char :=
  s.flatMap fun c => if c = search then replacement else [c]

theorem replaced_cons (search : Char) (replacement : List Char) (c : Char) (s : List Char) :
    replaced search replacement (c :: s) =
      (if c = search then replacement else [c]) ++ replaced search replacement s :=
  List.flatMap_cons

/-- A text without the character stays as it is. -/
theorem replaced_of_not_mem {search : Char} (replacement : List Char) {s : List Char}
    (fresh : search ∉ s) : replaced search replacement s = s := by
  induction s with
  | nil => rfl
  | cons c s ih =>
    obtain ⟨other, others⟩ := List.ne_and_not_mem_of_not_mem_cons fresh
    rw [replaced_cons, if_neg other.symm, ih others, List.singleton_append]

/-- A name between double quotes, a double quote within it written twice. -/
def identifier (s : String) : String :=
  String.ofList ('"' :: replaced '"' ['"', '"'] s.toList ++ ['"'])

/-- A date as year, month and day, the sign of a year counted among its four characters. -/
def dateText (c : Calendar.Civil) : List Char :=
  (if c.year < 0 then '-' :: Text.padded 3 c.year.natAbs else Text.padded 4 c.year.natAbs) ++
    '-' :: Text.padded 2 c.month ++ '-' :: Text.padded 2 c.day

/-- A time of day, with six decimals unless its microseconds are zero. -/
def timeText (t : TimeOfDay) : List Char :=
  let micros := t.micros % 1000000
  t.clockText ++ (if micros = 0 then [] else '.' :: Text.fixedDigits 6 micros)

/-- A day and a time of day with three decimals. -/
def momentText (day : Int) (t : TimeOfDay) : List Char :=
  dateText (Calendar.civilOfDay day) ++ 'T' :: t.clockText ++
    '.' :: Text.fixedDigits 3 (t.nano / 1000000)

/-- A point in time in Coordinated Universal Time, by its number of nanoseconds, as if the years of
the calendar went on. -/
def instantText (n : Int) : List Char :=
  momentText (n / nanosInDay) (TimeOfDay.ofNanos n) ++ ['Z']

/-- The text of a point in time in Coordinated Universal Time. -/
def instant? (t : ZonedTimestamp) : Except Fault (List Char) :=
  match t.toUtc? with
  | some utc => .ok (momentText utc.date.day utc.time ++ ['Z'])
  | none => .error .beyondCalendar

def float (d : Dialect) {p : Precision} (x : Binary p) : String :=
  match x.meaning with
  | .finite negative m e => (Binary.Layout.statement p).finite p negative m e
  | .infinite negative => d.infinity negative
  | .notNumber => d.notNumber

/-- The literal of what a value holds, that of a point in time as if the calendar went on. -/
def scalar (d : Dialect) : (k : Kind) → k.Payload → String
  | .boolean, b => if b then "true" else "false"
  | .int16, n => Text.intText n.toInt
  | .int32, n => Text.intText n.toInt
  | .int64, n => Text.intText n.toInt
  | .float32, x => float d x
  | .float64, x => float d x
  | .decimal, x => x.text
  | .varchar, s => string s
  | .blob, b => d.blob b
  | .date, x => string (String.ofList (dateText x.civil))
  | .time, t => string (String.ofList (timeText t))
  | .timestamp, t => string (String.ofList (momentText t.date.day t.time))
  | .zonedTimestamp, t => string (String.ofList (instantText t.instant))
  | .interval, i => string i.text
  | .zonedClock, t => string t.text
  | .uuid, u => string u.text

end Literal

/-- What stops the writing of a value as a literal. -/
def Value.fault? : Value → Option Fault
  | .scalar .zonedTimestamp (some t) => if t.toUtc?.isNone then some .beyondCalendar else none
  | _ => none

namespace Dialect

/-- The literal of a value that does not stop the program. Lists have none, and a value without a
literal gives no text. -/
def literal (d : Dialect) : Value → String
  | .null => "null"
  | .scalar _ none => "null"
  | .list none _ => "null"
  | .scalar k (some v) => Literal.scalar d k v
  | .list (some _) _ => ""

/-- The literal of a value, or what stops the program. -/
def literal? (d : Dialect) : Value → Except Fault String
  | .scalar .zonedTimestamp (some t) =>
    (Literal.instant? t).map fun s => Literal.string (String.ofList s)
  | v => .ok (d.literal v)

theorem instant?_eq (t : ZonedTimestamp) : Literal.instant? t =
    if t.toUtc?.isNone then .error .beyondCalendar else .ok (Literal.instantText t.instant) := by
  rw [Literal.instant?, ZonedTimestamp.toUtc?, Timestamp.ofNanos?]
  cases dated : Date.ofDay? (t.instant / nanosInDay) with
  | none => rfl
  | some date =>
    rw [Literal.instantText, ← Date.day_of_ofDay? dated]
    rfl

/-- A value has its literal unless it stops the program. -/
theorem literal?_eq (d : Dialect) (v : Value) :
    d.literal? v = match v.fault? with
      | some e => .error e
      | none => .ok (d.literal v) := by
  cases v with
  | null | list => rfl
  | scalar k x =>
    cases k with
    | zonedTimestamp =>
      cases x with
      | none => rfl
      | some t =>
        rw [literal?, instant?_eq, Value.fault?]
        split <;> rfl
    | _ => rfl

end Dialect

end TableAccess
