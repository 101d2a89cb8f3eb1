import TableAccess.Number.Power
import TableAccess.Time.Date

/-!
Times of day, offsets from Coordinated Universal Time, and the points in time that dates,
times of day and offsets make up. All are counted in nanoseconds or seconds.
-/

set_option autoImplicit false
set_option relaxedAutoImplicit false

namespace TableAccess

def nanosInSecond : Nat := 1000000000

def secondsInDay : Nat := 86400

def nanosInDay : Nat := 86400000000000

def microsInDay : Nat := 86400000000

/-- A time of day, as the nanoseconds since midnight. -/
structure TimeOfDay where
  nanos : Nat
  nanos_lt : nanos < nanosInDay
  deriving DecidableEq

namespace TimeOfDay

def midnight : TimeOfDay := ⟨0, by decide⟩

instance : Inhabited TimeOfDay := ⟨midnight⟩

/-- The time of day a number of nanoseconds after some midnight. -/
def ofNanos (n : Int) : TimeOfDay :=
  ⟨(n % nanosInDay).toNat, by
    have h : 0 ≤ n % (nanosInDay : Int) := Int.emod_nonneg _ (by decide)
    have h' : n % (nanosInDay : Int) < nanosInDay := Int.emod_lt_of_pos _ (by decide)
    omega⟩

/-- The time of day with the given parts, if they are in range. -/
def ofParts? (hour minute second nano : Nat) : Option TimeOfDay :=
  if hour < 24 ∧ minute < 60 ∧ second < 60 ∧ nano < nanosInSecond then
    some (ofNanos (((hour * 60 + minute) * 60 + second) * nanosInSecond + nano : Nat))
  else none

def hour (t : TimeOfDay) : Nat := t.nanos / nanosInSecond / 3600

def minute (t : TimeOfDay) : Nat := t.nanos / nanosInSecond / 60 % 60

def second (t : TimeOfDay) : Nat := t.nanos / nanosInSecond % 60

/-- The nanoseconds within the second of a time of day. -/
def nano (t : TimeOfDay) : Nat := t.nanos % nanosInSecond

/-- The whole microseconds since midnight. -/
def micros (t : TimeOfDay) : Nat := t.nanos / 1000

/-- The text of a time of day in messages: the fraction has at least one digit. -/
def messageText (t : TimeOfDay) : String :=
  let fraction := ((Text.fixedDigits 9 t.nano).reverse.dropWhile (· == '0')).reverse
  String.ofList
    (Text.numeral t.hour ++ ':' :: Text.padded 2 t.minute ++ ':' :: Text.padded 2 t.second ++
      '.' :: (if fraction.isEmpty then ['0'] else fraction))

/-- Hours, minutes and seconds with two digits each. -/
def clockText (t : TimeOfDay) : List Char :=
  Text.padded 2 t.hour ++ ':' :: Text.padded 2 t.minute ++ ':' :: Text.padded 2 t.second

/-- A time of day is told by its nanoseconds. -/
theorem eq_of_nanos {t u : TimeOfDay} (same : t.nanos = u.nanos) : t = u := by
  cases t
  cases same
  rfl

theorem ofNanos_eq {n : Int} {t : TimeOfDay} (h : n % nanosInDay = t.nanos) : ofNanos n = t := by
  refine eq_of_nanos ?_
  simp only [ofNanos, h, Int.toNat_natCast]

theorem nanos_ofNanos (n : Int) : ((ofNanos n).nanos : Int) = n % nanosInDay :=
  Int.toNat_of_nonneg (Int.emod_nonneg n (by decide))

end TimeOfDay

/-- An offset from Coordinated Universal Time in seconds, less than 26 hours either way. -/
structure Offset where
  seconds : Int
  seconds_ge : -93599 ≤ seconds
  seconds_le : seconds ≤ 93599
  deriving DecidableEq

namespace Offset

def utc : Offset := ⟨0, by decide, by decide⟩

instance : Inhabited Offset := ⟨utc⟩

/-- The offset of a number of seconds, if it is in range. -/
def ofSeconds? (seconds : Int) : Option Offset :=
  if h : -93599 ≤ seconds ∧ seconds ≤ 93599 then some ⟨seconds, h.1, h.2⟩ else none

def sign (o : Offset) : Char := if o.seconds < 0 then '-' else '+'

/-- The whole hours of an offset without its sign. -/
def hours (o : Offset) : Nat := o.seconds.natAbs / 3600

/-- The whole minutes within the hour of an offset. -/
def minutes (o : Offset) : Nat := o.seconds.natAbs / 60 % 60

def messageText (o : Offset) : String :=
  String.ofList
    (o.sign :: Text.padded 2 o.hours ++ ':' :: Text.padded 2 o.minutes ++
      ':' :: Text.padded 2 (o.seconds.natAbs % 60))

/-- An offset is told by its seconds. -/
theorem eq_of_seconds {o p : Offset} (same : o.seconds = p.seconds) : o = p := by
  cases o
  cases same
  rfl

/-- An offset that comes from a number of seconds holds that number. -/
theorem seconds_of_ofSeconds? {n : Int} {o : Offset} (h : ofSeconds? n = some o) :
    o.seconds = n := by
  unfold ofSeconds? at h
  split at h
  · cases h; rfl
  · cases h

/-- Every offset comes from the number of seconds that it holds. -/
@[simp] theorem ofSeconds?_seconds (o : Offset) : ofSeconds? o.seconds = some o := by
  unfold ofSeconds?
  rw [dif_pos ⟨o.seconds_ge, o.seconds_le⟩]

end Offset

/-- A date and a time of day. -/
structure Timestamp where
  date : Date
  time : TimeOfDay
  deriving DecidableEq, Inhabited

namespace Timestamp

/-- The nanoseconds since the start of the year 2000. -/
def nanos (t : Timestamp) : Int := t.date.day * nanosInDay + t.time.nanos

/-- The timestamp a number of nanoseconds after the start of the year 2000, if in range. -/
def ofNanos? (n : Int) : Option Timestamp :=
  (Date.ofDay? (n / nanosInDay)).map fun date => ⟨date, TimeOfDay.ofNanos n⟩

def messageText (t : Timestamp) : String := t.date.messageText ++ " " ++ t.time.messageText

/-- Every timestamp comes from its number of nanoseconds. -/
@[simp] theorem ofNanos?_nanos (t : Timestamp) : ofNanos? t.nanos = some t := by
  have h := t.time.nanos_lt
  have hday : t.nanos / (nanosInDay : Int) = t.date.day := by
    unfold nanos
    rw [Int.add_comm, Int.add_mul_ediv_right _ _ (by decide)]
    have : (t.time.nanos : Int) / nanosInDay = 0 := by
      rw [← Int.natCast_ediv]; simp [Nat.div_eq_of_lt h]
    omega
  have hclock : TimeOfDay.ofNanos t.nanos = t.time := by
    unfold TimeOfDay.ofNanos nanos
    congr 1
    rw [Int.add_comm, Int.add_mul_emod_self_right, ← Int.natCast_emod, Nat.mod_eq_of_lt h]
    simp
  simp [ofNanos?, hday, hclock]

end Timestamp

/-- A date and a time of day at a place with an offset. -/
structure ZonedTimestamp where
  wall : Timestamp
  offset : Offset
  deriving DecidableEq, Inhabited

namespace ZonedTimestamp

/-- The nanoseconds since the start of the year 2000 in Coordinated Universal Time. -/
def instant (t : ZonedTimestamp) : Int := t.wall.nanos - t.offset.seconds * nanosInSecond

/-- The same point in time as a date and a time of day in Coordinated Universal Time, if the
calendar goes that far. -/
def toUtc? (t : ZonedTimestamp) : Option Timestamp := Timestamp.ofNanos? t.instant

def messageText (t : ZonedTimestamp) : String :=
  t.wall.messageText ++ " " ++ t.offset.messageText

end ZonedTimestamp

/-- A length of time without a sign: whole seconds, and nanoseconds below a second. -/
structure Duration where
  seconds : Nat
  nanos : Nat
  seconds_lt : seconds < 2 ^ 64
  nanos_lt : nanos < nanosInSecond
  deriving DecidableEq

namespace Duration

def zero : Duration := ⟨0, 0, by decide, by decide⟩

instance : Inhabited Duration := ⟨zero⟩

/-- The length of a number of nanoseconds; of its seconds the low 64 bits are kept. -/
def ofNanos (n : Nat) : Duration :=
  ⟨n / nanosInSecond % 2 ^ 64, n % nanosInSecond, Nat.mod_lt _ (by decide),
    Nat.mod_lt _ (by decide)⟩

def totalNanos (d : Duration) : Nat := d.seconds * nanosInSecond + d.nanos

end Duration

end TableAccess
