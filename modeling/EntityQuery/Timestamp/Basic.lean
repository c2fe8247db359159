import EntityQuery.Text.Digits

/-!
# Timestamps

A timestamp is a moment in universal time, counted in days since 1970-01-01, seconds of the day and
nanoseconds of the second. A leap second is the second before it prolonged to two: its nanoseconds run
past one thousand million. It may follow any second, though a clock only shows it as one, with second 60,
at the end of a minute. Days belong to the Gregorian calendar, continued in both directions.
-/

namespace EntityQuery

/-- A day of the calendar. -/
structure Date where
  year : Int
  month : Nat
  day : Nat
  deriving DecidableEq

namespace Date

/-- Whether February has 29 days in a year. -/
def isLeapYear (y : Int) : Bool := y % 4 == 0 && (y % 100 != 0 || y % 400 == 0)

/-- How many days a month has, in the given year. -/
def monthLength (y : Int) (m : Nat) : Nat :=
  match m with
  | 2 => if isLeapYear y then 29 else 28
  | 4 | 6 | 9 | 11 => 30
  | _ => 31

/-- The first year of the calendar. -/
def leastYear : Int := -262143

/-- The last year of the calendar. -/
def greatestYear : Int := 262142

/-- Whether a date exists and lies in the calendar. -/
def isValid (d : Date) : Bool :=
  leastYear ≤ d.year && d.year ≤ greatestYear && 1 ≤ d.month && d.month ≤ 12 &&
    1 ≤ d.day && d.day ≤ monthLength d.year d.month

/-- How many days lie between 1970-01-01 and a date. Years are counted from March, so that the leap day
comes last, and in eras of 400 years, which are equally long. -/
def toDays (d : Date) : Int :=
  let y := if d.month ≤ 2 then d.year - 1 else d.year
  let era := y / 400
  let yearOfEra := y - era * 400
  let monthFromMarch : Int := ((d.month : Int) + 9) % 12
  let dayOfYear := (153 * monthFromMarch + 2) / 5 + (d.day : Int) - 1
  let dayOfEra := yearOfEra * 365 + yearOfEra / 4 - yearOfEra / 100 + dayOfYear
  era * 146097 + dayOfEra - 719468

/-- The date that lies this many days after 1970-01-01. -/
def ofDays (days : Int) : Date :=
  let z := days + 719468
  let era := z / 146097
  let dayOfEra := z - era * 146097
  let yearOfEra := (dayOfEra - dayOfEra / 1460 + dayOfEra / 36524 - dayOfEra / 146096) / 365
  let dayOfYear := dayOfEra - (365 * yearOfEra + yearOfEra / 4 - yearOfEra / 100)
  let monthFromMarch := (5 * dayOfYear + 2) / 153
  let day := dayOfYear - (153 * monthFromMarch + 2) / 5 + 1
  let month := if monthFromMarch < 10 then monthFromMarch + 3 else monthFromMarch - 9
  ⟨yearOfEra + era * 400 + (if month ≤ 2 then 1 else 0), month.toNat, day.toNat⟩

end Date

/-- How many seconds a day has. -/
def daySeconds : Nat := 86400

/-- How many nanoseconds a second has. -/
def secondNanos : Nat := 1000000000

/-- The number of the first day of the calendar. -/
def leastDay : Int := -96465292

/-- The number of the last day of the calendar. -/
def greatestDay : Int := 95026236

/-- A moment in universal time. Any second can be prolonged to a leap second. -/
structure Timestamp where
  /-- How many days lie between 1970-01-01 and the day of the moment. -/
  days : Int
  /-- How many seconds of the day have gone by. -/
  seconds : Nat
  /-- How many nanoseconds of the second have gone by, one thousand million or more in a leap second. -/
  nanos : Nat
  days_ge : leastDay ≤ days
  days_le : days ≤ greatestDay
  seconds_lt : seconds < daySeconds
  nanos_lt : nanos < 2 * secondNanos
  deriving DecidableEq

namespace Timestamp

/-- The moment with these parts, if they are in range. -/
def ofParts? (days : Int) (seconds nanos : Nat) : Option Timestamp :=
  if h : leastDay ≤ days ∧ days ≤ greatestDay ∧ seconds < daySeconds ∧ nanos < 2 * secondNanos then
    some ⟨days, seconds, nanos, h.1, h.2.1, h.2.2.1, h.2.2.2⟩
  else none

/-- The beginning of 1970. -/
def epoch : Timestamp := ⟨0, 0, 0, by decide, by decide, by decide, by decide⟩

/-- Timestamps are ordered by day, second and nanosecond. -/
instance : Ord Timestamp :=
  ⟨fun a b => (compare a.days b.days).then
    ((compare a.seconds b.seconds).then (compare a.nanos b.nanos))⟩

/-- A date, a time of day and the minutes by which that clock is ahead of universal time. -/
structure Local where
  date : Date
  hour : Nat
  minute : Nat
  second : Nat
  nanos : Nat
  offsetMinutes : Int

/-- The moment at which a clock shows the given date and time. Second 60 is a leap second. -/
def ofLocal? (l : Local) : Option Timestamp :=
  if l.date.isValid ∧ l.hour < 24 ∧ l.minute < 60 ∧ l.second ≤ 60 ∧ l.nanos < secondNanos then
    let (second, nanos) := if l.second = 60 then (59, l.nanos + secondNanos) else (l.second, l.nanos)
    let total : Int := (l.hour * 3600 + l.minute * 60 + second : Nat) - l.offsetMinutes * 60
    ofParts? (l.date.toDays + total / daySeconds) (total % daySeconds).toNat nanos
  else none

theorem ofParts?_self (t : Timestamp) : ofParts? t.days t.seconds t.nanos = some t := by
  simp [ofParts?, t.days_ge, t.days_le, t.seconds_lt, t.nanos_lt]

open Text

/-- A year with four digits, with a sign and at least four digits outside of 0 to 9999. -/
def yearChars (y : Int) : List Char :=
  if 0 ≤ y ∧ y ≤ 9999 then padded 4 y.toNat
  else (if y < 0 then '-' else '+') :: padded 4 y.natAbs

/-- A fraction of a second in milli-, micro- or nanoseconds, whichever is enough. -/
def fractionChars (nanos : Nat) : List Char :=
  if nanos = 0 then []
  else if nanos % 1000000 = 0 then '.' :: padded 3 (nanos / 1000000)
  else if nanos % 1000 = 0 then '.' :: padded 6 (nanos / 1000)
  else '.' :: padded 9 nanos

/-- The date and time without the offset. -/
def localChars (t : Timestamp) : List Char :=
  let d := Date.ofDays t.days
  let leap := if secondNanos ≤ t.nanos then 1 else 0
  yearChars d.year ++ '-' :: padded 2 d.month ++ '-' :: padded 2 d.day ++
    'T' :: padded 2 (t.seconds / 3600) ++ ':' :: padded 2 (t.seconds / 60 % 60) ++
    ':' :: padded 2 (t.seconds % 60 + leap) ++ fractionChars (t.nanos % secondNanos)

/-- A timestamp as it is shown, with the offset in digits. -/
def toText (t : Timestamp) : String := .ofList (t.localChars ++ ['+', '0', '0', ':', '0', '0'])

/-- A timestamp as it is transmitted, with `Z` for the offset. -/
def toWireText (t : Timestamp) : String := .ofList (t.localChars ++ ['Z'])

end Timestamp

end EntityQuery
