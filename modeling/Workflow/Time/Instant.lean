import Workflow.Time.Duration

/-!
# Instants

An `Instant` counts nanoseconds from the start of 1970, in coordinated universal time, and lies
between the years -9999 and 9999.

* `daysOfDate` and `dateOfDays` convert between dates of the Gregorian calendar and days.
* `render` writes RFC 3339 with `Z`, the fraction without zeros at its end.
-/

namespace Workflow

namespace Instant

/-- -9999-01-02T01:59:59Z. -/
def least : Int := -377705023201 * 1000000000

/-- 9999-12-30T22:00:00.999999999Z. -/
def greatest : Int := 253402207200 * 1000000000 + 999999999

end Instant

/-- A point in time. -/
structure Instant where
  nanos : Int
  inRange : Instant.least ≤ nanos ∧ nanos ≤ Instant.greatest

/-- A date of the Gregorian calendar. -/
structure Date where
  year : Int
  month : Nat
  day : Nat
deriving DecidableEq

namespace Date

def isLeap (year : Int) : Bool := year % 4 == 0 && (year % 100 != 0 || year % 400 == 0)

/-- The number of days of a month. -/
def daysInMonth (year : Int) (month : Nat) : Nat :=
  if month = 2 then if isLeap year then 29 else 28
  else if month = 4 ∨ month = 6 ∨ month = 9 ∨ month = 11 then 30
  else 31

/-- Whether month and day exist in the year. -/
def exists? (d : Date) : Bool :=
  1 ≤ d.month && d.month ≤ 12 && 1 ≤ d.day && d.day ≤ daysInMonth d.year d.month

/-- Days from 1970-01-01. Years begin in March, so that a leap day is the last of its year. -/
def toDays (d : Date) : Int :=
  let y := if d.month ≤ 2 then d.year - 1 else d.year
  let era := y / 400
  let yearOfEra := y % 400
  let monthFromMarch : Int := (d.month + 9) % 12
  let dayOfYear := (153 * monthFromMarch + 2) / 5 + d.day - 1
  era * 146097 + (yearOfEra * 365 + yearOfEra / 4 - yearOfEra / 100 + dayOfYear) - 719468

/-- The date a number of days after 1970-01-01. -/
def ofDays (days : Int) : Date :=
  let z := days + 719468
  let era := z / 146097
  let dayOfEra := z % 146097
  let yearOfEra := (dayOfEra - dayOfEra / 1460 + dayOfEra / 36524 - dayOfEra / 146096) / 365
  let dayOfYear := dayOfEra - (365 * yearOfEra + yearOfEra / 4 - yearOfEra / 100)
  let monthFromMarch := (5 * dayOfYear + 2) / 153
  let day := dayOfYear - (153 * monthFromMarch + 2) / 5 + 1
  let month := if monthFromMarch < 10 then monthFromMarch + 3 else monthFromMarch - 9
  ⟨yearOfEra + era * 400 + (if month ≤ 2 then 1 else 0), month.toNat, day.toNat⟩

end Date

namespace Instant

instance : DecidableEq Instant := fun a b =>
  if h : a.nanos = b.nanos then isTrue (by cases a; cases b; simp_all)
  else isFalse fun e => h (congrArg nanos e)

/-- The start of 1970. -/
def epoch : Instant := ⟨0, by decide⟩

instance : Inhabited Instant := ⟨epoch⟩

/-- The instant of a count of nanoseconds, if it is in range. -/
def ofNanos? (nanos : Int) : Option Instant :=
  if h : least ≤ nanos ∧ nanos ≤ greatest then some ⟨nanos, h⟩ else none

/-- A number in a field of at least `width` places. -/
def field (width value : Nat) : List Char :=
  let digits := Decimal.natDigits value
  List.replicate (width - digits.length) '0' ++ digits

/-- A year: four places, or a sign and six for a year before zero. -/
def yearText (year : Int) : List Char :=
  if year < 0 then '-' :: field 6 year.natAbs else field 4 year.natAbs

/-- The text of an instant. -/
def renderChars (t : Instant) : List Char :=
  let seconds := t.nanos / Duration.second
  let nanos := (t.nanos % Duration.second).toNat
  let date := Date.ofDays (seconds / 86400)
  let clock := (seconds % 86400).toNat
  let fraction := if nanos = 0 then [] else '.' :: Duration.fractionDigits 9 nanos
  yearText date.year ++ '-' :: field 2 date.month ++ '-' :: field 2 date.day ++
    'T' :: field 2 (clock / 3600) ++ ':' :: field 2 (clock / 60 % 60) ++
    ':' :: field 2 (clock % 60) ++ fraction ++ ['Z']

/-- The text of an instant as a string. -/
def render (t : Instant) : String := String.ofList t.renderChars

end Instant

end Workflow
