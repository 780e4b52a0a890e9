import Workflow.Number.Decimal

/-!
# Durations

A `Duration` is a signed count of nanoseconds whose whole seconds fit a signed 64-bit word.

* `ofNanos?` refuses a count out of range.
* `render` writes ISO 8601 with hours, minutes and seconds only: `PT1H30M0.5S`, `-PT5S`, `PT0S`.
-/

namespace Workflow

namespace Duration

/-- Nanoseconds in a second. -/
def second : Nat := 1000000000

/-- The least count of nanoseconds. -/
def least : Int := -0x8000000000000000 * second - 999999999

/-- The greatest count of nanoseconds. -/
def greatest : Int := 0x7FFFFFFFFFFFFFFF * second + 999999999

end Duration

/-- A signed length of time. -/
structure Duration where
  nanos : Int
  inRange : Duration.least ≤ nanos ∧ nanos ≤ Duration.greatest

namespace Duration

instance : DecidableEq Duration := fun a b =>
  if h : a.nanos = b.nanos then isTrue (by cases a; cases b; simp_all)
  else isFalse fun e => h (congrArg nanos e)

/-- No time at all. -/
def zero : Duration := ⟨0, by decide⟩

instance : Inhabited Duration := ⟨zero⟩

/-- The duration of a count of nanoseconds, if it is in range. -/
def ofNanos? (nanos : Int) : Option Duration :=
  if h : least ≤ nanos ∧ nanos ≤ greatest then some ⟨nanos, h⟩ else none

/-- The duration of a number of whole seconds. -/
def ofSeconds (seconds : Int64) : Duration :=
  ⟨seconds.toInt * second, by
    have h₁ := seconds.le_toInt
    have h₂ := seconds.toInt_lt
    simp only [least, greatest, second] at *
    omega⟩

def isNegative (d : Duration) : Bool := decide (d.nanos < 0)

/-- The digits of a fraction of `width` places, without the zeros at its end. -/
def fractionDigits (width value : Nat) : List Char :=
  let digits := Decimal.natDigits value
  let padded := List.replicate (width - digits.length) '0' ++ digits
  (padded.reverse.dropWhile (· == '0')).reverse

/-- A number of seconds with its nanoseconds as a fraction. -/
def secondsText (seconds nanos : Nat) : List Char :=
  if nanos = 0 then Decimal.natDigits seconds
  else Decimal.natDigits seconds ++ '.' :: fractionDigits 9 nanos

/-- A count with its designator, left out when the count is nought. -/
def part (count : Nat) (designator : Char) : List Char :=
  if count = 0 then [] else Decimal.natDigits count ++ [designator]

/-- The text of a duration. -/
def renderChars (d : Duration) : List Char :=
  let total := d.nanos.natAbs
  let nanos := total % second
  let seconds := total / second
  let tail := if seconds % 60 = 0 ∧ nanos = 0 then [] else secondsText (seconds % 60) nanos ++ ['S']
  let body := part (seconds / 3600) 'H' ++ part (seconds / 60 % 60) 'M' ++ tail
  (if d.isNegative then ['-'] else []) ++ ['P', 'T'] ++ (if total = 0 then ['0', 'S'] else body)

/-- The text of a duration as a string. -/
def render (d : Duration) : String := String.ofList d.renderChars

end Duration

end Workflow
