import Workflow.Time.Duration

/-!
# Reading durations

Two notations are understood.

* ISO 8601: `PT1H30M`, `-pt0.5s`; hours, minutes and seconds, in this order.
* Labelled amounts: `1 hour, 30 mins`, `1.5h`, `5us ago`; hours down to nanoseconds, in this order,
  or a clock reading `1:30:00`.

A fraction of one to nine digits may follow the last amount only. A sign stands in front, or `ago`
behind, not both. Every amount fits a signed 64-bit word, and so do the seconds of the whole.
-/

namespace Workflow.Duration

/-- The units of an amount, from the largest down. -/
inductive Unit where
  | hour
  | minute
  | second
  | millisecond
  | microsecond
  | nanosecond
deriving DecidableEq

namespace Unit

/-- The nanoseconds of one unit. -/
def nanos : Unit → Nat
  | .hour => 3600 * 1000000000
  | .minute => 60 * 1000000000
  | .second => 1000000000
  | .millisecond => 1000000
  | .microsecond => 1000
  | .nanosecond => 1

/-- The labels of each unit. -/
def labels : List (String × Unit) :=
  [("hours", .hour), ("hour", .hour), ("hrs", .hour), ("hr", .hour), ("h", .hour),
   ("minutes", .minute), ("minute", .minute), ("mins", .minute), ("min", .minute), ("m", .minute),
   ("seconds", .second), ("second", .second), ("secs", .second), ("sec", .second), ("s", .second),
   ("milliseconds", .millisecond), ("millisecond", .millisecond), ("millis", .millisecond),
   ("milli", .millisecond), ("msecs", .millisecond), ("msec", .millisecond), ("ms", .millisecond),
   ("microseconds", .microsecond), ("microsecond", .microsecond), ("micros", .microsecond),
   ("micro", .microsecond), ("usecs", .microsecond), ("usec", .microsecond), ("us", .microsecond),
   ("µsecs", .microsecond), ("µsec", .microsecond), ("µs", .microsecond),
   ("nanoseconds", .nanosecond), ("nanosecond", .nanosecond), ("nanos", .nanosecond),
   ("nano", .nanosecond), ("nsecs", .nanosecond), ("nsec", .nanosecond), ("ns", .nanosecond)]

/-- The unit of an ISO 8601 designator. -/
def ofDesignator? (c : Char) : Option Unit :=
  match c.toUpper with
  | 'H' => some .hour
  | 'M' => some .minute
  | 'S' => some .second
  | _ => none

end Unit

/-- A number of units with a fraction, in billionths of the unit. -/
structure Amount where
  unit : Unit
  count : Nat
  fraction : Option Nat

/-- The nanoseconds of an amount; a nanosecond has no fractions. -/
def Amount.nanos? (a : Amount) : Option Nat :=
  match a.fraction with
  | none => some (a.count * a.unit.nanos)
  | some f =>
    if a.unit = .nanosecond then none
    else some (a.count * a.unit.nanos + f * a.unit.nanos / second)

/-- The largest count with the given sign. -/
def maxCount (negative : Bool) : Nat := if negative then 0x8000000000000000 else 0x7FFFFFFFFFFFFFFF

/-- The sum of amounts with a sign. -/
def sum? (negative : Bool) (amounts : List Amount) : Option Duration := do
  let nanos ← amounts.mapM Amount.nanos?
  let total : Nat := nanos.foldl (· + ·) 0
  if amounts.all fun a => a.count ≤ maxCount negative then
    ofNanos? (if negative then -(total : Int) else total)
  else none

/-- The number at the start of a text. -/
def readCount? (text : List Char) : Option (Nat × List Char) :=
  let digits := text.takeWhile Char.isDigit
  if digits.isEmpty then none
  else some (digits.foldl (fun n c => n * 10 + (c.toNat - 48)) 0, text.drop digits.length)

/-- The fraction at the start of a text, in billionths: a mark and one to nine digits. -/
def readFraction? (text : List Char) : Option (Option Nat × List Char) :=
  match text with
  | c :: rest =>
    if c = '.' ∨ c = ',' then
      let digits := (rest.takeWhile Char.isDigit).take 9
      if digits.isEmpty then none
      else
        let value := digits.foldl (fun n c => n * 10 + (c.toNat - 48)) 0
        some (some (value * Nat.pow 10 (9 - digits.length)), rest.drop digits.length)
    else some (none, c :: rest)
  | [] => some (none, [])

/-- Whether a unit may follow the one before it. -/
def follows (previous : Option Unit) (unit : Unit) : Bool :=
  match previous with
  | none => true
  | some p => unit.nanos < p.nanos

/-! ## ISO 8601 -/

/-- The amounts after `PT`. -/
def readIsoAmounts : Nat → Option Unit → List Char → Option (List Amount)
  | _, _, [] => some []
  | 0, _, _ :: _ => none
  | fuel + 1, previous, text => do
    let (count, rest) ← readCount? text
    let (fraction, rest) ← readFraction? rest
    match rest with
    | [] => none
    | c :: rest =>
      let unit ← Unit.ofDesignator? c
      if follows previous unit then
        if fraction.isSome ∧ rest ≠ [] then none
        else
          let amounts ← readIsoAmounts fuel (some unit) rest
          return ⟨unit, count, fraction⟩ :: amounts
      else none

/-- Reads the ISO 8601 notation after its sign. -/
def readIso? (negative : Bool) (text : List Char) : Option Duration :=
  match text with
  | p :: t :: rest =>
    if p.toUpper = 'P' ∧ t.toUpper = 'T' ∧ rest ≠ [] then
      (readIsoAmounts rest.length none rest).bind (sum? negative)
    else none
  | _ => none

/-! ## Labelled amounts -/

def isSpace (c : Char) : Bool := c == ' ' || c == '\t' || c == '\n' || c == '\r' || c == '\x0c'

/-- The longest label at the start of a text. -/
def readLabel? (text : List Char) : Option (Unit × List Char) :=
  let fitting := Unit.labels.filter fun (label, _) => label.toList.isPrefixOf text
  let longest := fitting.foldl
    (fun best entry => match best with
      | none => some entry
      | some b => if b.1.length < entry.1.length then some entry else some b) none
  longest.map fun (label, unit) => (unit, text.drop label.length)

/-- Minutes and seconds after the hours of a clock reading, from the first colon on. -/
def readClock? (hours : Nat) (text : List Char) : Option (List Amount × List Char) := do
  let (minutes, rest) ← readCount? (text.drop 1)
  match rest with
  | ':' :: rest =>
    let (seconds, rest) ← readCount? rest
    let (fraction, rest) ← readFraction? rest
    return ([⟨.hour, hours, none⟩, ⟨.minute, minutes, none⟩, ⟨.second, seconds, fraction⟩], rest)
  | _ => none

/-- Labelled amounts, the first one at the start of the text, and the text after them. -/
def readAmounts : Nat → Option Unit → List Char → Option (List Amount × List Char)
  | 0, _, _ => none
  | fuel + 1, previous, text => do
    let (count, rest) ← readCount? text
    if rest.head? = some ':' then
      if previous.isSome then none else readClock? count rest
    else
      let (fraction, rest) ← readFraction? rest
      let (unit, rest) ← readLabel? (rest.dropWhile isSpace)
      let comma := rest.head? = some ','
      let afterComma := if comma then rest.drop 1 else rest
      if comma ∧ ¬ (afterComma.head?.any isSpace) then none
      else if ¬ follows previous unit then none
      else
        let next := afterComma.dropWhile isSpace
        if fraction.isNone ∧ next.head?.any Char.isDigit then
          let (amounts, rest) ← readAmounts fuel (some unit) next
          return (⟨unit, count, none⟩ :: amounts, rest)
        else if comma then none
        else return ([⟨unit, count, fraction⟩], rest)

/-- What may stand behind the amounts: white space, and `ago` after it. -/
def readAgo? (text : List Char) : Option Bool :=
  match text with
  | [] => some false
  | c :: _ =>
    if isSpace c then
      match text.dropWhile isSpace with
      | [] => some false
      | ['a', 'g', 'o'] => some true
      | _ => none
    else none

/-- Reads labelled amounts after the sign in front of them, if any. -/
def readLabelled? (sign : Option Bool) (text : List Char) : Option Duration := do
  let (amounts, rest) ← readAmounts (text.length + 1) none text
  let ago ← readAgo? rest
  if ago ∧ sign.isSome then none else sum? (ago || sign.getD false) amounts

/-- Reads a duration in either notation. -/
def readChars? (text : List Char) : Option Duration :=
  let (sign, body) := match text with
    | '-' :: rest => (some true, rest)
    | '+' :: rest => (some false, rest)
    | rest => (none, rest)
  match body with
  | [] => none
  | c :: _ => if c.toUpper = 'P' then readIso? (sign.getD false) body else readLabelled? sign body

/-- Reads a duration in either notation. -/
def read? (text : String) : Option Duration := readChars? text.toList

end Workflow.Duration
