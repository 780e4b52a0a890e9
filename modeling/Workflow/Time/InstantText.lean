import Workflow.Time.DurationText
import Workflow.Time.Instant

/-!
# Reading instants

RFC 3339 with the liberties of RFC 9557: a blank or a lower-case letter may stand between date and
time, separators may be left out, minutes and seconds may be missing, and bracketed annotations may
follow. An offset from universal time, or `Z`, is required. Second 60 counts as second 59.
-/

namespace Workflow.Instant

/-- A number of exactly `width` digits. -/
def readField? (width : Nat) (text : List Char) : Option (Nat × List Char) :=
  let digits := text.take width
  if digits.length = width ∧ digits.all Char.isDigit then
    some (digits.foldl (fun n c => n * 10 + (c.toNat - 48)) 0, text.drop width)
  else none

/-- A year of four digits, or a sign and six. Year zero has no minus sign. -/
def readYear? (text : List Char) : Option (Int × List Char) :=
  match text with
  | '-' :: rest =>
    match readField? 6 rest with
    | some (y, rest) => if y = 0 ∨ 9999 < y then none else some (-(y : Int), rest)
    | none => none
  | '+' :: rest =>
    match readField? 6 rest with
    | some (y, rest) => if 9999 < y then none else some ((y : Int), rest)
    | none => none
  | rest => (readField? 4 rest).map fun (y, r) => ((y : Int), r)

/-- A date, with dashes or without. -/
def readDate? (text : List Char) : Option (Date × List Char) := do
  let (year, rest) ← readYear? text
  let dashed := rest.head? = some '-'
  let (month, rest) ← readField? 2 (if dashed then rest.drop 1 else rest)
  let rest ←
    if dashed then (if rest.head? = some '-' then some (rest.drop 1) else none) else some rest
  let (day, rest) ← readField? 2 rest
  if (Date.mk year month day).exists? then return (⟨year, month, day⟩, rest) else none

/-- The next two-digit field of a time or an offset, if there is one: after a colon in the notation
with colons, and where two digits stand in the other. -/
def readNext? (colons : Bool) (text : List Char) : Option (Option Nat × List Char) :=
  if colons then
    match text with
    | ':' :: rest => (readField? 2 rest).map fun (n, r) => (some n, r)
    | rest => some (none, rest)
  else
    match readField? 2 text with
    | some (n, rest) => some (some n, rest)
    | none => some (none, text)

/-- A clock reading: hours, minutes, seconds and billionths of a second. -/
structure Clock where
  hour : Nat
  minute : Option Nat
  second : Option Nat
  fraction : Option Nat

/-- Two-digit fields from hours down to seconds, with a fraction after the seconds. -/
def readClock? (text : List Char) : Option (Clock × List Char) := do
  let (hour, rest) ← readField? 2 text
  let colons := rest.head? = some ':'
  let (minute, rest) ← readNext? colons rest
  if minute.isNone then return (⟨hour, none, none, none⟩, rest)
  let (second, rest) ← readNext? colons rest
  if second.isNone then return (⟨hour, minute, none, none⟩, rest)
  let (fraction, rest) ← Duration.readFraction? rest
  return (⟨hour, minute, second, fraction⟩, rest)

/-- The nanoseconds of a time of day. -/
def Clock.timeOfDay? (c : Clock) : Option Nat :=
  let minute := c.minute.getD 0
  let second := c.second.getD 0
  if c.hour < 24 ∧ minute < 60 ∧ second ≤ 60 then
    some (((c.hour * 60 + minute) * 60 + min second 59) * Duration.second + c.fraction.getD 0)
  else none

/-- The seconds of an offset; a fraction is rounded. -/
def Clock.offset? (c : Clock) : Option Nat :=
  let minute := c.minute.getD 0
  let second := c.second.getD 0
  if c.hour ≤ 25 ∧ minute < 60 ∧ second < 60 then
    let carry := if 500000000 ≤ c.fraction.getD 0 then 1 else 0
    let total := (c.hour * 60 + minute) * 60 + second + carry
    if total ≤ 93599 then some total else none
  else none

/-- An offset from universal time in seconds. -/
def readOffset? (text : List Char) : Option (Int × List Char) :=
  match text with
  | 'Z' :: rest => some (0, rest)
  | 'z' :: rest => some (0, rest)
  | c :: rest =>
    if c = '+' ∨ c = '-' then do
      let (clock, rest) ← readClock? rest
      let seconds ← clock.offset?
      return (if c = '-' then -(seconds : Int) else seconds, rest)
    else none
  | [] => none

def isZoneStart (c : Char) : Bool := c.isAlpha || c == '.' || c == '_'

def isZoneChar (c : Char) : Bool := isZoneStart c || c.isDigit || c == '+' || c == '-'

/-- One component of a zone name. -/
def isZonePart (part : List Char) : Bool :=
  part.head?.any isZoneStart && part.all isZoneChar

/-- The content of an annotation that names a zone or gives its offset in minutes. -/
def isZone (content : List Char) : Bool :=
  let name := if content.head? = some '!' then content.drop 1 else content
  if name.head? = some '+' ∨ name.head? = some '-' then
    match readClock? (name.drop 1) with
    | some (clock, []) => clock.offset?.isSome && clock.second.isNone
    | _ => false
  else (name.splitOn '/').all isZonePart

/-- The content of an annotation that gives a value to a key. -/
def isKeyValue (content : List Char) : Bool :=
  let key := content.takeWhile (· != '=')
  match content.drop key.length with
  | [] => false
  | _ :: value =>
    key.head?.any (fun c => c.isLower || c == '_') &&
      key.all (fun c => c.isLower || c.isDigit || c == '_' || c == '-') &&
      (value.splitOn '-').all fun part => !part.isEmpty && part.all Char.isAlphanum

/-- Whether a text is a run of annotations, the first of which may be a zone. -/
def areAnnotations : Nat → Bool → List Char → Bool
  | _, _, [] => true
  | 0, _, _ :: _ => false
  | fuel + 1, first, text =>
    match text with
    | '[' :: rest =>
      let content := rest.takeWhile (· != ']')
      match rest.drop content.length with
      | ']' :: rest =>
        ((first && isZone content) || isKeyValue content) && areAnnotations fuel false rest
      | _ => false
    | _ => false

/-- Reads an instant. -/
def readChars? (text : List Char) : Option Instant := do
  let (date, rest) ← readDate? text
  match rest with
  | c :: rest =>
    if c = 'T' ∨ c = 't' ∨ c = ' ' then
      let (clock, rest) ← readClock? rest
      let time ← clock.timeOfDay?
      let (offset, rest) ← readOffset? rest
      if areAnnotations rest.length true rest then
        ofNanos? ((date.toDays * 86400 - offset) * Duration.second + time)
      else none
    else none
  | [] => none

/-- Reads an instant. -/
def read? (text : String) : Option Instant := readChars? text.toList

end Workflow.Instant
