/-!
# Paths of URLs

A path is a list of segments in which `..` has taken the segment before it away and `.` is gone. The
escapes of a segment are kept, tabs and ends of lines are dropped. A drive letter is never taken
away.

* `walk` reads the segments of a path, `segments` gives what is left of them.
* `render` puts a slash in front of each.
-/

namespace Workflow.UrlPath

/-- Characters that a URL drops wherever they stand. -/
def isDropped (c : Char) : Bool := c == '\t' || c == '\n' || c == '\r'

/-- The text without dropped characters. -/
def clean (text : List Char) : List Char := text.filter (!isDropped ·)

/-- The text behind its first `n` characters, dropped ones not counted. -/
def dropVisible : Nat → List Char → List Char
  | 0, text => text
  | _ + 1, [] => []
  | n + 1, c :: rest => if isDropped c then dropVisible (n + 1) rest else dropVisible n rest

/-- Spellings of a dot at the start of a segment, with what follows it. -/
def afterDot : List Char → Option (List Char)
  | '.' :: rest => some rest
  | '%' :: '2' :: e :: rest => if e = 'e' ∨ e = 'E' then some rest else none
  | _ => none

def isSingleDot (segment : List Char) : Bool := afterDot segment == some []

def isDoubleDot (segment : List Char) : Bool := ((afterDot segment).bind afterDot) == some []

/-- A letter and a colon or a bar. -/
def isDriveLetter : List Char → Bool
  | [letter, mark] => letter.isAlpha && (mark == ':' || mark == '|')
  | _ => false

/-- A drive letter, alone or before a backslash. -/
def startsWithDrive (segment : List Char) : Bool :=
  isDriveLetter (segment.take 2) && (segment.drop 2).head?.all (· == '\\')

/-- How far a path is read. -/
structure Trail where
  /-- The segments before, last first. -/
  before : List (List Char) := []
  /-- Whether a drive letter stands first in the path of a file. -/
  hasDrive : Bool := false

namespace Trail

/-- Takes in a segment as it is. -/
def push (trail : Trail) (segment : List Char) : Trail :=
  { trail with before := segment :: trail.before }

/-- Takes the last segment away, unless it is a drive letter. -/
def pop (trail : Trail) : Trail :=
  match trail.before with
  | [] => trail
  | top :: rest => if startsWithDrive top then trail else { trail with before := rest }

/-- Leaves an empty segment when nothing follows. -/
def close (isLast : Bool) (trail : Trail) : Trail := if isLast then trail.push [] else trail

end Trail

/-- A drive letter parted from the rest of its segment by dropped characters alone, with that
rest. -/
def splitDrive? (raw : List Char) : Option (List Char × List Char) :=
  match clean raw with
  | letter :: ':' :: c :: rest =>
    if letter.isAlpha && (dropVisible 2 raw).head?.any isDropped then
      some ([letter, ':'], c :: rest)
    else none
  | _ => none

/-- Takes in a segment, dropped characters not yet taken out. The first segment of a file may be a
drive letter, which ends in a colon, or a segment behind one. -/
def read (file isLast : Bool) (trail : Trail) (raw : List Char) : Trail :=
  let segment := clean raw
  let isFirst := file && trail.before.isEmpty
  match if isFirst then splitDrive? raw else none with
  | some (drive, rest) => (trail.push drive).push rest
  | none =>
    if isDoubleDot segment then trail.pop.close isLast
    else if isSingleDot segment then trail.close isLast
    else if isFirst && isDriveLetter segment then ⟨[segment.take 1 ++ [':']], true⟩
    else trail.push segment

/-- Takes in all segments. -/
def walk (file : Bool) (trail : Trail) : List (List Char) → Trail
  | [] => trail
  | [last] => read file true trail last
  | raw :: rest => walk file (read file false trail raw) rest

/-- The segments of a path, in order. The path of a file has no empty segments in front. -/
def segments (file : Bool) (trail : Trail) : List (List Char) :=
  let segments := trail.before.reverse
  if file then
    match segments.dropWhile List.isEmpty with
    | [] => [[]]
    | rest => rest
  else segments

/-- The text of a path. -/
def render (segments : List (List Char)) : List Char := segments.flatMap ('/' :: ·)

end Workflow.UrlPath
