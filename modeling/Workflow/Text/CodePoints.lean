import Workflow.Text.Hex

/-!
# Sets and maps of code points

The classes of the character tables, written as lines of words in hexadecimal.

* A set (`CodePoints.ofLines`) has the words `A`, one code point, and `A-B`, a range with both ends.
* A map (`CodePointMap.ofLines`) has the words `A>T`, which sends `A` to the code points of `T`,
  parted by dots, `A-B>T`, which sends a range to the one that starts with `T`, and `A/B>T`, which
  sends every other code point of a range. A word without sources is for the code point behind
  the sources of the word before it.
-/

namespace Workflow.Text

/-- A set of code points: its ranges, each with its first and last member. -/
structure CodePoints where
  ranges : List (Nat × Nat)
deriving Inhabited

/-- One line of a map: `first` and every `step`-th code point behind it up to `last` go to `target`,
moved on by as much as they stand behind `first`. -/
structure CodePointRule where
  first : Nat
  last : Nat
  step : Nat
  target : List Nat

/-- A partial map from code points to texts. -/
structure CodePointMap where
  rules : List CodePointRule
deriving Inhabited

namespace CodePoints

/-- A number in hexadecimal. -/
def readNumber? (digits : List Char) : Option Nat :=
  digits.foldlM (fun n c => (Hex.value? c).map (n * 16 + ·)) 0

/-- The first and last number of a word between which `mark` stands. -/
def readEnds? (mark : Char) (word : List Char) : Option (Nat × Nat) :=
  match word.splitOn mark with
  | [single] => (readNumber? single).map fun n => (n, n)
  | [first, last] => do return (← readNumber? first, ← readNumber? last)
  | _ => none

/-- The words of all lines. -/
def words (lines : List String) : List (List Char) := lines.flatMap (·.toList.splitOn ' ')

/-- The set that lines of words spell. -/
def ofLines (lines : List String) : CodePoints := ⟨(words lines).filterMap (readEnds? '-')⟩

/-- Whether a character is in a set. -/
def contains (set : CodePoints) (c : Char) : Bool :=
  set.ranges.any fun (first, last) => first ≤ c.toNat && c.toNat ≤ last

end CodePoints

namespace CodePointRule

/-- Where a code point goes, if it is a source. -/
def image? (rule : CodePointRule) (n : Nat) : Option (List Nat) :=
  if rule.first ≤ n ∧ n ≤ rule.last ∧ (n - rule.first) % rule.step = 0 then
    some (rule.target.map (· + (n - rule.first)))
  else none

/-- The rule that a word spells; `next` is the source of a word that has none. -/
def ofWord? (next : Nat) (word : List Char) : Option CodePointRule :=
  match word.splitOn '>' with
  | [target] => (readTarget? target).map (⟨next, next, 1, ·⟩)
  | [sources, target] => do
    let step := if sources.contains '/' then 2 else 1
    let (first, last) ← CodePoints.readEnds? (if step = 2 then '/' else '-') sources
    return ⟨first, last, step, ← readTarget? target⟩
  | _ => none
where
  /-- The code points between dots. -/
  readTarget? (target : List Char) : Option (List Nat) :=
    (target.splitOn '.').mapM CodePoints.readNumber?

/-- The rules that words spell, in order. -/
def ofWords (next : Nat) : List (List Char) → List CodePointRule
  | [] => []
  | word :: words =>
    match ofWord? next word with
    | some rule => rule :: ofWords (rule.last + 1) words
    | none => ofWords next words

end CodePointRule

namespace CodePointMap

/-- The map that lines of words spell. -/
def ofLines (lines : List String) : CodePointMap :=
  ⟨CodePointRule.ofWords 0 (CodePoints.words lines)⟩

/-- The text that a character goes to. -/
def get? (map : CodePointMap) (c : Char) : Option (List Char) :=
  (map.rules.findSome? (·.image? c.toNat)).map (·.map Char.ofNat)

/-- The first character of the rule whose target is a text. -/
def source? (map : CodePointMap) (text : List Char) : Option Char :=
  let target := text.map Char.toNat
  (map.rules.find? (·.target == target)).map fun rule => Char.ofNat rule.first

end CodePointMap

end Workflow.Text
