import Workflow.DomainName.CompositionTable
import Workflow.Text.CodePoints

/-!
# Composed characters

A letter with marks can be spelled as one character or as several. `compose` spells a text with as
few as it can, so that equal texts are spelled alike (Unicode normalization form C).

* `decomposeChar` takes a character apart, syllables of Hangul by arithmetic.
* `sortMarks` puts the marks behind a letter into the order of their combining classes.
* `join?` is the character made of two others.
* `normalize` does all three in turn.
-/

namespace Workflow.DomainName

open Text

def decompositions : CodePointMap := .ofLines decompositionLines

def combiningClasses : List (Nat × CodePoints) :=
  combiningLines.map fun (number, lines) => (number, .ofLines lines)

/-- The combining class of a character: nought for a letter, the place of a mark around it. -/
def combiningClass (c : Char) : Nat :=
  if c.toNat < 0x300 then 0
  else ((combiningClasses.find? (·.2.contains c)).map (·.1)).getD 0

/-! ## Syllables of Hangul -/

/-- The parts of a syllable: a lead, a vowel and perhaps a tail. -/
def syllableParts? (c : Char) : Option (List Char) :=
  let n := c.toNat - 0xAC00
  if 0xAC00 ≤ c.toNat ∧ n < 11172 then
    let front := [Char.ofNat (0x1100 + n / 588), Char.ofNat (0x1161 + n % 588 / 28)]
    some (if n % 28 = 0 then front else front ++ [Char.ofNat (0x11A7 + n % 28)])
  else none

/-- The syllable of a lead and a vowel, or of a syllable without a tail and a tail. -/
def joinSyllable? (a b : Char) : Option Char :=
  let lead := a.toNat - 0x1100
  let vowel := b.toNat - 0x1161
  let front := a.toNat - 0xAC00
  let tail := b.toNat - 0x11A7
  if 0x1100 ≤ a.toNat ∧ lead < 19 ∧ 0x1161 ≤ b.toNat ∧ vowel < 21 then
    some (Char.ofNat (0xAC00 + (lead * 21 + vowel) * 28))
  else if 0xAC00 ≤ a.toNat ∧ front < 11172 ∧ front % 28 = 0 ∧ 0x11A7 < b.toNat ∧ tail < 28 then
    some (Char.ofNat (a.toNat + tail))
  else none

/-! ## All characters -/

/-- How deep a character is made of characters that are made of others. -/
def maxDepth : Nat := 4

/-- The parts of a character that have no parts themselves, up to a depth. -/
def decomposeChar : Nat → Char → List Char
  | 0, c => [c]
  | depth + 1, c =>
    if c.toNat < 0xC0 then [c]
    else
      match (syllableParts? c).orElse fun _ => decompositions.get? c with
      | some parts => parts.flatMap (decomposeChar depth)
      | none => [c]

/-- Puts a mark in front of the marks of its class or a higher one; a letter stays in front. -/
def insertMark (c : Char) : List Char → List Char
  | [] => [c]
  | d :: rest =>
    if combiningClass d ≠ 0 ∧ combiningClass d < combiningClass c then d :: insertMark c rest
    else c :: d :: rest

/-- Sorts the marks behind each letter by class; marks of one class keep their order. -/
def sortMarks (text : List Char) : List Char := text.foldr insertMark []

/-- The character that two others make up. Nothing below U+0300 joins the letter before it. -/
def join? (a b : Char) : Option Char :=
  if b.toNat < 0x300 then none
  else (joinSyllable? a b).orElse fun _ => decompositions.source? [a, b]

/-- Joins the letter `base` with the marks behind it as far as they go. A mark is out of reach
behind one of its class or a higher one that was left, held last first in `left`. -/
def joinMarks (base : Char) (left : List Char) : List Char → List Char
  | [] => base :: left.reverse
  | c :: rest =>
    let reached := match left with
      | [] => true
      | mark :: _ => combiningClass mark < combiningClass c
    match if reached then join? base c else none with
    | some joined => joinMarks joined left rest
    | none =>
      if combiningClass c = 0 then base :: left.reverse ++ joinMarks c [] rest
      else joinMarks base (c :: left) rest

/-- Joins every letter with its marks; marks without a letter stay in front. -/
def compose (text : List Char) : List Char :=
  match text.dropWhile (combiningClass · ≠ 0) with
  | [] => text
  | base :: rest => text.takeWhile (combiningClass · ≠ 0) ++ joinMarks base [] rest

/-- The one spelling of a text with composed characters. -/
def normalize (text : List Char) : List Char :=
  compose (sortMarks (text.flatMap (decomposeChar maxDepth)))

end Workflow.DomainName
