import Workflow.DomainName.Composition
import Workflow.DomainName.JoinerTable

/-!
# Joiners

Two characters without a width of their own say whether letters beside them join. A label may hold
them only where they show (RFC 5892, appendix A), and it does not start with a mark.

* `isWellJoined` holds of the labels that keep to both rules.
-/

namespace Workflow.DomainName

open Text

def marks : CodePoints := .ofLines markLines

def dualJoining : CodePoints := .ofLines dualJoiningLines

def rightJoining : CodePoints := .ofLines rightJoiningLines

def leftJoining : CodePoints := .ofLines leftJoiningLines

def transparent : CodePoints := .ofLines transparentLines

/-- The sign that joins the letters beside it. -/
def joiner : Char := '\u200D'

/-- The sign that keeps the letters beside it apart. -/
def nonJoiner : Char := '\u200C'

/-- The combining class of the signs that take the vowel of a letter away. -/
def virama : Nat := 9

/-- The first letter of a text that joins or refuses to. -/
def firstOpaque? (text : List Char) : Option Char := (text.dropWhile transparent.contains).head?

/-- Whether a letter joins with the one behind it. -/
def joinsAfter (c : Char) : Bool := leftJoining.contains c || dualJoining.contains c

/-- Whether a letter joins with the one before it. -/
def joinsBefore (c : Char) : Bool := rightJoining.contains c || dualJoining.contains c

/-- Whether a character may stand where it does; `before` is the text before it, last first. -/
def isAllowedAt (before : List Char) (c : Char) (after : List Char) : Bool :=
  let behindVirama := before.head?.any (combiningClass · == virama)
  if c = joiner then behindVirama
  else if c = nonJoiner then
    behindVirama || ((firstOpaque? before).any joinsAfter && (firstOpaque? after).any joinsBefore)
  else true

/-- Whether every joiner of a text shows; `before` is the text before it, last first. -/
def joinersShow (before : List Char) : List Char → Bool
  | [] => true
  | c :: rest => isAllowedAt before c rest && joinersShow (c :: before) rest

/-- Whether a label starts with no mark and every joiner in it shows. -/
def isWellJoined (label : List Char) : Bool :=
  !label.head?.any marks.contains && joinersShow [] label

end Workflow.DomainName
