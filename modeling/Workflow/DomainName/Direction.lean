import Workflow.DomainName.DirectionTable
import Workflow.Text.Blank
import Workflow.Text.CodePoints

/-!
# Writing directions

A domain name that holds letters running from right to left has to look the same from either end, so
each of its labels keeps to one direction (RFC 5893).

* `Direction.ofChar` is the bidirectional class of a character.
* `followsRule` holds of the labels that keep to one direction.
-/

namespace Workflow.DomainName

open Text

/-- The bidirectional class of a character. -/
inductive Direction where
  | leftToRight
  | rightToLeft
  | arabicLetter
  | arabicNumber
  | europeanNumber
  | europeanSeparator
  | commonSeparator
  | europeanTerminator
  | neutral
  | boundary
  | nonspacing
deriving DecidableEq

namespace Direction

def classes : List (Direction × CodePoints) :=
  [(.rightToLeft, .ofLines rightToLeftLines), (.arabicLetter, .ofLines arabicLetterLines),
   (.arabicNumber, .ofLines arabicNumberLines), (.europeanNumber, .ofLines europeanNumberLines),
   (.europeanSeparator, .ofLines europeanSeparatorLines),
   (.commonSeparator, .ofLines commonSeparatorLines),
   (.europeanTerminator, .ofLines europeanTerminatorLines), (.neutral, .ofLines neutralLines),
   (.boundary, .ofLines boundaryLines), (.nonspacing, .ofLines nonspacingLines)]

/-- The class of a character: from left to right unless a table says otherwise. -/
def ofChar (c : Char) : Direction :=
  ((classes.find? (·.2.contains c)).map (·.1)).getD .leftToRight

/-- The classes whose presence makes a domain name run from right to left. -/
def runsLeft : Direction → Bool
  | rightToLeft | arabicLetter | arabicNumber => true
  | _ => false

/-- The classes that both kinds of labels may hold. -/
def isShared : Direction → Bool
  | europeanNumber | europeanSeparator | commonSeparator | europeanTerminator | neutral
  | boundary | nonspacing => true
  | _ => false

/-- Whether the classes of a label, marks at its end left out, keep to one direction. The first says
which: it is a letter, and the last is a letter of that direction or a digit. Digits of one kind
only stand in a label that runs from right to left. -/
def keepsOne : List Direction → Bool
  | [] => true
  | first :: rest =>
    let all := first :: rest
    let last := rest.getLastD first
    match first with
    | leftToRight =>
      all.all (fun d => d == leftToRight || isShared d) &&
        (last == leftToRight || last == europeanNumber)
    | rightToLeft | arabicLetter =>
      all.all (fun d => runsLeft d || isShared d) && (runsLeft last || last == europeanNumber) &&
        !(all.contains europeanNumber && all.contains arabicNumber)
    | _ => false

/-- Whether a label keeps to one direction. -/
def followsRule (label : List Char) : Bool :=
  match label.map ofChar with
  | [] => true
  | first :: rest => keepsOne (first :: dropEndWhile (· == nonspacing) rest)

end Direction

end Workflow.DomainName
