import Workflow.DomainName.MappingTable
import Workflow.Text.CodePoints

/-!
# Characters of a domain name

Every character of a domain name is itself, stands for others, is dropped or is refused. Letters
stand for their lower case, and characters with a plain equivalent for that.

* `map?` gives what a character stands for.
* `isValid` holds of the characters that stand for themselves.
-/

namespace Workflow.DomainName

open Text

def disallowed : CodePoints := .ofLines disallowedLines

def ignored : CodePoints := .ofLines ignoredLines

def mapped : CodePointMap := .ofLines mappedLines

/-- What a character stands for; none for a character that no domain name holds. -/
def map? (c : Char) : Option (List Char) :=
  if c.toNat < 0x80 then some [c.toLower]
  else if disallowed.contains c then none
  else if ignored.contains c then some []
  else some ((mapped.get? c).getD [c])

/-- Whether a character stands for itself. -/
def isValid (c : Char) : Bool := map? c == some [c]

/-- What the characters of a text stand for. -/
def mapText? (text : List Char) : Option (List Char) := (text.mapM map?).map List.flatten

theorem map?_ascii {c : Char} (h : c.toNat < 0x80) : map? c = some [c.toLower] := by
  simp [map?, h]

end Workflow.DomainName
