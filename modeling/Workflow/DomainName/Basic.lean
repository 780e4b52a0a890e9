import Workflow.DomainName.Direction
import Workflow.DomainName.Joiner
import Workflow.DomainName.Mapping
import Workflow.DomainName.Punycode
import Workflow.Text.Percent

/-!
# Domain names

A domain name is read as Unicode Technical Standard 46 says: its characters are mapped and composed,
its labels are checked, and each label with letters outside ASCII is written in ASCII. Two spellings
of a name have the same ASCII form.

* `Label.ofText?` reads one label in either of its forms.
* `toAscii?` gives the ASCII form of a name.
-/

namespace Workflow.DomainName

/-- Characters that no domain name holds. -/
def isForbidden (c : Char) : Bool :=
  c.toNat ≤ 0x20 || c.toNat == 0x7F || "%#/:<>?@[\\]^|".toList.contains c

def isAscii (text : List Char) : Bool := text.all (·.toNat < 0x80)

/-- The mark in front of a label that is written in ASCII. -/
def asciiMark : List Char := "xn--".toList

/-- The most characters of a label with letters outside ASCII. -/
def maxLabel : Nat := 1000

/-- The most characters of the ASCII text that spells such a label. -/
def maxSpelling : Nat := 2000

/-- A label of a domain name, with its own letters and in ASCII. -/
structure Label where
  letters : List Char
  ascii : List Char

namespace Label

/-- The letters that an ASCII spelling behind the mark stands for. They are such that the mapping of
a name leaves them alone. -/
def decode? (spelling : List Char) : Option (List Char) := do
  if spelling.isEmpty || spelling.getLast? == some '-' then none
  if !isAscii spelling || maxSpelling < spelling.length then none
  let letters ← Punycode.decodeLabel? spelling
  let isSettled := letters.length ≤ maxLabel && letters.all isValid && normalize letters == letters
  if isSettled && !letters.any fun c => isForbidden c || c == '.' then return letters else none

/-- Both forms of a label. -/
def forms? (label : List Char) : Option Label :=
  if asciiMark.isPrefixOf label then
    (decode? (label.drop asciiMark.length)).map fun letters => ⟨letters, label⟩
  else if isAscii label then some ⟨label, label⟩
  else if maxLabel < label.length then none
  else some ⟨label, asciiMark ++ Punycode.encodeLabel label⟩

/-- Reads a label whose characters are mapped and composed. -/
def ofText? (text : List Char) : Option Label := do
  let label ← forms? text
  if isWellJoined label.letters then return label else none

end Label

/-- Whether the labels of a name keep to one direction each, if any letter runs to the left. -/
def keepsDirections (labels : List Label) : Bool :=
  !labels.any (·.letters.any fun c => (Direction.ofChar c).runsLeft) ||
    labels.all fun label => Direction.followsRule label.letters

/-- The ASCII form of a domain name. -/
def toAscii? (text : List Char) : Option (List Char) := do
  let name := normalize (← mapText? text)
  if name.any isForbidden then none
  let labels ← (name.splitOn '.').mapM Label.ofText?
  if keepsDirections labels then return List.intercalate ['.'] (labels.map (·.ascii)) else none

end Workflow.DomainName
