import Workflow.Digest.Sha256

/-!
# DNS labels

A node id is a DNS label: at most 63 lower-case letters, digits and dashes.

* `spell` writes a name in that alphabet: `_`, `-` and `.` separate words, an upper-case letter
  starts one, any other character is dropped.
* `shorten` keeps the tail of a label that is too long, behind a digest of the name it came from.
* `ofName` is both in turn. Its result is empty when the name has no letter or digit.
-/

namespace Workflow.Label

/-- The most characters a label may have. -/
def maxLength : Nat := 63

/-- How many digits of the digest stand before a shortened label. -/
def digestLength : Nat := 10

/-- The characters that separate words. -/
def isSeparator (c : Char) : Bool := c == '_' || c == '-' || c == '.'

/-- Ends the word in progress. The label is held last character first. -/
def endWord : List Char → List Char
  | [] => []
  | '-' :: label => '-' :: label
  | label => '-' :: label

/-- Takes in one character of the name. -/
def push (label : List Char) (c : Char) : List Char :=
  if isSeparator c then endWord label
  else if c.isLower || c.isDigit then c :: label
  else if c.isUpper then c.toLower :: endWord label
  else label

/-- The name in the alphabet of labels, of any length. -/
def spell (name : List Char) : List Char :=
  ((name.foldl push []).dropWhile (· == '-')).reverse

/-- Cuts a label that is too long to its tail, behind a digest of `name`. -/
def shorten (name label : List Char) : List Char :=
  if label.length ≤ maxLength then label
  else
    let tail := label.drop (label.length - (maxLength - digestLength - 1))
    (Sha256.hexDigest (Utf8.encodeChars name)).take digestLength ++ '-' :: tail.dropWhile (· == '-')

/-- The label of a name. -/
def ofName (name : String) : String :=
  String.ofList (shorten name.toList (spell name.toList))

end Workflow.Label
