/-!
# White space

The characters with the Unicode property `White_Space`, and a text without them at its ends.
-/

namespace Workflow.Text

/-- Whether a character has the property `White_Space`. -/
def isBlank (c : Char) : Bool :=
  let n := c.toNat
  (0x09 ≤ n && n ≤ 0x0D) || n == 0x20 || n == 0x85 || n == 0xA0 || n == 0x1680 ||
    (0x2000 ≤ n && n ≤ 0x200A) || n == 0x2028 || n == 0x2029 || n == 0x202F || n == 0x205F ||
    n == 0x3000

/-- A list without the members at its end that satisfy `p`. -/
def dropEndWhile {α : Type} (p : α → Bool) (items : List α) : List α :=
  (items.reverse.dropWhile p).reverse

/-- A text without white space at either end. -/
def trim (text : List Char) : List Char := dropEndWhile isBlank (text.dropWhile isBlank)

end Workflow.Text
