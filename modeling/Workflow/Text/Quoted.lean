import Workflow.Text.Hidden

/-!
# Quoted text

A text between double quotes, as diagnostics show it. Quotes and backslashes are escaped, the usual
controls have letters, and every other hidden character is shown by its number in braces.
-/

namespace Workflow.Text

/-- One character between quotes. -/
def quoteChar (c : Char) : List Char :=
  if c = '"' || c = '\\' then ['\\', c]
  else if c = '\n' then ['\\', 'n']
  else if c = '\r' then ['\\', 'r']
  else if c = '\t' then ['\\', 't']
  else if c = '\x00' then ['\\', '0']
  else if isHidden c then '\\' :: 'u' :: '\x7b' :: Nat.toDigits 16 c.toNat ++ ['\x7d']
  else [c]

/-- A text between quotes. -/
def quoted (text : String) : List Char := '"' :: text.toList.flatMap quoteChar ++ ['"']

end Workflow.Text
