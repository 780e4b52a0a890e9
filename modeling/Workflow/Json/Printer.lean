import Workflow.Json.Basic

/-!
# Printing JSON

`Json.render` writes a document without spaces. Text keeps its characters; a quote, a backslash and
the control characters are escaped. A misfit has no text and is written as null.
-/

namespace Workflow.Json

/-- The short escape of a character, if it has one. -/
def shortEscape? (c : Char) : Option Char :=
  if c = '"' then some '"'
  else if c = '\\' then some '\\'
  else if c = '\n' then some 'n'
  else if c = '\r' then some 'r'
  else if c = '\t' then some 't'
  else if c = '\x08' then some 'b'
  else if c = '\x0c' then some 'f'
  else none

/-- One character of a text. -/
def escapeChar (c : Char) : List Char :=
  match shortEscape? c with
  | some e => ['\\', e]
  | none =>
    if c.toNat < 0x20 then
      '\\' :: 'u' :: List.replicate (4 - (Nat.toDigits 16 c.toNat).length) '0' ++
        Nat.toDigits 16 c.toNat
    else [c]

/-- A text between quotes. -/
def quote (text : String) : List Char := '"' :: text.toList.flatMap escapeChar ++ ['"']

mutual

/-- The text of a document. -/
def renderChars : Json → List Char
  | .null => ['n', 'u', 'l', 'l']
  | .bool true => ['t', 'r', 'u', 'e']
  | .bool false => ['f', 'a', 'l', 's', 'e']
  | .int n => Decimal.intDigits n
  | .float x => Decimal.render x
  | .str s => quote s
  | .arr [] => ['[', ']']
  | .arr (item :: items) => '[' :: renderChars item ++ renderItems items ++ [']']
  | .obj [] => ['\x7b', '\x7d']
  | .obj ((key, value) :: members) =>
    '\x7b' :: quote key ++ ':' :: renderChars value ++ renderMembers members ++ ['\x7d']
  | .misfit _ => ['n', 'u', 'l', 'l']

/-- The items after the first one. -/
def renderItems : List Json → List Char
  | [] => []
  | item :: items => ',' :: renderChars item ++ renderItems items

/-- The members after the first one. -/
def renderMembers : List (String × Json) → List Char
  | [] => []
  | (key, value) :: members =>
    ',' :: quote key ++ ':' :: renderChars value ++ renderMembers members

end

/-- The text of a document as a string. -/
def render (document : Json) : String := String.ofList (renderChars document)

end Workflow.Json
