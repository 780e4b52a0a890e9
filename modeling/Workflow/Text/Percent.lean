import Workflow.Text.Hex

/-!
# Percent escapes

A byte outside a kept set is written `%XY`. Reading replaces each well-formed escape by its byte and
leaves every other `%` as it stands.
-/

namespace Workflow.Percent

/-- The letters, digits and marks that never need an escape. -/
def isUnreserved (c : Char) : Bool :=
  c.isAlphanum || c == '-' || c == '_' || c == '.' || c == '~'

/-- One byte: itself when kept, else its escape. -/
def encodeByte (keep : Char → Bool) (b : UInt8) : List Char :=
  let c := Char.ofNat b.toNat
  if b.toNat < 0x80 && keep c then [c]
  else ['%', Hex.upperDigit (b.toNat / 16), Hex.upperDigit (b.toNat % 16)]

/-- The bytes of a text, with an escape for each byte that `keep` refuses. -/
def encodeChars (keep : Char → Bool) (text : List Char) : List Char :=
  (Utf8.encodeChars text).flatMap (encodeByte keep)

/-- A text as one path component: everything but the unreserved characters is escaped. -/
def encodeComponent (text : String) : String :=
  String.ofList (encodeChars isUnreserved text.toList)

/-- The value of a byte as a hexadecimal digit. -/
def digitValue? (b : UInt8) : Option Nat := Hex.value? (Char.ofNat b.toNat)

/-- Replaces each well-formed escape by its byte. -/
def decodeBytes : Bytes → Bytes
  | [] => []
  | [a] => [a]
  | [a, b] => [a, b]
  | a :: b :: c :: rest =>
    if a = 0x25 then
      match digitValue? b, digitValue? c with
      | some high, some low => UInt8.ofNat (high * 16 + low) :: decodeBytes rest
      | _, _ => a :: decodeBytes (b :: c :: rest)
    else a :: decodeBytes (b :: c :: rest)

/-- The bytes a text stands for once its escapes are read. -/
def decode (text : List Char) : Bytes := decodeBytes (Utf8.encodeChars text)

/-- The text a text stands for, unless its escapes give ill-formed UTF-8. -/
def decodeText? (text : String) : Option String := Utf8.decode? (decode text.toList)

end Workflow.Percent
