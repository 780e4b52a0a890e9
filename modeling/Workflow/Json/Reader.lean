import Workflow.Json.Basic
import Workflow.Text.Hex

/-!
# Reading JSON

`Json.read?` accepts one document with blanks around it. What obeys the grammar and is no value
becomes a misfit: a number out of range, a text with half a surrogate pair or a control character in
it, an object with such a key, and arrays and objects nested more than `maxDepth` deep.

A numeral without point and exponent is an integer while it fits 64 bits, signed or unsigned, and a
floating number beyond; `-0` is a floating number. Floating numerals are read by `readScaled` from
the digits that fit an unsigned 64-bit coefficient.
-/

namespace Workflow.Json

/-- How deep arrays and objects may be nested. -/
def maxDepth : Nat := 127

/-- The largest coefficient of a numeral; later digits only move the exponent. -/
def maxCoefficient : Nat := UInt64.size - 1

/-- The largest number that an exponent may spell. -/
def maxExponent : Nat := 0x7FFFFFFF

def isBlank (c : Char) : Bool := c == ' ' || c == '\n' || c == '\t' || c == '\r'

def skipBlanks (text : List Char) : List Char := text.dropWhile isBlank

/-- The value of a decimal digit. -/
def digitValue (c : Char) : Nat := c.toNat - 48

/-- Appends a digit to a coefficient unless it would grow too large. -/
def pushDigit? (coefficient : Nat) (c : Char) : Option Nat :=
  let next := coefficient * 10 + digitValue c
  if next ≤ maxCoefficient then some next else none

/-- Takes in leading digits while the coefficient stays in range. -/
def takeDigits : Nat → List Char → Nat × List Char
  | coefficient, [] => (coefficient, [])
  | coefficient, c :: rest =>
    if c.isDigit then
      match pushDigit? coefficient c with
      | some next => takeDigits next rest
      | none => (coefficient, c :: rest)
    else (coefficient, c :: rest)

/-- The digits at the start of a text. -/
def leadingDigits (text : List Char) : List Char := text.takeWhile Char.isDigit

def afterDigits (text : List Char) : List Char := text.dropWhile Char.isDigit

/-- The number that digits spell, counted up to just above `maxExponent`. -/
def exponentValue (digits : List Char) : Nat :=
  digits.foldl (fun n c => min (n * 10 + digitValue c) (maxExponent + 1)) 0

/-- An exponent that spells too large a number: nought stays nought, a small number becomes it, and
a large one is out of range. -/
def readHugeExponent (negative down : Bool) (coefficient : Nat) : Option Binary64 :=
  if coefficient = 0 || down then some (Binary64.zero negative) else none

/-- A floating number as a document; none stands for one out of range. -/
def ofFloat (value : Option Binary64) : Json := (value.map float).getD (.misfit .number)

/-- Reads an exponent after its letter and scales the coefficient. -/
def readExponent (negative : Bool) (coefficient : Nat) (exponent : Int) (text : List Char) :
    Option (Json × List Char) :=
  let (down, digits) := match text with
    | '-' :: rest => (true, rest)
    | '+' :: rest => (false, rest)
    | rest => (false, rest)
  if (leadingDigits digits).isEmpty then none
  else
    let size := exponentValue (leadingDigits digits)
    let value :=
      if maxExponent < size then readHugeExponent negative down coefficient
      else
        Decimal.readScaled negative coefficient
          (if down then exponent - size else exponent + size)
    some (ofFloat value, afterDigits digits)

/-- Scales the coefficient, by an exponent too if one follows. -/
def finishFloat (negative : Bool) (coefficient : Nat) (exponent : Int) (text : List Char) :
    Option (Json × List Char) :=
  match text with
  | 'e' :: rest => readExponent negative coefficient exponent rest
  | 'E' :: rest => readExponent negative coefficient exponent rest
  | rest => some (ofFloat (Decimal.readScaled negative coefficient exponent), rest)

/-- Reads the digits after a point; those that do not fit the coefficient are passed over. -/
def readFraction (negative : Bool) (coefficient : Nat) (exponent : Int) (text : List Char) :
    Option (Json × List Char) :=
  if (leadingDigits text).isEmpty then none
  else
    let (coefficient', rest) := takeDigits coefficient text
    finishFloat negative coefficient' (exponent - ((text.length - rest.length : Nat) : Int))
      (afterDigits rest)

/-- Reads what follows the integer part of a numeral. -/
def finishNumber (negative : Bool) (coefficient : Nat) (text : List Char) :
    Option (Json × List Char) :=
  match text with
  | '.' :: rest => readFraction negative coefficient 0 rest
  | 'e' :: rest => readExponent negative coefficient 0 rest
  | 'E' :: rest => readExponent negative coefficient 0 rest
  | rest =>
    if negative then
      if coefficient = 0 || Binary64.signBit < coefficient then
        some (.float (Binary64.ofNat coefficient).neg, rest)
      else some (.int (-coefficient), rest)
    else some (.int coefficient, rest)

/-- Reads a numeral after its sign. -/
def readNumber (negative : Bool) (text : List Char) : Option (Json × List Char) :=
  match text with
  | '0' :: rest =>
    match rest with
    | c :: _ => if c.isDigit then none else finishNumber negative 0 rest
    | [] => finishNumber negative 0 []
  | c :: rest =>
    if c.isDigit then
      let (coefficient, rest') := takeDigits (digitValue c) rest
      let extra := leadingDigits rest'
      if extra.isEmpty then finishNumber negative coefficient rest'
      else
        let after := afterDigits rest'
        let exponent : Int := extra.length
        match after with
        | '.' :: rest => readFraction negative coefficient exponent rest
        | rest => finishFloat negative coefficient exponent rest
    else none
  | [] => none

/-- The number of four hexadecimal digits. -/
def readHex4 : List Char → Option (Nat × List Char)
  | a :: b :: c :: d :: rest => do
    let a ← Hex.value? a
    let b ← Hex.value? b
    let c ← Hex.value? c
    let d ← Hex.value? d
    return (((a * 16 + b) * 16 + c) * 16 + d, rest)
  | _ => none

/-- The character of a one-letter escape. -/
def simpleEscape? (c : Char) : Option Char :=
  if c = '"' || c = '\\' || c = '/' then some c
  else if c = 'b' then some '\x08'
  else if c = 'f' then some '\x0c'
  else if c = 'n' then some '\n'
  else if c = 'r' then some '\r'
  else if c = 't' then some '\t'
  else none

/-- Reads a `\u` escape after its letter; a pair of surrogates gives one code point. -/
def readUnicode (text : List Char) : Option (Nat × List Char) := do
  let (high, rest) ← readHex4 text
  match rest with
  | '\\' :: 'u' :: after =>
    let (low, after) ← readHex4 after
    if 0xD800 ≤ high ∧ high ≤ 0xDBFF ∧ 0xDC00 ≤ low ∧ low ≤ 0xDFFF then
      return (0x10000 + (high - 0xD800) * 0x400 + (low - 0xDC00), after)
    else return (high, rest)
  | _ => return (high, rest)

/-- A code point of a text, and whether it stands there though it should be escaped. -/
structure Spelled where
  code : Nat
  bare : Bool := false

/-- Reads one code point of a text that is not its closing quote. -/
def readCode : List Char → Option (Spelled × List Char)
  | '\\' :: 'u' :: rest => (readUnicode rest).map fun (code, rest) => (⟨code, false⟩, rest)
  | '\\' :: c :: rest => (simpleEscape? c).map fun c => (⟨c.toNat, false⟩, rest)
  | c :: rest => if c = '\\' then none else some (⟨c.toNat, c.toNat < 0x20⟩, rest)
  | [] => none

/-- Reads a text after its opening quote. The fuel is the number of characters left. -/
def readCodes : Nat → List Char → Option (List Spelled × List Char)
  | 0, _ => none
  | fuel + 1, text =>
    match text with
    | '"' :: rest => some ([], rest)
    | text => do
      let (code, rest) ← readCode text
      let (codes, rest) ← readCodes fuel rest
      return (code :: codes, rest)

/-- The text of code points that are characters, none of them bare. -/
def textOf? (codes : List Spelled) : Option String :=
  if codes.all fun s => !s.bare && s.code.isValidChar then
    some (String.ofList (codes.map fun s => Char.ofNat s.code))
  else none

/-- Code points as a document. -/
def ofCodes (codes : List Spelled) : Json :=
  match textOf? codes with
  | some text => .str text
  | none => .misfit (.text (codes.map (·.code)) (codes.any (·.bare)))

/-- Reads a text after its opening quote. -/
def readText (text : List Char) : Option (Json × List Char) :=
  (readCodes (text.length + 1) text).map fun (codes, rest) => (ofCodes codes, rest)

/-- Reads a key after its opening quote; none for a key that is no text. No character of a key is
bare. -/
def readKey (text : List Char) : Option (Option String × List Char) := do
  let (codes, rest) ← readCodes (text.length + 1) text
  if codes.any (·.bare) then none else some (textOf? codes, rest)

/-- An array at a depth that is left. Below the last level its items are passed over. -/
def ofItems? (depth : Nat) (items : List Json) : Option Json :=
  if depth ≠ 0 then some (.arr items)
  else if items.all isSkippable then some (.misfit .nested)
  else none

/-- An object at a depth that is left. Its members are passed over below the last level, and where a
key is no text. -/
def ofMembers? (depth : Nat) (members : List (Option String × Json)) : Option Json :=
  let named := members.filterMap fun (key, value) => key.map (·, value)
  if depth ≠ 0 ∧ named.length = members.length then some (.obj named)
  else if members.all (·.2.isSkippable) then some (.misfit .nested)
  else none

/-- Takes a fixed word off a text. -/
def expect (word text : List Char) : Option (List Char) :=
  if word.isPrefixOf text then some (text.drop word.length) else none

mutual

/-- Reads one document. The fuel bounds the number of steps, `depth` the nesting still allowed. -/
def readValue : Nat → Nat → List Char → Option (Json × List Char)
  | 0, _, _ => none
  | fuel + 1, depth, text =>
    match skipBlanks text with
    | 'n' :: rest => (expect ['u', 'l', 'l'] rest).map (.null, ·)
    | 't' :: rest => (expect ['r', 'u', 'e'] rest).map (.bool true, ·)
    | 'f' :: rest => (expect ['a', 'l', 's', 'e'] rest).map (.bool false, ·)
    | '"' :: rest => readText rest
    | '-' :: rest => readNumber true rest
    | '[' :: rest => do
      let (items, rest) ← match skipBlanks rest with
        | ']' :: rest => some ([], rest)
        | rest => readItems fuel (depth - 1) rest
      return (← ofItems? depth items, rest)
    | '\x7b' :: rest => do
      let (members, rest) ← match skipBlanks rest with
        | '\x7d' :: rest => some ([], rest)
        | rest => readMembers fuel (depth - 1) rest
      return (← ofMembers? depth members, rest)
    | rest => readNumber false rest

/-- Reads the items of an array that has at least one, and its closing bracket. -/
def readItems : Nat → Nat → List Char → Option (List Json × List Char)
  | 0, _, _ => none
  | fuel + 1, depth, text => do
    let (item, rest) ← readValue fuel depth text
    match skipBlanks rest with
    | ']' :: rest => return ([item], rest)
    | ',' :: rest =>
      let (items, rest) ← readItems fuel depth rest
      return (item :: items, rest)
    | _ => none

/-- Reads the members of an object that has at least one, and its closing brace. -/
def readMembers : Nat → Nat → List Char → Option (List (Option String × Json) × List Char)
  | 0, _, _ => none
  | fuel + 1, depth, text =>
    match skipBlanks text with
    | '"' :: rest => do
      let (key, rest) ← readKey rest
      match skipBlanks rest with
      | ':' :: rest =>
        let (value, rest) ← readValue fuel depth rest
        match skipBlanks rest with
        | '\x7d' :: rest => return ([(key, value)], rest)
        | ',' :: rest =>
          let (members, rest) ← readMembers fuel depth rest
          return ((key, value) :: members, rest)
        | _ => none
      | _ => none
    | _ => none

end

/-- The document that a text spells. -/
def read? (text : String) : Option Json :=
  let chars := text.toList
  match readValue (2 * chars.length + 2) maxDepth chars with
  | some (document, rest) => if (skipBlanks rest).isEmpty then some document else none
  | none => none

end Workflow.Json
