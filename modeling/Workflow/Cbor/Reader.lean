import Workflow.Cbor.Basic
import Workflow.Cbor.Head

/-!
# Reading CBOR

`Cbor.read?` accepts every form of an argument, lengths left open and strings in segments. Bytes
behind the value are passed over. Values nested in more than 256 arrays, maps and tags are refused.

A bignum of at most 16 bytes is read as a number: as an integer if it fits into 64 bits, else as a
bignum without zeros in front. It does not count as nested.
-/

namespace Workflow.Cbor

/-- How deep arrays, maps and tags may be nested. -/
def maxDepth : Nat := 256

/-- Reads things up to a stop, `fuel` heads at most. -/
def readToStop {α : Type} (item : ByteReader α) : Nat → ByteReader (List α)
  | 0, _ => none
  | fuel + 1, input =>
    match Head.read input with
    | some (.stop, rest) => some ([], rest)
    | _ =>
      match item input with
      | none => none
      | some (x, rest) => (readToStop item fuel rest).map fun (xs, rest) => (x :: xs, rest)

/-- Reads as many things as a length says. -/
def readAll {α : Type} (item : ByteReader α) (length : Option Nat) : ByteReader (List α) :=
  fun input =>
    match length with
    | some count => ByteReader.many item count input
    | none => readToStop item input.length input

/-- How the head of a string tells its length; none for a head of another kind. -/
abbrev LengthOf := Head → Option (Option Nat)

/-- Reads the segments of a string of open length, `levels` strings inside the outer one. -/
def readSegments (lengthOf? : LengthOf) : (fuel levels : Nat) → ByteReader (List Bytes)
  | 0, _, _ => none
  | fuel + 1, levels, input =>
    match Head.read input with
    | none => none
    | some (.stop, rest) =>
      match levels with
      | 0 => some ([], rest)
      | levels + 1 => readSegments lengthOf? fuel levels rest
    | some (head, rest) =>
      match lengthOf? head with
      | none => none
      | some none => readSegments lengthOf? fuel (levels + 1) rest
      | some (some length) =>
        match ByteReader.take length rest with
        | none => none
        | some (segment, rest) =>
          (readSegments lengthOf? fuel levels rest).map fun (segments, rest) =>
            (segment :: segments, rest)

/-- Reads the content of a string: one run of bytes, or segments. -/
def readString (lengthOf? : LengthOf) (length : Option Nat) : ByteReader (List Bytes) :=
  fun input =>
    match length with
    | some length => (ByteReader.take length input).map fun (segment, rest) => ([segment], rest)
    | none => readSegments lengthOf? input.length 0 input

/-- The length in the head of a byte string. -/
def bytesLength? : LengthOf
  | .bytes length => some length
  | _ => none

/-- The length in the head of a text. -/
def textLength? : LengthOf
  | .text length => some length
  | _ => none

/-- The value of a simple head. -/
def ofSimple? (n : Nat) : Option Cbor :=
  match n with
  | 20 => some (.bool false)
  | 21 => some (.bool true)
  | 22 => some .null
  | 23 => some .null
  | _ => none

/-- The most bytes of a bignum that is read as a number. -/
def maxBignum : Nat := 16

/-- Reads the bytes behind a tag that make it a number. -/
def readBignum (number : UInt64) : ByteReader Bytes := fun input =>
  match Head.read input with
  | some (.bytes (some length), rest) =>
    if (number = 2 ∨ number = 3) ∧ length ≤ maxBignum then ByteReader.take length rest else none
  | _ => none

/-- The number of a bignum, with tag 2 or, for `-1 - n`, tag 3. A number behind tag 3 has at most
127 bits. -/
def ofBignum? (number : UInt64) (content : Bytes) : Option Cbor :=
  let n := BigEndian.value content
  if n < UInt64.size then
    some (if number = 2 then .unsigned (UInt64.ofNat n) else .negative (UInt64.ofNat n))
  else if number = 3 ∧ Nat.pow 2 127 ≤ n then none
  else some (.tag number (.bytes (content.dropWhile (· == 0))))

/-- Reads a value with a reader for what is nested in it; none where nothing may be nested. -/
def readWith (inner : Option (ByteReader Cbor)) : ByteReader Cbor := fun input => do
  let (head, rest) ← Head.read input
  match head with
  | .unsigned n => return (.unsigned n, rest)
  | .negative n => return (.negative n, rest)
  | .bytes length =>
    let (segments, rest) ← readString bytesLength? length rest
    return (.bytes segments.flatten, rest)
  | .text length =>
    let (segments, rest) ← readString textLength? length rest
    let words ← segments.mapM Utf8.decodeChars?
    return (.text (String.ofList words.flatten), rest)
  | .array length =>
    let (items, rest) ← readAll (← inner) length rest
    return (.array items, rest)
  | .map length =>
    let (entries, rest) ← readAll (ByteReader.pair (← inner)) length rest
    return (.map entries, rest)
  | .tag number =>
    match readBignum number rest with
    | some (content, rest) => return (← ofBignum? number content, rest)
    | none =>
      let (item, rest) ← (← inner) rest
      return (.tag number item, rest)
  | .simple n => return (← ofSimple? n, rest)
  | .float x => return (.float x, rest)
  | .stop => none

/-- Reads a value in which at most `depth` arrays, maps and tags are nested. -/
def readNested : Nat → ByteReader Cbor
  | 0 => readWith none
  | depth + 1 => readWith (some (readNested depth))

/-- The value at the start of an input. -/
def read? (input : Bytes) : Option Cbor := (readNested maxDepth input).map (·.1)

end Workflow.Cbor
