import Workflow.MessagePack.Basic

/-!
# Reading MessagePack

`MessagePack.read?` reads the value at the start of an input and passes over what is behind it.
Values nested in more than 1023 arrays and maps are refused. An extension counts as one of them.
-/

namespace Workflow.MessagePack

/-- How deep arrays, maps and extensions may be nested. -/
def maxDepth : Nat := 1023

/-- What a first byte announces. -/
inductive Marker where
  /-- A value that is complete. -/
  | value (value : MessagePack)
  /-- A number of some bytes. -/
  | number (width : Nat) (make : Nat → MessagePack)
  /-- A run of bytes behind its length. -/
  | run (width : Nat) (make : Bytes → MessagePack)
  /-- A run of bytes of known length. -/
  | fixedRun (length : Nat) (make : Bytes → MessagePack)
  /-- An extension behind its length, which does not count the type in front of the content. -/
  | extension (width : Nat)
  | fixedExtension (length : Nat)
  /-- An array behind its length. -/
  | array (width : Nat)
  | fixedArray (length : Nat)
  /-- A map behind its length. -/
  | map (width : Nat)
  | fixedMap (length : Nat)

/-- The integer of a run of bytes in two's complement. -/
def ofSigned (width n : Nat) : MessagePack :=
  let top := BigEndian.size width
  .signed (Int64.ofInt (if 2 * n < top then (n : Int) else (n : Int) - top))

/-- An extension with content of a length, behind its type. -/
def readExtension (length : Nat) : ByteReader MessagePack := fun input => do
  match ← ByteReader.take (length + 1) input with
  | (type :: content, rest) => return (.extension type content, rest)
  | ([], _) => none

/-- The marker of a first byte; none for the one that is not used. -/
def marker? (b : UInt8) : Option Marker :=
  let n := b.toNat
  if n < 0x80 then some (.value (.unsigned (UInt64.ofNat n)))
  else if n < 0x90 then some (.fixedMap (n - 0x80))
  else if n < 0xA0 then some (.fixedArray (n - 0x90))
  else if n < 0xC0 then some (.fixedRun (n - 0xA0) .str)
  else if 0xE0 ≤ n then some (.value (.signed (Int64.ofInt (n - 0x100))))
  else match n with
    | 0xC0 => some (.value .nil)
    | 0xC2 => some (.value (.bool false))
    | 0xC3 => some (.value (.bool true))
    | 0xC4 => some (.run 1 .bin)
    | 0xC5 => some (.run 2 .bin)
    | 0xC6 => some (.run 4 .bin)
    | 0xC7 => some (.extension 1)
    | 0xC8 => some (.extension 2)
    | 0xC9 => some (.extension 4)
    | 0xCA => some (.number 4 fun bits => .float (FloatFormat.single.widen bits))
    | 0xCB => some (.number 8 fun bits => .float ⟨UInt64.ofNat bits⟩)
    | 0xCC => some (.number 1 fun n => .unsigned (UInt64.ofNat n))
    | 0xCD => some (.number 2 fun n => .unsigned (UInt64.ofNat n))
    | 0xCE => some (.number 4 fun n => .unsigned (UInt64.ofNat n))
    | 0xCF => some (.number 8 fun n => .unsigned (UInt64.ofNat n))
    | 0xD0 => some (.number 1 (ofSigned 1))
    | 0xD1 => some (.number 2 (ofSigned 2))
    | 0xD2 => some (.number 4 (ofSigned 4))
    | 0xD3 => some (.number 8 (ofSigned 8))
    | 0xD4 => some (.fixedExtension 1)
    | 0xD5 => some (.fixedExtension 2)
    | 0xD6 => some (.fixedExtension 4)
    | 0xD7 => some (.fixedExtension 8)
    | 0xD8 => some (.fixedExtension 16)
    | 0xD9 => some (.run 1 .str)
    | 0xDA => some (.run 2 .str)
    | 0xDB => some (.run 4 .str)
    | 0xDC => some (.array 2)
    | 0xDD => some (.array 4)
    | 0xDE => some (.map 2)
    | 0xDF => some (.map 4)
    | _ => none

/-- Reads what a marker announces, with a reader for what is nested in it. Where nothing may be
nested no extension stands either. -/
def readMarked (inner : Option (ByteReader MessagePack)) (m : Marker) :
    ByteReader MessagePack := fun input => do
  match m with
  | .value value => return (value, input)
  | .number width make =>
    let (n, rest) ← BigEndian.read width input
    return (make n, rest)
  | .run width make =>
    let (length, rest) ← BigEndian.read width input
    let (content, rest) ← ByteReader.take length rest
    return (make content, rest)
  | .fixedRun length make =>
    let (content, rest) ← ByteReader.take length input
    return (make content, rest)
  | .extension width =>
    let _ ← inner
    let (length, rest) ← BigEndian.read width input
    readExtension length rest
  | .fixedExtension length =>
    let _ ← inner
    readExtension length input
  | .array width =>
    let (length, rest) ← BigEndian.read width input
    let (items, rest) ← ByteReader.many (← inner) length rest
    return (.array items, rest)
  | .fixedArray length =>
    let (items, rest) ← ByteReader.many (← inner) length input
    return (.array items, rest)
  | .map width =>
    let (length, rest) ← BigEndian.read width input
    let (entries, rest) ← ByteReader.many (ByteReader.pair (← inner)) length rest
    return (.map entries, rest)
  | .fixedMap length =>
    let (entries, rest) ← ByteReader.many (ByteReader.pair (← inner)) length input
    return (.map entries, rest)

/-- Reads a value with a reader for what is nested in it; none where nothing may be nested. -/
def readWith (inner : Option (ByteReader MessagePack)) : ByteReader MessagePack
  | [] => none
  | b :: rest => (marker? b).bind fun m => readMarked inner m rest

/-- Reads a value in which at most `depth` arrays, maps and extensions are nested. -/
def readNested : Nat → ByteReader MessagePack
  | 0 => readWith none
  | depth + 1 => readWith (some (readNested depth))

/-- The value at the start of an input. -/
def read? (input : Bytes) : Option MessagePack := (readNested maxDepth input).map (·.1)

end Workflow.MessagePack
