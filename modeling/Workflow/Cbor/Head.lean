import Workflow.Number.BigEndian
import Workflow.Number.Narrow

/-!
# Heads of CBOR items

Every item starts with a head: three bits of kind and an argument, in the shortest form that holds
it. The head of a number is the whole number.

* `Head.write` writes a head.
* `Head.read` reads one, in any form of the argument.
-/

namespace Workflow.Cbor

/-- What an item starts with. A length that is left open ends at a `stop`. -/
inductive Head where
  | unsigned (n : UInt64)
  | negative (n : UInt64)
  | bytes (length : Option Nat)
  | text (length : Option Nat)
  | array (length : Option Nat)
  | map (length : Option Nat)
  | tag (number : UInt64)
  | simple (n : Nat)
  | float (x : Binary64)
  | stop
deriving DecidableEq

namespace Head

/-- The first byte of a head: its kind, and five bits. -/
def lead (kind info : Nat) : UInt8 := UInt8.ofNat (kind * 32 + info)

/-- A kind with its argument. -/
def writeArgument (kind n : Nat) : Bytes :=
  if n < 24 then [lead kind n]
  else if n < UInt8.size then lead kind 24 :: BigEndian.bytes 1 n
  else if n < UInt16.size then lead kind 25 :: BigEndian.bytes 2 n
  else if n < UInt32.size then lead kind 26 :: BigEndian.bytes 4 n
  else lead kind 27 :: BigEndian.bytes 8 n

/-- A kind with a length that may be left open. -/
def writeLength (kind : Nat) : Option Nat → Bytes
  | some n => writeArgument kind n
  | none => [lead kind 31]

/-- A floating number in the shortest format that it fits into. -/
def writeFloat (x : Binary64) : Bytes :=
  match FloatFormat.half.narrow? x, FloatFormat.single.narrow? x with
  | some bits, _ => lead 7 25 :: BigEndian.bytes 2 bits
  | none, some bits => lead 7 26 :: BigEndian.bytes 4 bits
  | none, none => lead 7 27 :: BigEndian.bytes 8 x.bits.toNat

/-- The bytes of a head. -/
def write : Head → Bytes
  | .unsigned n => writeArgument 0 n.toNat
  | .negative n => writeArgument 1 n.toNat
  | .bytes length => writeLength 2 length
  | .text length => writeLength 3 length
  | .array length => writeLength 4 length
  | .map length => writeLength 5 length
  | .tag number => writeArgument 6 number.toNat
  | .simple n => writeArgument 7 n
  | .float x => writeFloat x
  | .stop => [lead 7 31]

/-- The size of the argument behind a first byte; none if the byte itself holds it or no argument is
announced. -/
def width? (info : Nat) : Option Nat :=
  if info = 24 then some 1
  else if info = 25 then some 2
  else if info = 26 then some 4
  else if info = 27 then some 8
  else none

/-- The head of a kind with an argument; `info` tells the formats of floating numbers apart. -/
def ofArgument (kind info n : Nat) : Head :=
  match kind with
  | 0 => .unsigned (UInt64.ofNat n)
  | 1 => .negative (UInt64.ofNat n)
  | 2 => .bytes (some n)
  | 3 => .text (some n)
  | 4 => .array (some n)
  | 5 => .map (some n)
  | 6 => .tag (UInt64.ofNat n)
  | _ =>
    if info = 25 then .float (FloatFormat.half.widen n)
    else if info = 26 then .float (FloatFormat.single.widen n)
    else if info = 27 then .float ⟨UInt64.ofNat n⟩
    else .simple n

/-- The head of a kind without an argument. -/
def ofOpen? (kind : Nat) : Option Head :=
  match kind with
  | 2 => some (.bytes none)
  | 3 => some (.text none)
  | 4 => some (.array none)
  | 5 => some (.map none)
  | 7 => some .stop
  | _ => none

/-- Reads a head. -/
def read : ByteReader Head
  | [] => none
  | b :: rest =>
    let kind := b.toNat / 32
    let info := b.toNat % 32
    if info < 24 then some (ofArgument kind info info, rest)
    else if info = 31 then (ofOpen? kind).map (·, rest)
    else
      match width? info with
      | some width =>
        (BigEndian.read width rest).map fun (n, rest) => (ofArgument kind info n, rest)
      | none => none

end Head

end Workflow.Cbor
