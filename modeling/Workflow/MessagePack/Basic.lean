import Workflow.Number.BigEndian
import Workflow.Number.Narrow

/-!
# MessagePack values

The data model of MessagePack and its writer. Texts are runs of bytes here: whether they are text is
for their reader to say.

`MessagePack.write` writes texts and maps with the shortest header that holds their length.
-/

namespace Workflow

/-- A MessagePack value. Integers keep the kind of header they came with. -/
inductive MessagePack where
  | nil
  | bool (value : Bool)
  | unsigned (n : UInt64)
  | signed (n : Int64)
  | float (value : Binary64)
  | str (content : Bytes)
  | bin (content : Bytes)
  | array (items : List MessagePack)
  | map (entries : List (MessagePack × MessagePack))
  | extension (type : UInt8) (content : Bytes)

instance : Inhabited MessagePack := ⟨.nil⟩

namespace MessagePack

/-- The header of a text. -/
def textHeader (length : Nat) : Bytes :=
  if length < 32 then [UInt8.ofNat (0xA0 + length)]
  else if length < UInt8.size then 0xD9 :: BigEndian.bytes 1 length
  else if length < UInt16.size then 0xDA :: BigEndian.bytes 2 length
  else 0xDB :: BigEndian.bytes 4 length

/-- The header of a map. -/
def mapHeader (length : Nat) : Bytes :=
  if length < 16 then [UInt8.ofNat (0x80 + length)]
  else if length < UInt16.size then 0xDE :: BigEndian.bytes 2 length
  else 0xDF :: BigEndian.bytes 4 length

/-- The header of an array. -/
def arrayHeader (length : Nat) : Bytes :=
  if length < 16 then [UInt8.ofNat (0x90 + length)]
  else if length < UInt16.size then 0xDC :: BigEndian.bytes 2 length
  else 0xDD :: BigEndian.bytes 4 length

/-- The header of a run of bytes. -/
def bytesHeader (length : Nat) : Bytes :=
  if length < UInt8.size then 0xC4 :: BigEndian.bytes 1 length
  else if length < UInt16.size then 0xC5 :: BigEndian.bytes 2 length
  else 0xC6 :: BigEndian.bytes 4 length

mutual

/-- The bytes of a value. -/
def write : MessagePack → Bytes
  | .nil => [0xC0]
  | .bool value => [if value then 0xC3 else 0xC2]
  | .unsigned n => 0xCF :: BigEndian.bytes 8 n.toNat
  | .signed n => 0xD3 :: BigEndian.bytes 8 n.toUInt64.toNat
  | .float x => 0xCB :: BigEndian.bytes 8 x.bits.toNat
  | .str content => textHeader content.length ++ content
  | .bin content => bytesHeader content.length ++ content
  | .array items => arrayHeader items.length ++ writeItems items
  | .map entries => mapHeader entries.length ++ writeEntries entries
  | .extension type content => 0xC9 :: BigEndian.bytes 4 content.length ++ type :: content

/-- The items of an array, one behind the other. -/
def writeItems : List MessagePack → Bytes
  | [] => []
  | item :: items => write item ++ writeItems items

/-- The entries of a map, each key before its value. -/
def writeEntries : List (MessagePack × MessagePack) → Bytes
  | [] => []
  | (key, value) :: entries => write key ++ write value ++ writeEntries entries

end

end MessagePack

end Workflow
