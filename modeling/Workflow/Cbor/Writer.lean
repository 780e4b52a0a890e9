import Workflow.Cbor.Basic
import Workflow.Cbor.Head

/-!
# CBOR as bytes

`Cbor.write` puts the head of every item in its shortest form in front of its content.
-/

namespace Workflow.Cbor

mutual

/-- The bytes of a value. -/
def write : Cbor → Bytes
  | .unsigned n => (Head.unsigned n).write
  | .negative n => (Head.negative n).write
  | .bytes content => (Head.bytes (some content.length)).write ++ content
  | .text content =>
    let content := Utf8.encode content
    (Head.text (some content.length)).write ++ content
  | .array items => (Head.array (some items.length)).write ++ writeItems items
  | .map entries => (Head.map (some entries.length)).write ++ writeEntries entries
  | .tag number item => (Head.tag number).write ++ write item
  | .bool value => (Head.simple (if value then 21 else 20)).write
  | .null => (Head.simple 22).write
  | .float x => (Head.float x).write

/-- The items of an array, one behind the other. -/
def writeItems : List Cbor → Bytes
  | [] => []
  | item :: items => write item ++ writeItems items

/-- The entries of a map, each key before its value. -/
def writeEntries : List (Cbor × Cbor) → Bytes
  | [] => []
  | (key, value) :: entries => write key ++ write value ++ writeEntries entries

end

end Workflow.Cbor
