import Workflow.Cbor.Basic
import Workflow.Keyed
import Workflow.Number.BigEndian

/-!
# Typed values as CBOR

A `Sealable` type has a name and both ways between its values and CBOR. Tags around texts, truth
values, floating numbers, lists and maps are passed over; tags 2 and 3 around bytes make a number.
-/

namespace Workflow

namespace Cbor

/-- A value without the tags around it. -/
def untagged : Cbor → Cbor
  | .tag _ item => untagged item
  | value => value

/-- A bignum has at most 16 bytes, zeros in front not counted. -/
def bignum? (content : Bytes) : Option Nat :=
  let n := BigEndian.value content
  if n < BigEndian.size 16 then some n else none

/-- An integer in a range, given as an integer or a bignum. -/
def asInt? (low high : Int) (value : Cbor) : Option Int := do
  let n ← match value with
    | .tag number (.bytes content) =>
      if number = 2 then (bignum? content).map Int.ofNat
      else if number = 3 then (bignum? content).map fun n => -1 - (n : Int)
      else none
    | other => other.toInt?
  if low ≤ n ∧ n ≤ high then some n else none

def asText? (value : Cbor) : Option String :=
  match value.untagged with
  | .text content => some content
  | _ => none

def asBool? (value : Cbor) : Option Bool :=
  match value.untagged with
  | .bool value => some value
  | _ => none

def asFloat? (value : Cbor) : Option Binary64 :=
  match value.untagged with
  | .float value => some value
  | _ => none

def asItems? (value : Cbor) : Option (List Cbor) :=
  match value.untagged with
  | .array items => some items
  | _ => none

def asEntries? (value : Cbor) : Option (List (Cbor × Cbor)) :=
  match value.untagged with
  | .map entries => some entries
  | _ => none

/-- The values of the named fields of a record; none if one is there twice. Other fields are passed
over. -/
def fields? (names : List String) (value : Cbor) : Option (List (Option Cbor)) := do
  let entries ← (← value.asEntries?).mapM fun (key, value) => (asText? key).map (·, value)
  let known := (entries.map (·.1)).filter names.contains
  if known.Nodup then return names.map fun name => entries.lookup name else none

end Cbor

/-- Types whose values can be written as CBOR and read back. -/
class Sealable (α : Type) where
  typeName : String
  toCbor : α → Cbor
  ofCbor? : Cbor → Option α

namespace Sealable

instance : Sealable Int64 where
  typeName := "i64"
  toCbor n := (Cbor.ofInt? n.toInt).getD .null
  ofCbor? value := (value.asInt? Int64.minValue.toInt Int64.maxValue.toInt).map Int64.ofInt

instance : Sealable UInt64 where
  typeName := "u64"
  toCbor n := .unsigned n
  ofCbor? value := (value.asInt? 0 (UInt64.size - 1)).map fun n => UInt64.ofNat n.toNat

instance : Sealable UInt32 where
  typeName := "u32"
  toCbor n := .unsigned n.toUInt64
  ofCbor? value := (value.asInt? 0 (UInt32.size - 1)).map fun n => UInt32.ofNat n.toNat

instance : Sealable UInt8 where
  typeName := "u8"
  toCbor n := .unsigned n.toUInt64
  ofCbor? value := (value.asInt? 0 (UInt8.size - 1)).map fun n => UInt8.ofNat n.toNat

instance : Sealable Binary64 where
  typeName := "f64"
  toCbor := .float
  ofCbor? := Cbor.asFloat?

instance : Sealable Bool where
  typeName := "bool"
  toCbor := .bool
  ofCbor? := Cbor.asBool?

instance : Sealable String where
  typeName := "alloc::string::String"
  toCbor := .text
  ofCbor? := Cbor.asText?

instance {α : Type} [Sealable α] : Sealable (List α) where
  typeName := "alloc::vec::Vec<" ++ typeName α ++ ">"
  toCbor items := .array (items.map toCbor)
  ofCbor? value := do (← value.asItems?).mapM ofCbor?

instance {α : Type} [Sealable α] : Sealable (Option α) where
  typeName := "core::option::Option<" ++ typeName α ++ ">"
  toCbor
    | some value => toCbor value
    | none => .null
  ofCbor?
    | .null => some none
    | value => (ofCbor? value).map some

instance : Sealable Dict where
  typeName := "alloc::collections::btree::map::BTreeMap<" ++ typeName String ++ ", " ++
    typeName String ++ ">"
  toCbor d := .map (d.entries.map fun (key, value) => (.text key, .text value))
  ofCbor? value := do
    let entries ← (← value.asEntries?).mapM fun (key, value) => do
      return (← key.asText?, ← value.asText?)
    return Dict.ofList entries

end Sealable

end Workflow
