import Workflow.Json.Basic

/-!
# Reading records and variants

The rules by which typed values are read from documents.

* A record is an object, whose unknown members are passed over and whose known members occur once,
  or an array of its fields in order. `fields?` gives its slots either way.
* A variant is an object with one member, its tag; `variant?` gives tag and payload. A tag without
  payload may also stand alone.
* `required`, `optional` and `withDefault` read one slot.
-/

namespace Workflow.Json

/-- Whether no name of a list is the key of two members. -/
def uniqueKeys (names : List String) (members : List (String × Json)) : Bool :=
  names.all fun name => (members.filter (·.1 == name)).length ≤ 1

/-- Whether all members but those with known names may be passed over. -/
def passesOver (names : List String) (members : List (String × Json)) : Bool :=
  members.all fun (key, value) => names.contains key || value.isSkippable

/-- The slots of a record with the given field names: none in a slot is a field left out. -/
def fields? (names : List String) : Json → Option (List (Option Json))
  | .obj members =>
    if uniqueKeys names members && passesOver names members then
      some (names.map fun name => members.lookup name)
    else none
  | .arr items =>
    if items.length ≤ names.length then
      some (items.map some ++ List.replicate (names.length - items.length) none)
    else none
  | _ => none

/-- The slot at a position. -/
def slot (slots : List (Option Json)) (i : Nat) : Option Json := (slots[i]?).join

/-- Reads a field that must be there. -/
def required {α : Type} (read : Json → Option α) : Option Json → Option α
  | some value => read value
  | none => none

/-- Reads a field that may be left out or null. -/
def optional {α : Type} (read : Json → Option α) : Option Json → Option (Option α)
  | none => some none
  | some .null => some none
  | some value => (read value).map some

/-- Reads a field that may be left out. -/
def withDefault {α : Type} (default : α) (read : Json → Option α) : Option Json → Option α
  | none => some default
  | some value => read value

/-- The one member of a variant. -/
def variant? : Json → Option (String × Json)
  | .obj [member] => some member
  | _ => none

/-- The tag of a variant without payload, alone or with a payload that `blank` accepts. -/
def unitTag? (blank : Json → Bool) : Json → Option String
  | .str tag => some tag
  | .obj [(tag, payload)] => if blank payload then some tag else none
  | _ => none

def isNull : Json → Bool
  | .null => true
  | _ => false

/-- Null or an empty object, the payload a bare tag may carry inside a flattened record. -/
def isBlankPayload : Json → Bool
  | .null => true
  | .obj [] => true
  | _ => false

def asString? : Json → Option String
  | .str s => some s
  | _ => none

def asBool? : Json → Option Bool
  | .bool b => some b
  | _ => none

def asInt? : Json → Option Int
  | .int n => some n
  | _ => none

/-- A number of either kind; an integer is rounded to the nearest floating number. -/
def asBinary64? : Json → Option Binary64
  | .int n => some (Binary64.ofInt n)
  | .float x => some x
  | _ => none

def asList? : Json → Option (List Json)
  | .arr items => some items
  | _ => none

def asMembers? : Json → Option (List (String × Json))
  | .obj members => some members
  | _ => none

/-- An integer from 0 on, below a size. -/
def asNat? (size : Nat) (document : Json) : Option Nat := do
  let n ← asInt? document
  if 0 ≤ n ∧ n < size then some n.toNat else none

/-- An integer in the range of a signed 64-bit word. -/
def asInt64? (document : Json) : Option Int64 := do
  let n ← asInt? document
  if Int64.minValue.toInt ≤ n ∧ n ≤ Int64.maxValue.toInt then some (Int64.ofInt n) else none

/-- Reads every item of an array. -/
def asListOf? {α : Type} (read : Json → Option α) (document : Json) : Option (List α) := do
  (← asList? document).mapM read

/-- A map from text to text; of equal keys the last one stays. -/
def asDict? (document : Json) : Option Dict := do
  let entries ← (← asMembers? document).mapM fun (key, value) => (asString? value).map (key, ·)
  return Dict.ofList entries

/-- A map as a document. -/
def ofDict (d : Dict) : Json := .obj (d.entries.map fun (key, value) => (key, .str value))

/-- A field that is written only when present. -/
def field? {α : Type} (name : String) (write : α → Json) : Option α → List (String × Json)
  | some value => [(name, write value)]
  | none => []

/-- An optional text as a document. -/
def ofOptional {α : Type} (write : α → Json) : Option α → Json
  | some value => write value
  | none => .null

/-- Reads one of several values by its name; `blank` says which payload a bare name may carry. -/
def readNamed? {α : Type} (all : List α) (name : α → String) (blank : Json → Bool)
    (document : Json) : Option α := do
  let tag ← document.unitTag? blank
  all.find? fun value => name value == tag

end Workflow.Json
