import Workflow.Failure
import Workflow.Json.Fields
import Workflow.Literal.Basic
import Workflow.MessagePack.Reader

/-!
# File records

A file flattened to its path and its annotations: the form that files take inside structured values.

* `toBinary` and `ofBinary` go through MessagePack.
* `toGeneric` and `ofGeneric` go through JSON.
* `toBlob` is the literal of the file itself.
-/

namespace Workflow

/-- The path of a file with its annotations. -/
structure FileRecord where
  path : Option String := none
  metadata : Option Dict := none
deriving DecidableEq, Inhabited

namespace FileRecord

/-- The tag of binary literals that hold MessagePack. -/
def messagePackTag : String := "msgpack"

/-! ## JSON -/

def toMembers (r : FileRecord) : List (String × Json) :=
  ("path", Json.ofOptional .str r.path) :: Json.field? "metadata" Json.ofDict r.metadata

def toJson (r : FileRecord) : Json := .obj r.toMembers

def ofJson? (document : Json) : Option FileRecord := do
  let slots ← document.fields? ["path", "metadata"]
  let path ← Json.optional Json.asString? (Json.slot slots 0)
  let metadata ← Json.optional Json.asDict? (Json.slot slots 1)
  return { path, metadata }

/-! ## MessagePack -/

/-- A text as a MessagePack value. -/
def packText (text : String) : MessagePack := .str (Utf8.encode text)

def toMessagePack (r : FileRecord) : MessagePack :=
  let path := (packText "path", (r.path.map packText).getD .nil)
  match r.metadata with
  | none => .map [path]
  | some d =>
    .map [path, (packText "metadata", .map (d.entries.map fun (k, v) => (packText k, packText v)))]

/-- A text, given as text or as bytes. -/
def unpackText? : MessagePack → Option String
  | .str content => Utf8.decode? content
  | .bin content => Utf8.decode? content
  | _ => none

def unpackDict? : MessagePack → Option Dict
  | .map entries => do
    let entries ← entries.mapM fun (key, value) => do
      return (← unpackText? key, ← unpackText? value)
    return Dict.ofList entries
  | _ => none

/-- A field that may be left out or nil. -/
def unpackOptional {α : Type} (read : MessagePack → Option α) :
    Option MessagePack → Option (Option α)
  | none => some none
  | some .nil => some none
  | some value => (read value).map some

/-- The fields of a record. -/
inductive Field where
  | path
  | metadata
  | unknown
deriving DecidableEq

/-- The field that a key names, by its name or its position. -/
def field? : MessagePack → Option Field
  | .str name => some (ofName name)
  | .bin name => some (ofName name)
  | .unsigned n => some (if n = 0 then .path else if n = 1 then .metadata else .unknown)
  | _ => none
where
  ofName (name : Bytes) : Field :=
    if name = Utf8.encode "path" then .path
    else if name = Utf8.encode "metadata" then .metadata
    else .unknown

/-- The record of the values of its two fields. -/
def ofSlots? (path metadata : Option MessagePack) : Option FileRecord := do
  let path ← unpackOptional unpackText? path
  let metadata ← unpackOptional unpackDict? metadata
  return { path, metadata }

/-- A record from a map, or from an array of its fields. No bytes are an array without fields. -/
def ofMessagePack? : MessagePack → Option FileRecord
  | .map entries => do
    let entries ← entries.mapM fun (key, value) => (field? key).map (·, value)
    let known := (entries.map (·.1)).filter (· != .unknown)
    if known.Nodup then ofSlots? (entries.lookup .path) (entries.lookup .metadata) else none
  | .bin [] => some {}
  | .array items => if items.length ≤ 2 then ofSlots? items[0]? items[1]? else none
  | _ => none

/-! ## Literals -/

/-- The record as a binary literal. -/
def toBinary (r : FileRecord) : Literal := .ofBinary messagePackTag r.toMessagePack.write

/-- The record in a binary literal. -/
def ofBinary (b : Binary) : Except Failure FileRecord :=
  if b.tag = messagePackTag then
    match (MessagePack.read? b.value).bind ofMessagePack? with
    | some r => .ok r
    | none => .error (.because .serialization ("invalid msgpack file record: " ++ Failure.detail))
  else .error (.because .unsupportedFormat ("unsupported binary format: `" ++ b.tag ++ "`"))

/-- The record as a generic literal. -/
def toGeneric (r : FileRecord) : Literal := .ofGeneric (.ofMembers r.toMembers)

/-- The record in a generic literal. -/
def ofGeneric (document : JsonObject) : Except Failure FileRecord :=
  match ofJson? document.toJson with
  | some r => .ok r
  | none => .error (.because .serialization ("invalid file record: " ++ Failure.detail))

/-- The file itself as a literal. -/
def toBlob (r : FileRecord) : Except Failure Literal :=
  match r.path with
  | some path => .ok ((Literal.ofBlob (.single "") path).withMetadata r.metadata)
  | none => .error (.because .invalidValue "file path should not be null")

end FileRecord

end Workflow
