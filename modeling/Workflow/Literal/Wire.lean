import Workflow.Json.Fields
import Workflow.Literal.Kind
import Workflow.Time.DurationText
import Workflow.Time.InstantText

/-!
# The wire form of literals

Each type has `toJson` and `ofJson?`. A literal is an object with one payload member, `scalar`,
`collection` or `map`, beside its annotations in `metadata`; a literal type likewise. Reading takes
the first payload member in document order and passes over members it does not know. Even those
have to be values throughout: a literal or a literal type is read only from a plain document.

Floating numbers without a numeral are written as null, which is no number when read.
-/

namespace Workflow

namespace Bytes

/-- The bytes of an array of small numbers, or of a text, even one that is not made of characters. -/
def ofJson? : Json → Option Bytes
  | .arr items => items.mapM fun item => (item.asNat? UInt8.size).map UInt8.ofNat
  | .str text => some (Utf8.encode text)
  | .misfit (.text codes _) => some (Utf8.encodeCodes codes)
  | _ => none

def toJson (bytes : Bytes) : Json := .arr (bytes.map fun b => .int b.toNat)

end Bytes

namespace Instant

def ofJson? (document : Json) : Option Instant := document.asString?.bind read?

def toJson (t : Instant) : Json := .str t.render

end Instant

namespace Duration

def ofJson? (document : Json) : Option Duration := document.asString?.bind read?

def toJson (d : Duration) : Json := .str d.render

end Duration

namespace Primitive

def toJson : Primitive → Json
  | .integer value => .obj [("integer", .int value.toInt)]
  | .float value => .obj [("float_value", .ofBinary64 value)]
  | .text value => .obj [("string_value", .str value)]
  | .boolean value => .obj [("boolean", .bool value)]
  | .datetime value => .obj [("datetime", value.toJson)]
  | .duration value => .obj [("duration", value.toJson)]

def ofJson? (document : Json) : Option Primitive := do
  let (tag, payload) ← document.variant?
  match tag with
  | "integer" => payload.asInt64?.map .integer
  | "float_value" => payload.asBinary64?.map .float
  | "string_value" => payload.asString?.map .text
  | "boolean" => payload.asBool?.map .boolean
  | "datetime" => (Instant.ofJson? payload).map .datetime
  | "duration" => (Duration.ofJson? payload).map .duration
  | _ => none

end Primitive

namespace Dimensionality

def toJson (d : Dimensionality) : Json := .str d.name

def ofJson? (blank : Json → Bool) : Json → Option Dimensionality :=
  Json.readNamed? all name blank

end Dimensionality

namespace SimpleType

def toJson (t : SimpleType) : Json := .str t.name

def ofJson? (blank : Json → Bool) : Json → Option SimpleType :=
  Json.readNamed? all name blank

end SimpleType

namespace BlobType

def toJson (t : BlobType) : Json :=
  .obj [("format", .str t.format), ("dimensionality", t.dimensionality.toJson)]

def ofJson? (blank : Json → Bool) (document : Json) : Option BlobType := do
  let slots ← document.fields? ["format", "dimensionality"]
  let format ← Json.withDefault "" Json.asString? (Json.slot slots 0)
  let dimensionality ←
    Json.withDefault .single (Dimensionality.ofJson? blank) (Json.slot slots 1)
  return ⟨format, dimensionality⟩

end BlobType

namespace Blob

def toJson (blob : Blob) : Json :=
  .obj [("metadata", .obj [("type", blob.blobType.toJson)]), ("uri", .str blob.uri)]

/-- Reads the type inside a blob's own annotations. -/
def readType? (blank : Json → Bool) (document : Json) : Option BlobType := do
  let slots ← document.fields? ["type"]
  Json.required (BlobType.ofJson? blank) (Json.slot slots 0)

def ofJson? (blank : Json → Bool) (document : Json) : Option Blob := do
  let slots ← document.fields? ["metadata", "uri"]
  let blobType ← Json.required (readType? blank) (Json.slot slots 0)
  let uri ← Json.required Json.asString? (Json.slot slots 1)
  return ⟨blobType, uri⟩

end Blob

namespace Binary

def toJson (binary : Binary) : Json :=
  .obj [("value", Bytes.toJson binary.value), ("tag", .str binary.tag)]

def ofJson? (document : Json) : Option Binary := do
  let slots ← document.fields? ["value", "tag"]
  let value ← Json.required Bytes.ofJson? (Json.slot slots 0)
  let tag ← Json.required Json.asString? (Json.slot slots 1)
  return ⟨value, tag⟩

end Binary

namespace Scalar

def toJson : Scalar → Json
  | .primitive value => .obj [("primitive", value.toJson)]
  | .blob value => .obj [("blob", value.toJson)]
  | .binary value => .obj [("binary", value.toJson)]
  | .generic value => .obj [("generic", value.toJson)]
  | .none => .obj [("none_type", .obj [])]

/-- A record without fields. -/
def isVoid : Json → Bool
  | .obj members => Json.passesOver [] members
  | .arr [] => true
  | _ => false

def ofJson? (blank : Json → Bool) (document : Json) : Option Scalar := do
  let (tag, payload) ← document.variant?
  match tag with
  | "primitive" => (Primitive.ofJson? payload).map .primitive
  | "blob" => (Blob.ofJson? blank payload).map .blob
  | "binary" => (Binary.ofJson? payload).map .binary
  | "generic" => do
    let members ← (← payload.asPlain?).asMembers?
    return .generic (JsonObject.ofMembers members)
  | "none_type" => if isVoid payload then some .none else Option.none
  | _ => Option.none

end Scalar

/-- Annotations as a member that is written only when present. -/
def metadataMember (metadata : Option Dict) : List (String × Json) :=
  Json.field? "metadata" Json.ofDict metadata

/-- Reads the annotations among the members of an object. -/
def readMetadata? (members : List (String × Json)) : Option (Option Dict) :=
  if Json.uniqueKeys ["metadata"] members then
    Json.optional Json.asDict? (members.lookup "metadata")
  else none

namespace Literal

mutual

def toJson : Literal → Json
  | .scalar value metadata => .obj (("scalar", value.toJson) :: metadataMember metadata)
  | .collection items metadata =>
    .obj (("collection", .obj [("literals", .arr (itemsToJson items))]) :: metadataMember metadata)
  | .map entries metadata =>
    .obj (("map", .obj [("literals", .obj (entriesToJson entries))]) :: metadataMember metadata)

/-- Every item of a list. -/
def itemsToJson : List Literal → List Json
  | [] => []
  | item :: items => toJson item :: itemsToJson items

/-- Every entry of a map. -/
def entriesToJson : List (String × Literal) → List (String × Json)
  | [] => []
  | (key, value) :: entries => (key, toJson value) :: entriesToJson entries

end

mutual

/-- Reads a plain document. -/
def ofPlain? : Json → Option Literal
  | .obj members => do
    let metadata ← readMetadata? members
    let payload ← readPayload? members
    return payload.withMetadata metadata
  | _ => Option.none

/-- Reads the first payload among the members of an object. -/
def readPayload? : List (String × Json) → Option Literal
  | [] => Option.none
  | (tag, value) :: members =>
    if tag = "scalar" then (Scalar.ofJson? Json.isBlankPayload value).map (.scalar · Option.none)
    else if tag = "collection" then (readCollection? value).map (.collection · Option.none)
    else if tag = "map" then (readMap? value).map (.map · Option.none)
    else readPayload? members

/-- Reads a record whose one field holds a list. -/
def readCollection? : Json → Option (List Literal)
  | .obj members =>
    if Json.uniqueKeys ["literals"] members then readListField? members else Option.none
  | .arr [items] => readItems? items
  | _ => Option.none

/-- Reads the list in the field `literals`. -/
def readListField? : List (String × Json) → Option (List Literal)
  | [] => Option.none
  | (key, value) :: members =>
    if key = "literals" then readItems? value else readListField? members

/-- Reads an array of literals. -/
def readItems? : Json → Option (List Literal)
  | .arr items => readAll? items
  | _ => Option.none

/-- Reads every one of a list of literals. -/
def readAll? : List Json → Option (List Literal)
  | [] => some []
  | item :: items => do
    let item ← ofPlain? item
    let items ← readAll? items
    return item :: items

/-- Reads a record whose one field holds a map. -/
def readMap? : Json → Option (List (String × Literal))
  | .obj members =>
    if Json.uniqueKeys ["literals"] members then readMapField? members else Option.none
  | .arr [entries] => readEntries? entries
  | _ => Option.none

/-- Reads the map in the field `literals`. -/
def readMapField? : List (String × Json) → Option (List (String × Literal))
  | [] => Option.none
  | (key, value) :: members =>
    if key = "literals" then readEntries? value else readMapField? members

/-- Reads an object of literals; of equal keys the last one stays. -/
def readEntries? : Json → Option (List (String × Literal))
  | .obj members => (readEach? members).map sortKeys
  | _ => Option.none

/-- Reads the value of every member. -/
def readEach? : List (String × Json) → Option (List (String × Literal))
  | [] => some []
  | (key, value) :: members => do
    let value ← ofPlain? value
    let entries ← readEach? members
    return (key, value) :: entries

end

def ofJson? (document : Json) : Option Literal := document.asPlain?.bind ofPlain?

end Literal

namespace LiteralType

def toJson : LiteralType → Json
  | .simple type metadata => .obj (("simple", type.toJson) :: metadataMember metadata)
  | .blob type metadata => .obj (("blob", type.toJson) :: metadataMember metadata)
  | .collection item metadata =>
    .obj (("collection_type", item.toJson) :: metadataMember metadata)
  | .map value metadata => .obj (("map_value_type", value.toJson) :: metadataMember metadata)

mutual

/-- Reads a plain document. -/
def ofPlain? : Json → Option LiteralType
  | .obj members => do
    let metadata ← readMetadata? members
    let kind ← readKind? members
    return kind.setMetadata metadata
  | _ => none

/-- Reads the first kind among the members of an object. -/
def readKind? : List (String × Json) → Option LiteralType
  | [] => none
  | (tag, value) :: members =>
    if tag = "simple" then (SimpleType.ofJson? Json.isBlankPayload value).map (.simple · none)
    else if tag = "blob" then (BlobType.ofJson? Json.isBlankPayload value).map (.blob · none)
    else if tag = "collection_type" then (ofPlain? value).map (.collection · none)
    else if tag = "map_value_type" then (ofPlain? value).map (.map · none)
    else readKind? members

end

def ofJson? (document : Json) : Option LiteralType := document.asPlain?.bind ofPlain?

end LiteralType

end Workflow
