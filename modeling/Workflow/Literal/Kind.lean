import Workflow.Literal.Basic
import Workflow.Text.Quoted

/-!
# Types of literals

A `LiteralType` says which literals may stand at a place. `accepts` decides it: annotations never
matter, nor does the content of a scalar. `describe` is the text of a type in diagnostics.
-/

namespace Workflow

/-- The types of scalars other than blobs. -/
inductive SimpleType where
  | none
  | integer
  | float
  | string
  | boolean
  | datetime
  | duration
  | struct
  | binary
deriving DecidableEq, Inhabited

namespace SimpleType

/-- Every simple type. -/
def all : List SimpleType :=
  [.none, .integer, .float, .string, .boolean, .datetime, .duration, .struct, .binary]

/-- The name on the wire. -/
def name : SimpleType → String
  | .none => "NONE"
  | .integer => "INTEGER"
  | .float => "FLOAT"
  | .string => "STRING"
  | .boolean => "BOOLEAN"
  | .datetime => "DATETIME"
  | .duration => "DURATION"
  | .struct => "STRUCT"
  | .binary => "BINARY"

/-- The name in diagnostics. -/
def label : SimpleType → String
  | .none => "None"
  | .integer => "Integer"
  | .float => "Float"
  | .string => "String"
  | .boolean => "Boolean"
  | .datetime => "Datetime"
  | .duration => "Duration"
  | .struct => "Struct"
  | .binary => "Binary"

/-- The type of a primitive. -/
def ofPrimitive : Primitive → SimpleType
  | .integer _ => .integer
  | .float _ => .float
  | .text _ => .string
  | .boolean _ => .boolean
  | .datetime _ => .datetime
  | .duration _ => .duration

/-- The simple type of a scalar; a blob has none. -/
def ofScalar? : Scalar → Option SimpleType
  | .primitive value => some (ofPrimitive value)
  | .blob _ => Option.none
  | .binary _ => some .binary
  | .generic _ => some .struct
  | .none => some .none

end SimpleType

namespace Dimensionality

def all : List Dimensionality := [.single, .multipart]

/-- The name on the wire. -/
def name : Dimensionality → String
  | .single => "SINGLE"
  | .multipart => "MULTIPART"

/-- The name in diagnostics. -/
def label : Dimensionality → String
  | .single => "Single"
  | .multipart => "Multipart"

end Dimensionality

/-- The type of a literal, with annotations at every level. -/
inductive LiteralType where
  | simple (type : SimpleType) (metadata : Option Dict)
  | blob (type : BlobType) (metadata : Option Dict)
  | collection (item : LiteralType) (metadata : Option Dict)
  | map (value : LiteralType) (metadata : Option Dict)
deriving DecidableEq

namespace LiteralType

instance : Inhabited LiteralType := ⟨.simple .none none⟩

/-- A simple type without annotations. -/
def ofSimple (type : SimpleType) : LiteralType := .simple type none

/-- One object of a format, without annotations. -/
def ofFormat (format : String) : LiteralType := .blob (.single format) none

/-- The annotations. -/
def metadata : LiteralType → Option Dict
  | .simple _ m => m
  | .blob _ m => m
  | .collection _ m => m
  | .map _ m => m

/-- The same type with other annotations. -/
def setMetadata (metadata : Option Dict) : LiteralType → LiteralType
  | .simple type _ => .simple type metadata
  | .blob type _ => .blob type metadata
  | .collection item _ => .collection item metadata
  | .map value _ => .map value metadata

/-- The same type with one annotation added or replaced. -/
def annotate (type : LiteralType) (key value : String) : LiteralType :=
  type.setMetadata (some ((type.metadata.getD Dict.empty).insert key value))

/-- The annotation of a key. -/
def annotation? (type : LiteralType) (key : String) : Option String :=
  type.metadata.bind (·.get? key)

def asBlob? : LiteralType → Option BlobType
  | .blob type _ => some type
  | _ => none

/-- Whether a literal has the type. -/
def accepts : LiteralType → Literal → Bool
  | .simple type _, .scalar value _ => SimpleType.ofScalar? value == some type
  | .blob type _, .scalar (.blob value) _ => type.accepts value.blobType
  | .collection item _, .collection items _ => items.all item.accepts
  | .map value _, .map entries _ => entries.all fun entry => value.accepts entry.2
  | _, _ => false

/-! ## Diagnostics -/

/-- The entries of a map in diagnostics. -/
def describeEntries (entries : List (String × String)) : List Char :=
  (List.intercalate [',', ' '] <| entries.map fun (key, value) =>
    Text.quoted key ++ [':', ' '] ++ Text.quoted value)

/-- Annotations in diagnostics. -/
def describeMetadata : Option Dict → List Char
  | none => "None".toList
  | some d => "Some(".toList ++ '\x7b' :: describeEntries d.entries ++ ['\x7d', ')']

def describeBlobType (type : BlobType) : List Char :=
  "BlobType ".toList ++ '\x7b' :: " format: ".toList ++ Text.quoted type.format ++
    ", dimensionality: ".toList ++ type.dimensionality.label.toList ++ [' ', '\x7d']

/-- A kind with its annotations, in diagnostics. -/
def describeAnnotated (kind : List Char) (metadata : Option Dict) : List Char :=
  "LiteralType ".toList ++ '\x7b' :: " kind: ".toList ++ kind ++ ", metadata: ".toList ++
    describeMetadata metadata ++ [' ', '\x7d']

/-- A type in diagnostics. -/
def describeChars : LiteralType → List Char
  | .simple type m => describeAnnotated ("Simple(".toList ++ type.label.toList ++ [')']) m
  | .blob type m => describeAnnotated ("Blob(".toList ++ describeBlobType type ++ [')']) m
  | .collection item m =>
    describeAnnotated ("CollectionType(".toList ++ item.describeChars ++ [')']) m
  | .map value m => describeAnnotated ("MapValueType(".toList ++ value.describeChars ++ [')']) m

/-- A type in diagnostics, as a string. -/
def describe (type : LiteralType) : String := String.ofList type.describeChars

end LiteralType

end Workflow
