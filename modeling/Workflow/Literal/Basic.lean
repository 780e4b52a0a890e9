import Workflow.Json.Basic
import Workflow.Text.Utf8
import Workflow.Time.Duration
import Workflow.Time.Instant

/-!
# Literals

A `Literal` is a value as it travels between tasks: a scalar, a list or a map of literals, with
optional annotations. Content of any size stays outside and is named by a `Blob`.

* `Primitive`, `Blob`, `Binary` and `Scalar` are the leaves.
* `Literal.tag` names the kind of a literal in messages.
-/

namespace Workflow

/-- A number, text, truth value or time. -/
inductive Primitive where
  | integer (value : Int64)
  | float (value : Binary64)
  | text (value : String)
  | boolean (value : Bool)
  | datetime (value : Instant)
  | duration (value : Duration)
deriving DecidableEq, Inhabited

/-- Whether a blob is one object or many under one name. -/
inductive Dimensionality where
  | single
  | multipart
deriving DecidableEq, Inhabited

/-- The shape of a blob. The empty format stands for any. -/
structure BlobType where
  format : String
  dimensionality : Dimensionality
deriving DecidableEq, Inhabited

namespace BlobType

/-- One object of a format. -/
def single (format : String) : BlobType := ⟨format, .single⟩

/-- Whether the format is left open. -/
def isUntyped (t : BlobType) : Bool := t.format.isEmpty

/-- Whether a blob of type `actual` may stand where `expected` is asked for: formats differ only
when one of them is open. -/
def accepts (expected actual : BlobType) : Bool :=
  expected.dimensionality == actual.dimensionality &&
    (expected.isUntyped || actual.isUntyped || expected.format == actual.format)

end BlobType

/-- Content kept in storage, by the URI it is found at. -/
structure Blob where
  blobType : BlobType
  uri : String
deriving DecidableEq, Inhabited

/-- Encoded bytes with the name of their encoding. -/
structure Binary where
  value : Bytes
  tag : String
deriving DecidableEq, Inhabited

/-- A literal that has no literals in it. -/
inductive Scalar where
  | primitive (value : Primitive)
  | blob (value : Blob)
  | binary (value : Binary)
  | generic (value : JsonObject)
  | none
deriving Inhabited

/-- A value with its annotations. The entries of a map are sorted by key. -/
inductive Literal where
  | scalar (value : Scalar) (metadata : Option Dict)
  | collection (items : List Literal) (metadata : Option Dict)
  | map (entries : List (String × Literal)) (metadata : Option Dict)

namespace Literal

/-- A primitive without annotations. -/
def ofPrimitive (value : Primitive) : Literal := .scalar (.primitive value) Option.none

/-- A blob without annotations. -/
def ofBlob (blobType : BlobType) (uri : String) : Literal :=
  .scalar (.blob ⟨blobType, uri⟩) Option.none

/-- Encoded bytes without annotations. -/
def ofBinary (tag : String) (value : Bytes) : Literal := .scalar (.binary ⟨value, tag⟩) Option.none

/-- A document without annotations. -/
def ofGeneric (value : JsonObject) : Literal := .scalar (.generic value) Option.none

/-- The absent value. -/
def none : Literal := .scalar .none Option.none

instance : Inhabited Literal := ⟨none⟩

/-- The annotations. -/
def metadata : Literal → Option Dict
  | .scalar _ m => m
  | .collection _ m => m
  | .map _ m => m

/-- The same value with other annotations. -/
def withMetadata (metadata : Option Dict) : Literal → Literal
  | .scalar value _ => .scalar value metadata
  | .collection items _ => .collection items metadata
  | .map entries _ => .map entries metadata

def asScalar? : Literal → Option Scalar
  | .scalar value _ => some value
  | _ => Option.none

def asPrimitive? : Literal → Option Primitive
  | .scalar (.primitive value) _ => some value
  | _ => Option.none

def asBlob? : Literal → Option Blob
  | .scalar (.blob value) _ => some value
  | _ => Option.none

def asBinary? : Literal → Option Binary
  | .scalar (.binary value) _ => some value
  | _ => Option.none

def asGeneric? : Literal → Option JsonObject
  | .scalar (.generic value) _ => some value
  | _ => Option.none

def isNone : Literal → Bool
  | .scalar .none _ => true
  | _ => false

/-- The kind of a literal in a word. -/
def tag : Literal → String
  | .collection _ _ => "collection"
  | .map _ _ => "map"
  | .scalar (.primitive _) _ => "primitive"
  | .scalar (.blob _) _ => "blob"
  | .scalar (.binary _) _ => "binary"
  | .scalar (.generic _) _ => "generic"
  | .scalar .none _ => "none_type"

end Literal

end Workflow
