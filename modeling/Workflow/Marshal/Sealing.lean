import Workflow.Cbor.Reader
import Workflow.Cbor.Writer
import Workflow.Digest.Sha256
import Workflow.Marshal.Transformer

/-!
# Sealed values

The transformer for host types that no other serves. A value is written as CBOR and stored as a blob
that is named by the digest of its bytes; what is read back is a sealed value.
-/

namespace Workflow.Sealing

/-- The format of blobs that hold sealed values. -/
def format : String := "OpaqueValue"

/-- The annotation that names the host type. -/
def hostTypeKey : String := "host_type"

/-- The name of the transformer. -/
def name : String := "opaque"

/-- The CBOR of a value; the absent value has none. -/
def encode? : HostValue → Option Cbor
  | .none => none
  | .int value => some (Sealable.toCbor value)
  | .float value => some (.float value)
  | .bool value => some (.bool value)
  | .str value => some (.text value)
  | .datetime value => some (.text value.render)
  | .duration value => some (.text value.render)
  | .path value => some (.text value.text)
  | .file value => some (.text value.path)
  | .sealed value => some value.content

/-- The hexadecimal digest of bytes. -/
def digest (content : Bytes) : String := String.ofList (Sha256.hexDigest content)

/-- The literal type of any host type. -/
def literalType (t : HostType) : LiteralType :=
  (LiteralType.ofFormat format).annotate hostTypeKey t.name

/-- Stores the bytes of a value in a scratch file and uploads it. -/
def store (content : Bytes) : Marshal String := do
  let scratch ← Marshal.ofStorage (Storage.scratchPath (some (digest content)))
  Marshal.ofDisk (Storage.createParent scratch)
  Marshal.ofDisk (Storage.writeFile scratch content)
  Marshal.ofStorage (Storage.putRawData scratch {})

/-- The literal of a value. -/
def toLiteral (value : HostValue) : Marshal Literal := do
  match encode? value with
  | none => throw (.because .assertion "cannot serialize a none value")
  | some encoded =>
    let uri ← store encoded.write
    return .ofBlob (.single format) uri

/-- A file with the content of a URI. -/
def fetch (uri : String) : Marshal FilePath := do
  if Uri.isRemote uri then
    let scratch ← Marshal.ofStorage (Storage.scratchPath (some uri))
    Marshal.ofStorage (Storage.getData uri scratch)
    return scratch
  else Marshal.localPath uri

/-- The sealed value of a literal. -/
def toHostValue (literal : Literal) (expected : HostType) : Marshal HostValue := do
  match literal.asBlob? with
  | none =>
    throw (.because .typeMismatch
      ("cannot read " ++ expected.name ++ " from a " ++ literal.tag ++ " literal"))
  | some blob =>
    let file ← fetch blob.uri
    let content ← Marshal.ofDisk (Storage.readFile file)
    match Cbor.read? content with
    | some value => return .sealed ⟨expected.name, value⟩
    | none =>
      throw (.because .serialization ("cannot deserialize " ++ expected.name ++ " from " ++
        blob.uri ++ ": " ++ Failure.detail))

/-- The host type of the literal type of sealed values. -/
def hostTypeOf (type : LiteralType) : Except Failure HostType :=
  match type.asBlob? with
  | some blob =>
    if blob = .single format then .ok .sealed else .error (Transformer.unclaimed name type)
  | none => .error (Transformer.unclaimed name type)

/-- The transformer of sealed values. -/
def transformer : Transformer where
  name := name
  literalType t := .ok (literalType t)
  toLiteral _ value _ _ := toLiteral value
  toHostValue _ literal expected := toHostValue literal expected
  hostType := hostTypeOf

end Workflow.Sealing
