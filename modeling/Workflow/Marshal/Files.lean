import Workflow.Marshal.FileRecord
import Workflow.Marshal.MediaType
import Workflow.Marshal.Sealing

/-!
# Files

The transformer between files and blobs that hold one object.

* `toLiteral` uploads a file where its declared type, its destination and the mode ask for it;
  `uploadsPlain` and `uploadsFile` are that decision.
* `toHostValue` reads a blob, or a record in a binary or generic literal. A remote file is not
  fetched before it is used.
* `checkContent` compares the content of a file with the extension of its declared type.
-/

namespace Workflow.Files

/-- What the declared type says of a file. -/
inductive Declared where
  /-- A file, of the given extension if it is not empty. -/
  | file (extension : String)
  /-- Something that can stand for a path. -/
  | pathLike
deriving DecidableEq, Inhabited

namespace Declared

/-- The format of the blob. -/
def format : Declared → String
  | .file extension => extension
  | .pathLike => ""

/-- What a host type says of a file. -/
def ofHostType (t : HostType) : Except Failure Declared :=
  if t.isFile then .ok (.file t.fileExtension)
  else if t.has .pathLike then .ok .pathLike
  else .error (.because .typeMismatch
    ("incorrect type " ++ t.name ++ ", must be either a file type or path-like"))

end Declared

/-- The name of the transformer. -/
def name : String := "file"

/-- The headers of a file, by the end of its name. -/
def headersOf (path : String) : UploadHeaders :=
  if ".gz".toList.isSuffixOf path.toList then .gzip else {}

/-- Checks the content of a local file against the media types of an extension. Nothing is checked
without an extension or a sniffer, or when the sniffer cannot tell. -/
def checkContent (ctx : Context) (extension path : String) : Except Failure Unit :=
  if extension.isEmpty || Uri.isRemote path then .ok ()
  else
    match ctx.sniffer with
    | none => .ok ()
    | some sniff =>
      match MediaType.expected? ctx.mediaTypes extension with
      | none =>
        .error (.because .lookup ("no known MIME type for extension `" ++ extension ++ "`"))
      | some expected => do
        let p ← (Uri.toLocalPath path).mapError StorageError.toFailure
        match ← sniff p with
        | none => return ()
        | some actual =>
          if MediaType.isOneOf expected actual then return ()
          else throw (.because .invalidValue ("incorrect file type, expected " ++
            MediaType.describe expected ++ ", got " ++ actual))

/-- Whether a text or a path is to be uploaded: if a file is declared and the mode is remote. The
file must be there; `mismatch` is the kind of failure if it is not. -/
def uploadsPlain (ctx : Context) (declared : Declared) (path : String) (mismatch : FailureKind) :
    Marshal Bool := do
  match declared with
  | .pathLike => return false
  | .file extension =>
    Marshal.ofExcept (checkContent ctx extension path)
    if Uri.isRemote path then return false
    let p ← Marshal.localPath path
    if ← Marshal.isFile p then return ctx.mode == .remote
    else throw (.because mismatch ("error converting " ++ path ++ " because it's not a file"))

/-- Whether a file value is to be uploaded: unless that is disabled, the file is remote, only a path
is declared, or the run stays on the machine and no destination is given. -/
def uploadsFile (ctx : Context) (declared : Declared) (t : HostType) (f : FileValue) :
    Marshal Bool := do
  Marshal.ofExcept (checkContent ctx declared.format f.path)
  if f.destination == .disabled || Uri.isRemote f.path then return false
  if declared == .pathLike then
    Marshal.notify ⟨f.path, t.name⟩
    return false
  return !(ctx.mode == .onMachine && f.destination.explicit?.isNone)

/-- Uploads a file to its destination or a fresh place, and gives the decoded URI. -/
def upload (path : String) (destination : Option String) : Marshal String := do
  let headers := headersOf path
  let source ← Marshal.localPath path
  let uri ← match destination with
    | some uri => Marshal.ofStorage (Storage.putData source uri headers)
    | none => Marshal.ofStorage (Storage.putRawData source headers)
  return (Percent.decodeText? uri).getD uri

/-- A file on its way into a literal. -/
structure Outgoing where
  path : String
  destination : Option String := none
  metadata : Option Dict := none
  uploads : Bool

/-- The literal of a file, which is uploaded if it is to be. -/
def Outgoing.toLiteral (o : Outgoing) (declared : Declared) : Marshal Literal := do
  let uri ← if o.uploads then upload o.path o.destination else pure o.path
  return (Literal.ofBlob (.single declared.format) uri).withMetadata o.metadata

/-- The literal of a file, text or path. A file that came from a remote source is named by it. -/
def toLiteral (ctx : Context) (value : HostValue) (t : HostType) : Marshal Literal := do
  if value.isNone then
    throw (.because .typeMismatch "none cannot be converted to a file")
  let declared ← Marshal.ofExcept (Declared.ofHostType t)
  match value with
  | .file f =>
    match f.remoteSource with
    | some uri => return (Literal.ofBlob (.single declared.format) uri).withMetadata f.metadata
    | none =>
      let uploads ← uploadsFile ctx declared t f
      Outgoing.toLiteral ⟨f.path, f.destination.explicit?, f.metadata, uploads⟩ declared
  | .str path =>
    let uploads ← uploadsPlain ctx declared path .typeMismatch
    Outgoing.toLiteral ⟨path, none, none, uploads⟩ declared
  | .path p =>
    let uploads ← uploadsPlain ctx declared p.text .invalidValue
    Outgoing.toLiteral ⟨p.text, none, none, uploads⟩ declared
  | other =>
    throw (.because .typeMismatch
      ("expected a file value, string or path, received " ++ other.kind))

/-- Whether a local URI names a regular file. -/
def isLocalFile (uri : String) : Marshal Bool :=
  match Uri.toLocalPath uri with
  | .ok p => Marshal.isFile p
  | .error _ => return false

/-- The file value of a URI. -/
def ofUri (uri : String) (metadata : Option Dict) (expected : HostType) : Marshal FileValue := do
  let isRemote := Uri.isRemote uri
  if !isRemote then
    if !(← isLocalFile uri) then
      throw (.because .assertion ("cannot convert to " ++ expected.name ++
        ", expected a file, but " ++ uri ++ " is not a file"))
  match ← Marshal.ofExcept (Declared.ofHostType expected) with
  | .pathLike => return { FileValue.unmanaged uri with metadata }
  | .file extension =>
    if isRemote then
      let scratch ← Marshal.ofStorage (Storage.scratchPath (some uri))
      let transfer ← Marshal.issue uri scratch
      return { FileValue.ofTransfer transfer with extension, metadata }
    else return { FileValue.ofPath (.ofText uri) with extension, metadata }

/-- The file value of a blob. -/
def ofBlob (literal : Literal) (expected : HostType) : Marshal HostValue := do
  match literal.asBlob? with
  | none =>
    throw (.because .typeMismatch
      ("cannot convert from a " ++ literal.tag ++ " literal to " ++ expected.name))
  | some blob =>
    if blob.blobType.dimensionality = .single then
      return .file (← ofUri blob.uri literal.metadata expected)
    else throw (.because .unsupportedFormat (blob.uri ++ " is not a file"))

/-- The file value of a record. -/
def ofRecord (record : FileRecord) (expected : HostType) : Marshal HostValue := do
  ofBlob (← Marshal.ofExcept record.toBlob) expected

/-- The file value of a literal. -/
def toHostValue (literal : Literal) (expected : HostType) : Marshal HostValue :=
  match literal.asScalar? with
  | some (.binary b) => do ofRecord (← Marshal.ofExcept (FileRecord.ofBinary b)) expected
  | some (.generic g) => do ofRecord (← Marshal.ofExcept (FileRecord.ofGeneric g)) expected
  | _ => ofBlob literal expected

/-- The literal type of a host type. -/
def literalType (t : HostType) : Except Failure LiteralType :=
  (Declared.ofHostType t).map fun declared => .ofFormat declared.format

/-- The record of a file value, by way of its literal. -/
def toRecord (ctx : Context) (value : HostValue) (t : HostType) : Marshal FileRecord := do
  let _ ← Marshal.ofExcept (literalType t)
  let literal ← toLiteral ctx value t
  match literal.asBlob? with
  | some blob => return ⟨some blob.uri, literal.metadata⟩
  | none => throw (.because .typeMismatch "file literal is not a blob")

/-- The host type of a blob that holds one object, other than a sealed value. -/
def hostTypeOf (type : LiteralType) : Except Failure HostType :=
  match type.asBlob? with
  | some blob =>
    if blob.dimensionality = .single ∧ blob.format ≠ Sealing.format then
      .ok (.fileOf blob.format)
    else .error (Transformer.unclaimed name type)
  | none => .error (Transformer.unclaimed name type)

/-- The transformer of files. -/
def transformer : Transformer where
  name := name
  literalType := literalType
  toLiteral ctx value t _ := toLiteral ctx value t
  toHostValue _ literal expected := toHostValue literal expected
  hostType := hostTypeOf

end Files

namespace FileValue

/-- The file value of a URI, as if it had come in a blob. -/
def ofSource (uri : String) : Marshal FileValue := Files.ofUri uri none .file

/-- A file value whose path is a fresh URI. -/
def ofFreshUri (name base : Option String) : Marshal FileValue := do
  return unmanaged (← Marshal.ofStorage (Storage.remotePath name base))

end FileValue

end Workflow
