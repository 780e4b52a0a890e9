import Workflow.Storage.Config

/-!
# Storage

The local file system and the object stores behind one set of calls. A URI that is not remote goes
to the file system; any other goes to the store of its scheme and host.

* `Stores` routes store names to buckets of objects.
* `Storage.Action` is a call that may change the storage and may fail. What was done before a
  failure stays done.
* `getBytes` and `putBytes` move content, `getData`, `putData` and `putRawData` move files.
-/

namespace Workflow

/-- What an upload says of its content. -/
structure UploadHeaders where
  contentEncoding : Option String := none
  contentType : Option String := none
deriving DecidableEq, Inhabited

namespace UploadHeaders

/-- The headers of compressed content. -/
def gzip : UploadHeaders := { contentEncoding := some "gzip" }

def isEmpty (h : UploadHeaders) : Bool := h.contentEncoding.isNone && h.contentType.isNone

end UploadHeaders

/-- Content in a store, with the headers it was uploaded with. -/
structure StoredObject where
  content : Bytes
  headers : UploadHeaders
deriving DecidableEq, Inhabited

/-- The objects of a store, sorted by key. -/
abbrev Bucket := List (String × StoredObject)

/-- Buckets, and which of them each store name leads to. -/
structure Stores where
  routes : List (String × Nat)
  buckets : List Bucket
deriving Inhabited

namespace Stores

/-- No store at all. -/
def empty : Stores := ⟨[], []⟩

/-- Adds an empty bucket for a store name, which takes the place of the one before. -/
def openStore (s : Stores) (store : String) : Stores × Nat :=
  (⟨(store, s.buckets.length) :: s.routes.filter (·.1 != store), s.buckets ++ [[]]⟩,
    s.buckets.length)

/-- The object of a key. -/
def object? (s : Stores) (bucket : Nat) (key : String) : Option StoredObject :=
  (s.buckets.getD bucket []).lookup key

/-- What a listing of a bucket shows: all objects but the one at the empty key. -/
def listing (s : Stores) (bucket : Nat) : Bucket :=
  (s.buckets.getD bucket []).filter (·.1 != "")

/-- Puts an object into a bucket. -/
def put (s : Stores) (bucket : Nat) (key : String) (object : StoredObject) : Stores :=
  { s with buckets := s.buckets.modify bucket (insertKey key object) }

end Stores

/-- How many reads and writes of remote URIs were asked for. -/
structure Traffic where
  gets : Nat := 0
  puts : Nat := 0
deriving DecidableEq, Inhabited

/-- Files, objects, and a supply of fresh ids. -/
structure Storage where
  config : StorageConfig
  files : FileSystem
  stores : Stores
  traffic : Traffic
  supply : Nat → FreshId
  drawn : Nat

namespace Storage

/-- A call on storage. -/
abbrev Action (α : Type) := ExceptT StorageError (StateM Storage) α

/-- Storage with a configuration that has no issue. -/
def ofConfig (config : StorageConfig) (files : FileSystem) (supply : Nat → FreshId) :
    Except StorageError Storage :=
  match config.issue? with
  | some issue => .error (.config issue)
  | none => .ok ⟨config, files, .empty, {}, supply, 0⟩

/-- Draws the next fresh id. -/
def freshId : Action FreshId := do
  let s ← get
  set { s with drawn := s.drawn + 1 }
  return s.supply s.drawn

/-- Does something to the file system. -/
def onFiles (f : FileSystem → FileSystem × Except OsError Unit) : Action Unit := do
  let s ← get
  let (files, result) := f s.files
  set { s with files }
  match result with
  | .ok () => return ()
  | .error e => throw (.io e)

/-- The object that a URI names. -/
def locate (uri : String) : Action RemoteLocation :=
  match RemoteLocation.parse? uri with
  | some location => return location
  | none => throw (.invalidUri uri)

/-- Registers an empty store for all URIs with the scheme and host of `base`. -/
def registerStore (base : String) : Action Nat := do
  let location ← locate base
  let s ← get
  let (stores, bucket) := s.stores.openStore location.store
  set { s with stores }
  return bucket

/-- The bucket of an object. A store in memory is opened on first use; no other store can be reached
unless it is registered. -/
def bucketOf (location : RemoteLocation) : Action Nat := do
  let s ← get
  match s.stores.routes.lookup location.store with
  | some bucket => return bucket
  | none =>
    if location.url.scheme = "memory" ∧ location.url.host = none then
      let (stores, bucket) := s.stores.openStore location.store
      set { s with stores }
      return bucket
    else throw .backend

/-- The path of a local URI. -/
def localPath (uri : String) : Action FilePath :=
  match Uri.toLocalPath uri with
  | .ok p => return p
  | .error e => throw e

/-- Makes the directory that a file is to be in. -/
def createParent (p : FilePath) : Action Unit :=
  match p.parent? with
  | some dir => onFiles (·.createDirectories dir)
  | none => return ()

/-- Writes a file. -/
def writeFile (p : FilePath) (content : Bytes) : Action Unit :=
  onFiles fun files =>
    match files.write p content with
    | .ok files => (files, .ok ())
    | .error e => (files, .error e)

/-- Reads a file. -/
def readFile (p : FilePath) : Action Bytes := do
  match (← get).files.read p with
  | .ok content => return content
  | .error e => throw (.io e)

/-- The content of an object. -/
def getRemote (uri : String) : Action Bytes := do
  modify fun s => { s with traffic := { s.traffic with gets := s.traffic.gets + 1 } }
  let location ← locate uri
  let bucket ← bucketOf location
  match (← get).stores.object? bucket location.key with
  | some object => return object.content
  | none => throw (.notFound location.key)

/-- The content of a file; a missing file is named by its URI. -/
def getLocal (uri : String) : Action Bytes := do
  let p ← localPath uri
  match (← get).files.read p with
  | .ok content => return content
  | .error .notFound => throw (.notFound uri)
  | .error e => throw (.io e)

/-- The content that a URI names. -/
def getBytes (uri : String) : Action Bytes :=
  if Uri.isRemote uri then getRemote uri else getLocal uri

/-- Writes an object. -/
def putRemote (uri : String) (content : Bytes) (headers : UploadHeaders) : Action Unit := do
  modify fun s => { s with traffic := { s.traffic with puts := s.traffic.puts + 1 } }
  let location ← locate uri
  let bucket ← bucketOf location
  modify fun s => { s with stores := s.stores.put bucket location.key ⟨content, headers⟩ }

/-- Writes a file and the directories above it. -/
def putLocal (uri : String) (content : Bytes) : Action Unit := do
  let p ← localPath uri
  createParent p
  writeFile p content

/-- Writes content to a URI, and gives the URI back. -/
def putBytes (uri : String) (content : Bytes) (headers : UploadHeaders) : Action String := do
  if Uri.isRemote uri then putRemote uri content headers else putLocal uri content
  return uri

/-- Downloads what a URI names into a file, making the directories above it. -/
def getData (uri : String) (target : FilePath) : Action Unit := do
  let content ← getBytes uri
  createParent target
  writeFile target content

/-- Uploads a file to a URI, and gives the URI back. -/
def putData (source : FilePath) (uri : String) (headers : UploadHeaders) : Action String := do
  let content ← readFile source
  putBytes uri content headers

/-- A fresh scratch path that ends in the file name of a hint. -/
def scratchPath (hint : Option String) : Action FilePath := do
  let id ← freshId
  return (← get).config.scratchPath id hint

/-- A fresh URI that ends in the file name of a stem, under `base` or the output prefix. -/
def remotePath (stem base : Option String) : Action String := do
  let id ← freshId
  return (← get).config.remotePath id stem base

/-- Uploads a file to a fresh URI under the output prefix. -/
def putRawData (source : FilePath) (headers : UploadHeaders) : Action String := do
  let uri ← remotePath (source.fileName?.bind Utf8.decode?) none
  putData source uri headers

end Storage

end Workflow
