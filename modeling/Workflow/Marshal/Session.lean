import Workflow.Marshal.HostValue
import Workflow.Marshal.MediaType
import Workflow.Storage.Basic

/-!
# Sessions

What marshalling works on: storage, the downloads that are done, and what is to be told to the user.
`Context` holds what is fixed for a call.

* `Marshal.ofStorage` reports an error of storage as such, `Marshal.ofDisk` an error of the file
  system as it is.
* `FileValue.download` brings the content of a file value to its path, once.
-/

namespace Workflow

/-- Whether values stay on this machine or go to the engine. -/
inductive ExecutionMode where
  /-- A run on this machine: only files with an explicit destination are uploaded. -/
  | onMachine
  | remote
deriving DecidableEq, Inhabited

namespace ExecutionMode

def all : List ExecutionMode := [.onMachine, .remote]

def name : ExecutionMode → String
  | .onMachine => "local"
  | .remote => "remote"

def ofJson? : Json → Option ExecutionMode := Json.readNamed? all name Json.isNull

end ExecutionMode

/-- Tells the media type of a file from its content, if it can. -/
abbrev Sniffer := FilePath → Except Failure (Option String)

/-- What is fixed for a call. -/
structure Context where
  mode : ExecutionMode := .remote
  sniffer : Option Sniffer := none
  /-- What the machine knows of extensions. -/
  mediaTypes : MediaType.Database := MediaType.Database.common

/-- Something to tell the user: a file stays where it is since only a path was declared. -/
structure KeptFile where
  path : String
  declared : String
deriving DecidableEq, Inhabited

namespace KeptFile

def message : String :=
  "Converting a file value while only a path-like type was declared, skipping upload"

end KeptFile

/-- The state of marshalling. -/
structure Session where
  storage : Storage
  /-- How many transfers were handed out. -/
  issued : Nat
  /-- The transfers that are done. -/
  done : List Nat
  notices : List KeptFile

/-- A step of marshalling, which may change the session and may fail. What was done before a failure
stays done. -/
abbrev Marshal (α : Type) := ExceptT Failure (StateM Session) α

namespace Session

/-- A session at its start. -/
def ofStorage (storage : Storage) : Session := ⟨storage, 0, [], []⟩

end Session

namespace Marshal

/-- A call on storage; `report` turns its errors into failures. -/
def onStorage {α : Type} (report : StorageError → Failure) (action : Storage.Action α) :
    Marshal α := do
  let s ← get
  let (result, storage) := action.run.run s.storage
  set { s with storage }
  match result with
  | .ok x => return x
  | .error e => throw (report e)

/-- A call on storage. -/
def ofStorage {α : Type} (action : Storage.Action α) : Marshal α :=
  onStorage StorageError.toFailure action

/-- The failure of a call that goes to the file system alone. -/
def diskFailure : StorageError → Failure
  | .io e => e.toFailure
  | e => e.toFailure

/-- A call on storage that goes to the file system alone. -/
def ofDisk {α : Type} (action : Storage.Action α) : Marshal α := onStorage diskFailure action

/-- A failure or a value. -/
def ofExcept {α : Type} : Except Failure α → Marshal α
  | .ok x => return x
  | .error f => throw f

/-- The path that a local URI names. -/
def localPath (uri : String) : Marshal FilePath :=
  ofExcept ((Uri.toLocalPath uri).mapError StorageError.toFailure)

/-- Whether a path names a regular file. -/
def isFile (p : FilePath) : Marshal Bool := return (← get).storage.files.isFile p

/-- Tells the user something. -/
def notify (notice : KeptFile) : Marshal Unit :=
  modify fun s => { s with notices := s.notices ++ [notice] }

/-- Hands out the download of a URI to a path. -/
def issue (uri : String) (target : FilePath) : Marshal Transfer := do
  let s ← get
  set { s with issued := s.issued + 1 }
  return ⟨uri, target, s.issued⟩

end Marshal

namespace Transfer

/-- Makes a download unless it is done. -/
def run (t : Transfer) : Marshal Unit := do
  if (← get).done.contains t.number then return ()
  Marshal.ofStorage (Storage.getData t.uri t.target)
  modify fun s => { s with done := t.number :: s.done }

end Transfer

namespace FileValue

/-- Whether the content is at the path. -/
def isDownloaded (f : FileValue) (s : Session) : Bool :=
  match f.source with
  | .present => true
  | .unmanaged => false
  | .remote t => s.done.contains t.number

/-- Brings the content to the path, and gives the path. -/
def download (f : FileValue) : Marshal FilePath :=
  match f.source with
  | .present => return .ofText f.path
  | .unmanaged =>
    throw (.because .invalidValue ("file " ++ f.path ++ " has no downloader attached"))
  | .remote t => do
    t.run
    return t.target

end FileValue

end Workflow
