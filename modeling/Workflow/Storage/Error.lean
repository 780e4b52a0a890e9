import Workflow.Failure
import Workflow.Storage.FileSystem

/-!
# Errors of storage
-/

namespace Workflow

/-- What can go wrong when content is moved. -/
inductive StorageError where
  /-- A configuration that breaks a rule. -/
  | config (message : String)
  /-- A URI that names nothing. -/
  | invalidUri (uri : String)
  /-- A missing object or file. -/
  | notFound (path : String)
  | read (message : String)
  | write (message : String)
  /-- A failed call to the local file system. -/
  | io (error : OsError)
  /-- A store that cannot be reached. -/
  | backend
deriving DecidableEq, Inhabited

namespace StorageError

/-- The text of an error. -/
def message : StorageError → String
  | .config text => "invalid configuration: " ++ text
  | .invalidUri uri => "invalid uri: " ++ uri
  | .notFound path => "not found: " ++ path
  | .read text => "read failed: " ++ text
  | .write text => "write failed: " ++ text
  | .io error => "io error: " ++ error.message
  | .backend => "backend error: " ++ Failure.detail

/-- The kind of an error in a word. -/
def name : StorageError → String
  | .config _ => "config"
  | .invalidUri _ => "invalid_uri"
  | .notFound _ => "not_found"
  | .read _ => "read"
  | .write _ => "write"
  | .io _ => "io"
  | .backend => "backend"

/-- Whether the error says that an object or file is missing. -/
def isNotFound : StorageError → Bool
  | .notFound _ => true
  | .io error => error == .notFound
  | _ => false

/-- The failure an error turns into. -/
def toFailure (e : StorageError) : Failure := ⟨.storage, some e.message, some e.message⟩

end StorageError

/-- The failure that a report of the file system turns into. -/
def OsError.toFailure (e : OsError) : Failure := ⟨.io, some e.message, some e.message⟩

end Workflow
