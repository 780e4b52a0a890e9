import Workflow.Cbor.Typed
import Workflow.Failure
import Workflow.Marshal.HostType
import Workflow.Storage.FilePath
import Workflow.Time.Duration
import Workflow.Time.Instant

/-!
# Host values

A value on the host side of the border: a number, a text, a time, a path, a file, or a value of any
other type sealed as CBOR.

* `FileValue` is a handle on a file, whose content may have to be fetched first.
* `SealedValue.wrap` and `SealedValue.unwrap` go between typed values and sealed ones.
* `HostValue.same` is equality as programs see it.
-/

namespace Workflow

/-- Where a file goes when it is turned into a literal. -/
inductive Destination where
  /-- A fresh place. -/
  | auto
  /-- Nowhere: the literal names the file itself. -/
  | disabled
  | explicit (uri : String)
deriving DecidableEq, Inhabited

namespace Destination

def explicit? : Destination → Option String
  | .explicit uri => some uri
  | _ => none

end Destination

/-- A download that is made at most once. Copies of a file value share it by its number. -/
structure Transfer where
  uri : String
  target : FilePath
  number : Nat
deriving DecidableEq, Inhabited

/-- How the content of a file value comes to its path. -/
inductive Source where
  /-- It is there. -/
  | present
  /-- Nothing brings it. -/
  | unmanaged
  /-- It is downloaded on first use. -/
  | remote (transfer : Transfer)
deriving DecidableEq, Inhabited

/-- A handle on a file. -/
structure FileValue where
  path : String
  extension : String := ""
  destination : Destination := .auto
  remoteSource : Option String := none
  metadata : Option Dict := none
  source : Source := .present
deriving DecidableEq, Inhabited

namespace FileValue

/-- A file that is there. -/
def ofPath (path : FilePath) : FileValue := { path := path.text }

/-- A path or URI that nothing fetches. -/
def unmanaged (path : String) : FileValue := { path, source := .unmanaged }

/-- A remote file with its download. -/
def ofTransfer (t : Transfer) : FileValue :=
  { path := t.target.text, remoteSource := some t.uri, source := .remote t }

/-- A file in a directory, by its relative path. -/
def inDirectory (dir relative : FilePath) : Except Failure FileValue :=
  if relative.isAbsolute then
    .error (.because .invalidValue ("path " ++ relative.text ++ " should be relative"))
  else .ok (ofPath (dir.join relative))

/-- Whether the content is fetched on demand. -/
def isLazy (f : FileValue) : Bool :=
  match f.source with
  | .remote _ => true
  | _ => false

/-- Equality of handles: how the content comes does not matter, nor do annotations. -/
def same (f g : FileValue) : Bool :=
  f.path == g.path && f.destination == g.destination && f.extension == g.extension

end FileValue

/-- A value of any type as CBOR, with the name of the type. -/
structure SealedValue where
  typeName : String
  content : Cbor
deriving Inhabited

namespace SealedValue

/-- A typed value as a sealed one. -/
def wrap {α : Type} [Sealable α] (value : α) : SealedValue :=
  ⟨Sealable.typeName α, Sealable.toCbor value⟩

/-- The typed value in a sealed one. -/
def unwrap (α : Type) [Sealable α] (s : SealedValue) : Except Failure α :=
  match Sealable.ofCbor? s.content with
  | some value => .ok value
  | none => .error (.because .serialization
      ("cannot decode " ++ s.typeName ++ " as " ++ Sealable.typeName α ++ ": " ++ Failure.detail))

/-- Equality of type names and of contents. -/
def same (s t : SealedValue) : Bool := s.typeName == t.typeName && s.content.same t.content

end SealedValue

/-- A value on the host side. -/
inductive HostValue where
  | none
  | int (value : Int64)
  | float (value : Binary64)
  | bool (value : Bool)
  | str (value : String)
  | datetime (value : Instant)
  | duration (value : Duration)
  | path (value : FilePath)
  | file (value : FileValue)
  | sealed (value : SealedValue)
deriving Inhabited

namespace HostValue

/-- The kind of a value in a word. -/
def kind : HostValue → String
  | .none => "none"
  | .int _ => "int"
  | .float _ => "float"
  | .bool _ => "bool"
  | .str _ => "str"
  | .datetime _ => "datetime"
  | .duration _ => "duration"
  | .path _ => "path"
  | .file _ => "file"
  | .sealed _ => "opaque"

def isNone : HostValue → Bool
  | .none => true
  | _ => false

def asFile? : HostValue → Option FileValue
  | .file value => some value
  | _ => Option.none

def asSealed? : HostValue → Option SealedValue
  | .sealed value => some value
  | _ => Option.none

/-- Equality of values. Floating numbers compare by what they stand for, paths by their
components. -/
def same : HostValue → HostValue → Bool
  | .none, .none => true
  | .int a, .int b => a == b
  | .float a, .float b => a.sameValue b
  | .bool a, .bool b => a == b
  | .str a, .str b => a == b
  | .datetime a, .datetime b => a == b
  | .duration a, .duration b => a == b
  | .path a, .path b => a.same b
  | .file a, .file b => a.same b
  | .sealed a, .sealed b => a.same b
  | _, _ => false

end HostValue

end Workflow
