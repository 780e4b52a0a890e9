import Workflow.Storage.Error
import Workflow.Text.Blank
import Workflow.Url.Basic

/-!
# URIs of content

Content is named by a plain path, a `file` URL or the URL of an object in a store.

* `isRemote` tells objects from files.
* `toLocalPath` is the path of a file.
* `RemoteLocation.parse?` is the store and the key of an object.
* `fileName?` is the last component of any of them.
-/

namespace Workflow

namespace Uri

/-- Whether a URI names an object in a store. A scheme of one letter is a drive. -/
def isRemote (uri : String) : Bool :=
  match Url.parse? uri with
  | some url => url.scheme != "file" && decide (1 < url.scheme.length)
  | none => false

/-- The path that a URI of a file names. -/
def toLocalPath (uri : String) : Except StorageError FilePath :=
  match Url.parse? uri with
  | some url =>
    if url.scheme = "file" then
      match url.filePath? with
      | some bytes => .ok ⟨bytes⟩
      | none => .error (.invalidUri uri)
    else .ok (.ofText uri)
  | none => .ok (.ofText uri)

/-- A text without the slashes at its end. -/
def dropEndSlashes (text : List Char) : List Char := Text.dropEndWhile (· == '/') text

/-- The last component of a URI, slashes at the end passed over; dots are no name. -/
def fileName? (uri : String) : Option String :=
  let name := ((dropEndSlashes uri.toList).reverse.takeWhile (· != '/')).reverse
  if name.isEmpty || name == ['.'] || name == ['.', '.'] then none else some (String.ofList name)

end Uri

/-- The store and the key of an object. -/
structure RemoteLocation where
  /-- Scheme and host. -/
  store : String
  key : String
  url : Url
deriving DecidableEq, Inhabited

namespace RemoteLocation

/-- Whether a text may stand between the slashes of a key. -/
def isKeySegment (segment : List Char) : Bool :=
  !segment.isEmpty && segment != ['.'] && segment != ['.', '.'] &&
    segment.all fun c => 0x20 ≤ c.toNat && c.toNat != 0x7F

/-- The key of a decoded path: one slash at each end is dropped. -/
def keyOf? (path : List Char) : Option (List Char) :=
  let body := if path.head? = some '/' then path.drop 1 else path
  if body.isEmpty then some []
  else
    let body := if body.getLast? = some '/' then body.dropLast else body
    if (body.splitOn '/').all isKeySegment then some body else none

/-- The object that a URI names. -/
def parse? (uri : String) : Option RemoteLocation := do
  let url ← Url.parse? uri
  if Uri.isRemote uri then
    let path ← Utf8.decodeChars? (Percent.decode url.path)
    let key ← keyOf? path
    return ⟨url.scheme ++ "://" ++ url.host.getD "", String.ofList key, url⟩
  else none

end RemoteLocation

end Workflow
