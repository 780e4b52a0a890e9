import Workflow.Text.Blank
import Workflow.Url.Host
import Workflow.Url.Path

/-!
# URLs

What the library needs of a URL: scheme, host and path. `Url.parse?` follows the URL standard; user
names, ports, queries and fragments are checked and dropped.

* Schemes such as `http` have a host of the domain kind, and their slashes may lean either way.
* `file` has a local path, behind a host that is usually empty.
* Any other scheme has a host only behind two slashes. Without a slash its path is a text without
  segments.
-/

namespace Workflow

/-- A URL. The path keeps its escapes; its dot segments are resolved. -/
structure Url where
  scheme : String
  host : Option String
  path : List Char
  /-- Whether the path begins with a slash or may have begun with one. -/
  hasSegments : Bool
deriving DecidableEq, Inhabited

namespace Url

/-- The kinds of schemes. -/
inductive SchemeKind where
  | file
  | special
  | other
deriving DecidableEq

/-- The kind of a scheme. -/
def schemeKind (scheme : List Char) : SchemeKind :=
  let name := String.ofList scheme
  if name = "file" then .file
  else if ["http", "https", "ws", "wss", "ftp"].contains name then .special
  else .other

/-- The text without controls and blanks at its ends. -/
def trim (text : List Char) : List Char :=
  let isOuter (c : Char) : Bool := c.toNat ≤ 0x20
  Text.dropEndWhile isOuter (text.dropWhile isOuter)

def isSchemeChar (c : Char) : Bool := c.isAlphanum || c == '+' || c == '-' || c == '.'

/-- The scheme in lower case, and the text behind its colon. -/
def splitScheme? (text : List Char) : Option (List Char × List Char) :=
  match text with
  | [] => none
  | c :: _ =>
    if c.isAlpha then
      match text.dropWhile isSchemeChar with
      | ':' :: rest => some ((text.takeWhile isSchemeChar).map Char.toLower, rest)
      | _ => none
    else none

/-- Whether a character separates segments. -/
def isSlash (special : Bool) (c : Char) : Bool := c == '/' || (special && c == '\\')

/-- The text before query and fragment. -/
def beforeQuery (text : List Char) : List Char := text.takeWhile fun c => c != '?' && c != '#'

/-- The segments of a path. -/
def splitSegments (special : Bool) (path : List Char) : List (List Char) :=
  (path.map fun c => if isSlash special c then '/' else c).splitOn '/'

/-- What stands behind the first slash of a path, if it starts with one. -/
def behindSlash (special : Bool) (path : List Char) : List Char :=
  match path.dropWhile UrlPath.isDropped with
  | c :: rest => if isSlash special c then rest else path
  | [] => []

/-- Reads the segments of a path, behind which a query may stand. -/
def readSegments (special file : Bool) (path : List Char) : UrlPath.Trail :=
  UrlPath.walk file {} (splitSegments special (beforeQuery path))

/-- The path behind its first slash, if it has one. -/
def readPath (special : Bool) (path : List Char) : List Char :=
  UrlPath.render (UrlPath.segments false (readSegments special false (behindSlash special path)))

/-! ## Authorities -/

/-- Where the last `@` of a text stands: the parts before and after it. -/
def splitUser? (authority : List Char) : Option (List Char × List Char) :=
  match (authority.reverse.span (· != '@')) with
  | (after, '@' :: before) => some (before.reverse, after.reverse)
  | _ => none

/-- The host at the start of a text: it ends at a colon outside brackets. -/
def splitHost (inside : Bool) : List Char → List Char × List Char
  | [] => ([], [])
  | c :: rest =>
    if c = ':' ∧ !inside then ([], c :: rest)
    else
      let inside := if c = '[' then true else if c = ']' then false else inside
      let (host, after) := splitHost inside rest
      (c :: host, after)

/-- The text behind a port, which is a number below 65536 or nothing. -/
def readPort? (text : List Char) : Option (List Char) :=
  match text with
  | ':' :: rest =>
    let digits := rest.takeWhile Char.isDigit
    let value := digits.foldl (fun n c => n * 10 + (c.toNat - 48)) 0
    let after := rest.drop digits.length
    if 65535 < value then none
    else
      match after with
      | [] => some []
      | c :: _ => if c = '\\' then some after else none
  | other => some other

/-- An authority: its host, if not empty, and what stands behind the port. `ended` says that nothing
follows the authority. -/
def readAuthority? (special ended : Bool) (authority : List Char) :
    Option (Option (List Char) × List Char) := do
  let (user, place) ← match splitUser? authority with
    | none => some ([], authority)
    | some (user, place) =>
      if user.isEmpty && place.isEmpty && !ended then none else some (user, place)
  let (hostText, after) := splitHost false place
  if hostText.isEmpty then
    if special || !after.isEmpty || !(user.isEmpty || user == [':']) then none
    else return (none, [])
  else
    let host ← if special then Host.ofSpecial? hostText else Host.ofOther? hostText
    let after ← readPort? after
    return (some host, after)

/-- A URL behind the slashes that announce an authority. -/
def ofAuthority? (scheme : List Char) (special : Bool) (text : List Char) : Option Url := do
  let isEnd (c : Char) : Bool := isSlash special c || c == '?' || c == '#'
  let authority := text.takeWhile (!isEnd ·)
  let rest := text.drop authority.length
  let (host, after) ← readAuthority? special rest.isEmpty authority
  let path := after ++ rest
  return {
    scheme := String.ofList scheme
    host := host.map String.ofList
    path := if special || !(beforeQuery path).isEmpty then readPath special path else []
    hasSegments := true }

/-! ## Files -/

/-- The host that stands for none. -/
def localHost : List Char := "localhost".toList

/-- The URL of a file, from the text of its path. A drive letter that stands first takes the place
of the host. -/
def ofFilePath (host : Option (List Char)) (path : List Char) : Url :=
  let trail := readSegments true true path
  let host := if trail.hasDrive then none else host
  ⟨"file", host.map String.ofList, UrlPath.render (UrlPath.segments true trail), true⟩

/-- The URL of a file, behind the scheme, with the characters in it that a URL drops. Behind no host
or `localhost` the slash that ends the host belongs to the path, which may have several in front. A
drive letter is no host. -/
def ofFile? (text : List Char) : Option Url :=
  match UrlPath.clean text with
  | a :: b :: rest =>
    if isSlash true a && isSlash true b then
      let hostText := (beforeQuery rest).takeWhile (!isSlash true ·)
      if UrlPath.isDriveLetter hostText then some (ofFilePath none (UrlPath.dropVisible 2 text))
      else do
        let path := UrlPath.dropVisible (2 + hostText.length) text
        let host ← if hostText.isEmpty then some localHost else Host.ofSpecial? hostText
        return if host == localHost then ofFilePath none path
          else ofFilePath (some host) (behindSlash true path)
    else some (ofFilePath none (behindSlash true text))
  | _ => some (ofFilePath none (behindSlash true text))

/-! ## All schemes -/

/-- The URL that a text spells. -/
def parse? (text : String) : Option Url := do
  let text := trim text.toList
  let visible := UrlPath.clean text
  let (scheme, rest) ← splitScheme? visible
  match schemeKind scheme with
  | .file => ofFile? (UrlPath.dropVisible (visible.length - rest.length) text)
  | .special => ofAuthority? scheme true (rest.dropWhile (isSlash true))
  | .other =>
    match rest with
    | '/' :: '/' :: rest => ofAuthority? scheme false rest
    | '/' :: _ => return ⟨String.ofList scheme, none, readPath false rest, true⟩
    | _ => return ⟨String.ofList scheme, none, beforeQuery rest, false⟩

/-- The bytes of the file that a URL names, unless it is on another host. A drive letter at the end
is followed by a slash. -/
def filePath? (url : Url) : Option Bytes :=
  if url.hasSegments && (url.host.isNone || url.host == some "localhost") then
    let path := Percent.decode url.path
    match path.reverse with
    | mark :: letter :: _ :: _ =>
      let drive := (Char.ofNat letter.toNat).isAlpha && (mark == 0x3A || mark == 0x7C)
      some (if drive && letter < 0x80 then path ++ [0x2F] else path)
    | _ => some path
  else none

end Url

end Workflow
