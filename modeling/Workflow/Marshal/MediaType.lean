import Workflow.Text.Quoted

/-!
# Media types

Which media types the content of a file may have, by the extension of the file.

* `Database` tells the registered media types of an extension. It comes with the machine.
* `expected?` looks an extension up in a database, unless it is one of `overrides`.
* `essence?` reads a media type and drops its parameters.
-/

namespace Workflow.MediaType

/-- Extensions whose content is not told by its registered media type. -/
def overrides : List (String × List String) :=
  [("hdf5", ["text/plain"]),
   ("joblib", ["application/octet-stream"]),
   ("python_pickle", ["application/octet-stream"]),
   ("ipynb", ["application/json"]),
   ("onnx", ["application/json"]),
   ("tfrecord", ["application/octet-stream"]),
   ("jsonl", ["application/json", "application/x-ndjson"])]

/-- The registered media types of an extension, in lower case and without parameters; none for an
extension that nothing is known of. -/
abbrev Database := String → List String

/-- The media types of an extension, given with or without dots in front and in any case. -/
def expected? (registered : Database) (extension : String) : Option (List String) :=
  let name := String.ofList ((extension.toList.dropWhile (· == '.')).map Char.toLower)
  (overrides.lookup name).orElse fun _ =>
    match registered name with
    | [] => none
    | types => some types

/-- Some extensions and their registered media types. -/
def commonTypes : List (String × List String) :=
  [("csv", ["text/csv"]),
   ("json", ["application/json"]),
   ("txt", ["text/plain"]),
   ("py", ["text/plain"]),
   ("html", ["text/html"]),
   ("htm", ["text/html"]),
   ("png", ["image/png"]),
   ("jpg", ["image/jpeg"]),
   ("jpeg", ["image/jpeg"]),
   ("gif", ["image/gif"]),
   ("svg", ["image/svg+xml"]),
   ("pdf", ["application/pdf"]),
   ("xml", ["text/xml"]),
   ("gz", ["application/gzip", "application/x-gzip"]),
   ("zip", ["application/zip"]),
   ("tar", ["application/x-tar"]),
   ("mp3", ["audio/mpeg"]),
   ("mp4", ["video/mp4"]),
   ("md", ["text/markdown", "text/x-markdown"]),
   ("js", ["text/javascript"]),
   ("css", ["text/css"]),
   ("yaml", ["text/x-yaml"]),
   ("wasm", ["application/wasm"]),
   ("bin", ["application/octet-stream"])]

/-- Characters outside ASCII that are nothing but letters of ASCII once case is put aside. -/
def foldings : List (Char × String) :=
  [('\u00DF', "ss"), ('\u017F', "s"), ('\u1E9E', "ss"), ('\u212A', "k"), ('\uFB00', "ff"),
   ('\uFB01', "fi"), ('\uFB02', "fl"), ('\uFB03', "ffi"), ('\uFB04', "ffl"), ('\uFB05', "st"),
   ('\uFB06', "st")]

/-- A character with case put aside, as far as letters of ASCII can come of it. -/
def fold (c : Char) : List Char := ((foldings.lookup c).map String.toList).getD [c.toLower]

/-- A small database for where none is given. It puts case aside for letters outside ASCII too. What
is proved holds of any database. -/
def Database.common : Database := fun extension =>
  (commonTypes.lookup (String.ofList (extension.toList.flatMap fold))).getD []

/-- The characters of a token other than letters and digits. -/
def tokenMarks : List Char := "!#$%&'*+-.^_`|~".toList

def isToken (c : Char) : Bool := c.isAlphanum || tokenMarks.contains c

/-- A character that may stand between quotes. -/
def isQuotable (c : Char) : Bool := decide (31 < c.toNat ∧ c.toNat ≠ 127)

/-- What is left behind the value of a parameter; none if it is malformed. The first character after
an opening quote is never the closing one. -/
def afterValue? : List Char → Option (List Char)
  | '"' :: c :: rest =>
    let closing := rest.dropWhile fun c => c != '"' && isQuotable c
    match isQuotable c, closing with
    | true, '"' :: rest =>
      match rest.dropWhile (· == ' ') with
      | [] => some []
      | ';' :: rest => some rest
      | _ => none
    | _, _ => none
  | input =>
    match input.dropWhile isToken with
    | [] => some []
    | ';' :: rest => if input.head? = some ';' then none else some rest
    | _ => none

/-- Whether a text is a list of parameters, `fuel` at most. -/
def areParameters : Nat → List Char → Bool
  | 0, _ => false
  | fuel + 1, input =>
    match input.dropWhile (· == ' ') with
    | [] => true
    | body =>
      match body.takeWhile isToken, body.dropWhile isToken with
      | _ :: _, '=' :: value =>
        match afterValue? value with
        | some rest => areParameters fuel rest
        | none => false
      | _, _ => false

/-- A media type in lower case without its parameters. -/
def essence? (text : String) : Option String :=
  let input := text.toList
  match input.takeWhile isToken, input.dropWhile isToken with
  | top@(_ :: _), '/' :: rest =>
    let essence := String.ofList ((top ++ '/' :: rest.takeWhile isToken).map Char.toLower)
    match rest.takeWhile isToken, rest.dropWhile isToken with
    | _, [] => some essence
    | _ :: _, ';' :: parameters =>
      if areParameters (parameters.length + 1) parameters then some essence else none
    | _, _ => none
  | _, _ => none

/-- Whether a media type is one of those expected, parameters aside. -/
def isOneOf (expected : List String) (actual : String) : Bool :=
  match essence? actual with
  | some essence => expected.contains essence
  | none => false

/-- Media types as a list in diagnostics. -/
def describe (types : List String) : String :=
  String.ofList ('[' :: [',', ' '].intercalate (types.map Text.quoted) ++ [']'])

end Workflow.MediaType
