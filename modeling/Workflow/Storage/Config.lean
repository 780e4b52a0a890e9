import Workflow.Json.Fields
import Workflow.Storage.Uri

/-!
# Configuration of storage

Where uploads and scratch files go: to what is set, or below the `TempDir` of the machine. `FreshId`
keeps the names of either apart: `remotePath` and `scratchPath` put one in front of every file name.
-/

namespace Workflow

/-- A name that is used once: 32 hexadecimal digits. -/
structure FreshId where
  digits : List Char
  length_eq : digits.length = 32
  isDigit : ∀ c ∈ digits, Hex.isDigit c = true

namespace FreshId

/-- The identifier of version 7 for a moment and a number. -/
def ofNumbers (moment number : Nat) : FreshId where
  digits := Hex.fixed 12 moment ++ '7' :: Hex.fixed 19 number
  length_eq := by simp [Hex.length_fixed]
  isDigit := fun c h => by
    simp only [List.mem_append, List.mem_cons] at h
    rcases h with h | rfl | h
    · exact Hex.isDigit_of_mem_fixed h
    · decide
    · exact Hex.isDigit_of_mem_fixed h

instance : Inhabited FreshId := ⟨ofNumbers 0 0⟩

/-- The text of an identifier. -/
def text (id : FreshId) : String := String.ofList id.digits

end FreshId

/-- The directory that a machine keeps for temporary files. -/
class TempDir where
  path : FilePath
deriving DecidableEq

/-- The directory of a machine that names no other. -/
instance : TempDir := ⟨"/tmp"⟩

/-- Where content is put. -/
structure StorageConfig where
  /-- The URI under which uploads go that have no destination of their own. -/
  rawOutputPrefix : Option String := none
  /-- The directory for scratch files and downloads. -/
  sandboxDir : Option FilePath := none
  /-- The machine that the configuration is used on. -/
  [tempDir : TempDir]
deriving DecidableEq, Inhabited

namespace StorageConfig

/-- The directory for scratch files: the one that is set, or one for temporary files. -/
def sandbox (c : StorageConfig) : FilePath :=
  c.sandboxDir.getD (c.tempDir.path.join "weft")

/-- The URI under which uploads go: the one that is set, without slashes at its end, or a directory
of the sandbox. -/
def outputPrefix (c : StorageConfig) : String :=
  match c.rawOutputPrefix with
  | some uri => String.ofList (Uri.dropEndSlashes uri.toList)
  | none => (c.sandbox.join "raw").text

/-- What is wrong with a configuration. -/
def issue? (c : StorageConfig) : Option String :=
  if c.rawOutputPrefix.isSome && c.outputPrefix.isEmpty then
    some "Raw output prefix cannot be empty"
  else if c.sandboxDir.any (·.bytes.isEmpty) then some "Local sandbox directory cannot be empty"
  else none

/-- The scratch path of a fresh id, ending in the file name of a hint. -/
def scratchPath (c : StorageConfig) (id : FreshId) (hint : Option String) : FilePath :=
  let dir := c.sandbox.join (.ofText id.text)
  match hint.bind Uri.fileName? with
  | some name => dir.join (.ofText name)
  | none => dir

/-- The URI of a fresh id under `base` or the output prefix, ending in the file name of a stem. -/
def remotePath (c : StorageConfig) (id : FreshId) (stem base : Option String) : String :=
  let base := match base with
    | some uri => String.ofList (Uri.dropEndSlashes uri.toList)
    | none => c.outputPrefix
  match stem.bind Uri.fileName? with
  | some name => base ++ "/" ++ id.text ++ "/" ++ Percent.encodeComponent name
  | none => base ++ "/" ++ id.text

/-- The text of the directory that is set, if it has one. -/
def localSandboxDir (c : StorageConfig) : Option String :=
  c.sandboxDir.bind fun dir => Utf8.decode? dir.bytes

/-- The document of a configuration; null for one that has none since its directory has no text. -/
def toJson (c : StorageConfig) : Json :=
  if c.sandboxDir.isSome && c.localSandboxDir.isNone then .null
  else
    .obj (Json.field? "raw_output_prefix" .str c.rawOutputPrefix ++
      Json.field? "local_sandbox_dir" .str c.localSandboxDir)

/-- The configuration of a document on this machine. -/
def ofJson? [TempDir] (document : Json) : Option StorageConfig := do
  let slots ← document.fields? ["raw_output_prefix", "local_sandbox_dir"]
  let rawOutputPrefix ← Json.optional Json.asString? (Json.slot slots 0)
  let sandboxDir ← Json.optional Json.asString? (Json.slot slots 1)
  return { rawOutputPrefix, sandboxDir }

end StorageConfig

end Workflow
