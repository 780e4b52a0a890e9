import Workflow.Storage.FilePath

/-!
# The local file system

Files and directories by their place below the root. Paths are resolved component by component, and
every call fails as the system call behind it would.

* `resolve` finds the place that a path names.
* `read`, `write`, `isFile` and `createDirectories` work on paths.
* `entryAt?_set` is the one law of the table.
-/

namespace Workflow

/-- What a system call reports. -/
inductive OsError where
  | notFound
  | alreadyExists
  | notDirectory
  | isDirectory
  | nameTooLong
  | nulByte
deriving DecidableEq, Inhabited

namespace OsError

/-- The text of a report. -/
def message : OsError → String
  | .notFound => "No such file or directory (os error 2)"
  | .alreadyExists => "File exists (os error 17)"
  | .notDirectory => "Not a directory (os error 20)"
  | .isDirectory => "Is a directory (os error 21)"
  | .nameTooLong => "File name too long (os error 36)"
  | .nulByte => "file name contained an unexpected NUL byte"

end OsError

/-- A place below the root, by the names that lead to it. -/
abbrev Location := List Bytes

/-- What is at a place. -/
inductive Entry where
  | file (content : Bytes)
  | directory
deriving DecidableEq, Inhabited

/-- The entries of a file system, and where relative paths start. -/
structure FileSystem where
  entries : List (Location × Entry)
  working : Location
deriving Inhabited

namespace FileSystem

/-- The longest name. -/
def maxName : Nat := 255

/-- One more than the longest path. -/
def maxPath : Nat := 4096

/-- The entry at a place. The root is a directory. -/
def entryAt? (fs : FileSystem) : Location → Option Entry
  | [] => some .directory
  | l => fs.entries.lookup l

/-- Puts an entry at a place. -/
def set (fs : FileSystem) (l : Location) (e : Entry) : FileSystem :=
  { fs with entries := (l, e) :: fs.entries.filter (·.1 != l) }

/-- Takes the entry at a place away. -/
def erase (fs : FileSystem) (l : Location) : FileSystem :=
  { fs with entries := fs.entries.filter (·.1 != l) }

/-- An entry put somewhere is there, and all others are as before. -/
theorem entryAt?_set (fs : FileSystem) (l m : Location) (e : Entry) (h : m ≠ []) :
    (fs.set l e).entryAt? m = if m = l then some e else fs.entryAt? m := by
  have lookup_filter : ∀ entries : List (Location × Entry), m ≠ l →
      (entries.filter (·.1 != l)).lookup m = entries.lookup m := fun entries hne => by
    induction entries with
    | nil => rfl
    | cons p rest ih =>
      obtain ⟨k, v⟩ := p
      by_cases hk : k = l
      · subst hk
        have : (m == k) = false := by simpa using hne
        simp [List.lookup_cons, ih, this]
      · have : (k != l) = true := by simpa using hk
        simp only [List.filter_cons, this, if_true, List.lookup_cons, ih]
  cases m with
  | nil => exact absurd rfl h
  | cons n m =>
    simp only [entryAt?, set, List.lookup_cons]
    by_cases hm : n :: m = l
    · simp [hm]
    · have : (n :: m == l) = false := by simpa using hm
      rw [this, if_neg hm]
      exact lookup_filter fs.entries hm

/-- Where a path leads: to a directory by dots, or to a place whose entry may be missing. -/
inductive Place where
  | directory
  | entry (place : Location) (slashed : Bool)
deriving DecidableEq, Inhabited

/-- The directory that a component leads to. -/
def descend (fs : FileSystem) (directory : Location) (part : Bytes) : Except OsError Location :=
  if part = FilePath.dot then .ok directory
  else if part = FilePath.dots then .ok directory.dropLast
  else if maxName < part.length then .error .nameTooLong
  else
    match fs.entryAt? (directory ++ [part]) with
    | some .directory => .ok (directory ++ [part])
    | some (.file _) => .error .notDirectory
    | none => .error .notFound

/-- The place that a path names. All components but the last lead through directories. -/
def resolve (fs : FileSystem) (p : FilePath) : Except OsError Place :=
  if p.bytes.contains 0 then .error .nulByte
  else if p.bytes.isEmpty then .error .notFound
  else if maxPath ≤ p.bytes.length then .error .nameTooLong
  else
    match p.parts.reverse with
    | [] => .ok .directory
    | last :: front => do
      let directory ← front.reverse.foldlM fs.descend (if p.isAbsolute then [] else fs.working)
      if last = FilePath.dot ∨ last = FilePath.dots then return .directory
      else return .entry (directory ++ [last]) (p.bytes.getLast? == some FilePath.slash)

/-- Whether the name at the end of a place is too long. -/
def hasLongName (l : Location) : Bool := l.getLast?.any fun n => maxName < n.length

/-- Whether a path names a regular file. -/
def isFile (fs : FileSystem) (p : FilePath) : Bool :=
  match fs.resolve p with
  | .ok (.entry l slashed) =>
    match fs.entryAt? l with
    | some (.file _) => !slashed
    | _ => false
  | _ => false

/-- Whether a path names a directory. -/
def isDirectory (fs : FileSystem) (p : FilePath) : Bool :=
  match fs.resolve p with
  | .ok .directory => true
  | .ok (.entry l _) => fs.entryAt? l == some .directory
  | .error _ => false

/-- The content of a file. -/
def read (fs : FileSystem) (p : FilePath) : Except OsError Bytes := do
  match ← fs.resolve p with
  | .directory => throw .isDirectory
  | .entry l slashed =>
    if hasLongName l then throw .nameTooLong
    else
      match fs.entryAt? l with
      | none => throw .notFound
      | some .directory => throw .isDirectory
      | some (.file content) => if slashed then throw .notDirectory else return content

/-- Writes a file, a new one or over an old one. -/
def write (fs : FileSystem) (p : FilePath) (content : Bytes) : Except OsError FileSystem := do
  match ← fs.resolve p with
  | .directory => throw .isDirectory
  | .entry l slashed =>
    if slashed then throw .isDirectory
    else if hasLongName l then throw .nameTooLong
    else if fs.entryAt? l = some .directory then throw .isDirectory
    else return fs.set l (.file content)

/-- Makes a directory in one that exists. -/
def makeDirectory (fs : FileSystem) (p : FilePath) : Except OsError FileSystem := do
  match ← fs.resolve p with
  | .directory => throw .alreadyExists
  | .entry l _ =>
    if hasLongName l then throw .nameTooLong
    else if (fs.entryAt? l).isSome then throw .alreadyExists
    else return fs.set l .directory

/-- Makes a directory unless the path names one. -/
def ensureDirectory (fs : FileSystem) (p : FilePath) : FileSystem × Except OsError Unit :=
  match fs.makeDirectory p with
  | .ok fs => (fs, .ok ())
  | .error e => (fs, if fs.isDirectory p then .ok () else .error e)

/-- Makes the directory of components, given last first, and all directories above it. What was made
before a failure stays. -/
def createUpwards (fs : FileSystem) : List PathComponent → FileSystem × Except OsError Unit
  | [] => (fs, .ok ())
  | last :: front =>
    let p := FilePath.ofComponents (front.reverse ++ [last])
    match fs.makeDirectory p with
    | .error .notFound =>
      match fs.createUpwards front with
      | (fs, .ok ()) => fs.ensureDirectory p
      | failed => failed
    | _ => fs.ensureDirectory p

/-- Makes a directory and all directories above it. -/
def createDirectories (fs : FileSystem) (p : FilePath) : FileSystem × Except OsError Unit :=
  match fs.makeDirectory p with
  | .error .notFound =>
    match p.components.reverse with
    | [] => (fs, .ok ())
    | _ :: front =>
      match fs.createUpwards front with
      | (fs, .ok ()) => fs.ensureDirectory p
      | failed => failed
  | _ => fs.ensureDirectory p

/-- Removes a file; none if the path names no file. -/
def removeFile? (fs : FileSystem) (p : FilePath) : Option FileSystem :=
  if fs.isFile p then
    match fs.resolve p with
    | .ok (.entry l _) => some (fs.erase l)
    | _ => none
  else none

/-- The files below an absolute path that has no dots in it. -/
def filesBelow (fs : FileSystem) (p : FilePath) : List (FilePath × Bytes) :=
  fs.entries.filterMap fun (l, e) =>
    match e with
    | .file content => if p.parts.isPrefixOf l then some (.ofNames l, content) else none
    | .directory => none

/-- A file system of empty directories, given by absolute paths without dots, in one of which
relative paths start. -/
def ofDirectories (directories : List FilePath) (working : FilePath) : FileSystem :=
  ⟨(working :: directories).map fun p => (p.parts, .directory), working.parts⟩

end FileSystem

end Workflow
