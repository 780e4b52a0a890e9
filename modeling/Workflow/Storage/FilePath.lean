import Workflow.Text.Utf8

/-!
# File paths

A path is a run of bytes with slashes in it. Only its components decide what it names: repeated
slashes, a slash at the end and inner dots do not.

* `components` splits a path.
* `parent?`, `fileName?` and `join` take paths apart and put them together.
-/

namespace Workflow

/-- A path of the local file system. -/
structure FilePath where
  bytes : Bytes
deriving DecidableEq, Inhabited

/-- A part of a path. -/
inductive PathComponent where
  | root
  /-- A dot at the start. -/
  | here
  | up
  | name (bytes : Bytes)
deriving DecidableEq, Inhabited

namespace FilePath

/-- The byte between components. -/
def slash : UInt8 := 0x2F

def dot : Bytes := [0x2E]

def dots : Bytes := [0x2E, 0x2E]

/-- A path by its text. -/
def ofText (text : String) : FilePath := ⟨Utf8.encode text⟩

/-- A text may stand for its path, also where there need not be one. -/
instance : Coe String FilePath := ⟨ofText⟩

instance : Coe (Option String) (Option FilePath) := ⟨Option.map ofText⟩

/-- The text of a path, with U+FFFD for what is no text. -/
def text (p : FilePath) : String := Utf8.decodeLossy p.bytes

def isAbsolute (p : FilePath) : Bool := p.bytes.head? == some slash

/-- What stands between the slashes of a path. -/
def parts (p : FilePath) : List Bytes := (p.bytes.splitOn slash).filter (!·.isEmpty)

/-- The component of a part. -/
def componentOf (part : Bytes) : PathComponent := if part = dots then .up else .name part

/-- The components of a path. -/
def components (p : FilePath) : List PathComponent :=
  let start : List PathComponent :=
    if p.isAbsolute then [.root] else if p.parts.head? = some dot then [.here] else []
  start ++ (p.parts.filter (· != dot)).map componentOf

/-- The text of components other than the root, in front of what stands behind them. -/
def renderComponents : List PathComponent → Bytes
  | [] => []
  | .root :: rest => slash :: renderComponents rest
  | [.here] => dot
  | [.up] => dots
  | [.name n] => n
  | .here :: rest => dot ++ slash :: renderComponents rest
  | .up :: rest => dots ++ slash :: renderComponents rest
  | .name n :: rest => n ++ slash :: renderComponents rest

/-- The path of components. -/
def ofComponents (components : List PathComponent) : FilePath := ⟨renderComponents components⟩

/-- The path without its last component; the root has none. -/
def parent? (p : FilePath) : Option FilePath :=
  match p.components.reverse with
  | [] => none
  | .root :: _ => none
  | _ :: front => some (ofComponents front.reverse)

/-- The last component, if it is a name. -/
def fileName? (p : FilePath) : Option Bytes :=
  match p.components.getLast? with
  | some (.name n) => some n
  | _ => none

/-- The absolute path of names. -/
def ofNames (names : List Bytes) : FilePath := ⟨names.flatMap (slash :: ·)⟩

/-- A path inside another; an absolute path stays as it is. -/
def join (p q : FilePath) : FilePath :=
  if q.isAbsolute then q
  else if p.bytes.isEmpty || p.bytes.getLast? == some slash then ⟨p.bytes ++ q.bytes⟩
  else ⟨p.bytes ++ slash :: q.bytes⟩

/-- Whether two paths have the same components. -/
def same (p q : FilePath) : Bool := p.components == q.components

end FilePath

end Workflow
