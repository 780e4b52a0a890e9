import Workflow.Keyed

/-!
# Host types

What a program declares a value to be: a name, the generic type it was made from with its
parameters, and what it can stand for. A file type may fix the extension of its files.
-/

namespace Workflow

/-- What a host type can stand for whatever its name. -/
inductive Capability where
  /-- A path of the file system. -/
  | pathLike
deriving DecidableEq, Inhabited

namespace Capability

def all : List Capability := [.pathLike]

def name : Capability → String
  | .pathLike => "path_like"

end Capability

/-- A declared type on the host side. -/
structure HostType where
  name : String
  origin : Option String := none
  params : List String := []
  capabilities : List Capability := []
deriving DecidableEq, Inhabited

namespace HostType

/-- The name of all file types. -/
def fileName : String := "File"

/-- A type with nothing but a name. -/
def ofName (name : String) : HostType := { name }

/-- A generic type with its parameters. -/
def generic (origin : String) (params : List String) : HostType where
  name := origin ++ "[" ++ String.intercalate ", " params ++ "]"
  origin := some origin
  params := params

/-- The type of all files. -/
def file : HostType := ofName fileName

/-- The type of files with an extension; the empty one stands for any. -/
def fileOf (extension : String) : HostType :=
  if extension.isEmpty then file else generic fileName [extension]

/-- The type with a capability declared, once. -/
def withCapability (t : HostType) (c : Capability) : HostType :=
  if c ∈ t.capabilities then t else { t with capabilities := t.capabilities ++ [c] }

/-- The type of whatever can stand for a path. -/
def pathLike : HostType := (ofName "PathLike").withCapability .pathLike

/-- The type of paths. -/
def path : HostType := (ofName "std::path::PathBuf").withCapability .pathLike

/-- The type that stands for all sealed values. -/
def sealed : HostType := ofName "Opaque"

def has (t : HostType) (c : Capability) : Bool := t.capabilities.contains c

/-- Whether a type is a file type. -/
def isFile (t : HostType) : Bool := t.name == fileName || t.origin == some fileName

/-- The extension that a file type fixes; empty when there is none. -/
def fileExtension (t : HostType) : String :=
  if t.origin = some fileName then t.params.headD "" else ""

end HostType

end Workflow
