import Workflow.Graph.Metadata
import Workflow.Json.Basic

/-!
# Run entities

What a node runs: a task, a workflow, or a task fanned out over a collection. One entity is shared
by all nodes that run it. Its task configuration, and the metadata of an array map's instances,
change through overrides of any of these nodes.
-/

namespace Workflow

/-- The kinds of run entities. -/
inductive RunEntityKind where
  | task
  | workflow
  /-- A task with one instance for each item of a collection. -/
  | arrayMap
deriving DecidableEq, Inhabited

namespace RunEntityKind

def all : List RunEntityKind := [.task, .workflow, .arrayMap]

def name : RunEntityKind → String
  | .task => "task"
  | .workflow => "workflow"
  | .arrayMap => "array_map"

end RunEntityKind

/-- A configuration of a task: the name of its type, and its content. -/
structure TaskConfig where
  typeName : String
  value : Json
deriving Inhabited

namespace TaskConfig

def sameType (a b : TaskConfig) : Bool := a.typeName == b.typeName

end TaskConfig

/-- A task or workflow that nodes run. -/
structure RunEntity where
  name : String
  kind : RunEntityKind
  /-- What the nodes that run the entity start from. -/
  metadata : NodeMetadata
  /-- The metadata of each instance of an array map. -/
  subNodeMetadata : NodeMetadata
  taskConfig : Option TaskConfig
deriving Inhabited

namespace RunEntity

/-- An entity of a kind with the metadata that its name gives. -/
def ofName (kind : RunEntityKind) (name : String) : RunEntity :=
  ⟨name, kind, ⟨name, none, ⟨0⟩, none, false, none, false⟩,
    ⟨name, none, ⟨0⟩, none, false, none, false⟩, none⟩

def isArrayMap (e : RunEntity) : Bool := e.kind == .arrayMap

end RunEntity

end Workflow
