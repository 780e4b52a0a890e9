import Workflow.Graph.Entity
import Workflow.Graph.Resource

/-!
# Nodes

A node is one invocation of a run entity. The nodes it waits for are kept in the order they were
added: first the producers of its promised inputs, then those of explicit orderings.
-/

namespace Workflow

/-- An outside name of an output. -/
structure Alias where
  var : String
  name : String
deriving DecidableEq, Inhabited

namespace Alias

/-- The aliases that a map from outputs to names gives, by output. -/
def ofDict (d : Dict) : List Alias := d.entries.map fun (var, name) => ⟨var, name⟩

end Alias

/-- One invocation of a run entity, which is named by its place in the table of entities. -/
structure Node where
  handle : Handle
  id : String
  metadata : NodeMetadata
  bindings : List (Binding Promise)
  dependencies : List Handle
  aliases : List Alias
  resources : Option ResourceRequirements
  extendedResources : ExtendedResources
  podTemplate : Option PodTemplate
  containerImage : Option String
  entity : Nat
deriving Inhabited

namespace Node

/-- Adds a handle to a list unless it is there. -/
def addOnce (handles : List Handle) (h : Handle) : List Handle :=
  if handles.contains h then handles else handles ++ [h]

/-- The nodes that produce the promised inputs, each once, in the order of first use. -/
def producers (bindings : List (Binding Promise)) : List Handle :=
  (bindings.flatMap fun b => b.data.references.map (·.node)).foldl addOnce []

/-- A fresh node. -/
def ofBindings (handle : Handle) (id : String) (entity : Nat) (metadata : NodeMetadata)
    (bindings : List (Binding Promise)) : Node where
  handle := handle
  id := id
  metadata := metadata
  bindings := bindings
  dependencies := producers bindings
  aliases := []
  resources := none
  extendedResources := {}
  podTemplate := none
  containerImage := none
  entity := entity

/-- The node with one more node to wait for. -/
def addDependency (node : Node) (h : Handle) : Node :=
  { node with dependencies := addOnce node.dependencies h }

end Node

end Workflow
