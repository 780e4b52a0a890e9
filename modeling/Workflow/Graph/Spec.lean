import Workflow.Graph.Basic

/-!
# Rendered graphs

A `WorkflowSpec` is what the engine is given: every node with the ids, instead of the handles, of
the nodes it waits for. `Graph.toSpec` renders a graph that `Graph.validate` accepts.
-/

namespace Workflow

/-- Resources of a node as the engine reads them. -/
structure NodeOverridesSpec where
  resources : ResourceRequirements
  extendedResources : Option ExtendedResources
deriving DecidableEq, Inhabited

/-- A rendered node. -/
structure NodeSpec where
  id : String
  metadata : NodeMetadata
  dependencyIds : List String
  bindings : List (Binding OutputReference)
  overrides : NodeOverridesSpec
  containerImage : Option String
  podTemplate : Option PodTemplate
  aliases : List Alias
  /-- The metadata of each instance of an array map. -/
  subNodeMetadata : Option NodeMetadata
deriving Inhabited

/-- A rendered graph. -/
structure WorkflowSpec where
  nodes : List NodeSpec
deriving Inhabited

namespace WorkflowSpec

/-- The first node with an id. -/
def node? (spec : WorkflowSpec) (id : String) : Option NodeSpec :=
  spec.nodes.find? fun node => node.id == id

end WorkflowSpec

namespace Graph

/-- The id of the node of a handle. -/
def idOf (g : Graph) (h : Handle) : Except GraphError String :=
  match g.node? h with
  | some node => .ok node.id
  | none => .error (.nodeNotFound h)

/-- A promise by the id of its node. -/
def referenceOf (g : Graph) (p : Promise) : Except GraphError OutputReference := do
  return ⟨← g.idOf p.node, p.var⟩

/-- A rendered input. -/
def bindingSpec (g : Graph) (b : Binding Promise) :
    Except GraphError (Binding OutputReference) := do
  return ⟨b.var, ← b.data.resolve g.referenceOf⟩

/-- A rendered node, given the entity it runs. -/
def nodeSpec (g : Graph) (entity : RunEntity) (node : Node) : Except GraphError NodeSpec := do
  let dependencyIds ← node.dependencies.mapM g.idOf
  let bindings ← node.bindings.mapM g.bindingSpec
  let extended := node.extendedResources
  return {
    id := node.id
    metadata := node.metadata
    dependencyIds
    bindings
    overrides :=
      ⟨node.resources.getD .empty, if extended.isEmpty then none else some extended⟩
    containerImage := node.containerImage
    podTemplate := node.podTemplate
    aliases := node.aliases
    subNodeMetadata := if entity.isArrayMap then some entity.subNodeMetadata else none }

/-- The rendered graph. Nodes keep their order. -/
def toSpec (g : Graph) (entityOf : Nat → RunEntity) : Except GraphError WorkflowSpec := do
  g.validate
  return ⟨← g.nodes.mapM fun node => g.nodeSpec (entityOf node.entity) node⟩

end Graph

end Workflow
