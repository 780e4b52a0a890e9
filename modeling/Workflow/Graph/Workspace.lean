import Workflow.Graph.Spec

/-!
# Graphs that share entities

A workspace is a table of run entities and some graphs over it. A clone of a graph has nodes of its
own and runs the same entities.
-/

namespace Workflow

/-- Run entities, and graphs of nodes that run them. -/
structure Workspace where
  entities : List RunEntity
  graphs : List Graph
deriving Inhabited

namespace Workspace

/-- A workspace with one empty graph. -/
def ofEntities (entities : List RunEntity) : Workspace := ⟨entities, [.empty]⟩

/-- The graph at a place; an empty one beyond the last. -/
def graph (w : Workspace) (i : Nat) : Graph := w.graphs.getD i .empty

/-- The entity at a place; beyond the last, one that stands for none. -/
def entity (w : Workspace) (i : Nat) : RunEntity := w.entities.getD i default

/-- The workspace with another graph at a place. -/
def setGraph (w : Workspace) (i : Nat) (g : Graph) : Workspace :=
  { w with graphs := w.graphs.set i g }

/-- Adds a node to a graph, with a chosen name or a generated id. -/
def addNode (w : Workspace) (i : Nat) (name : Option String) (entity : Nat)
    (bindings : List (Binding Promise)) : Except GraphError (Workspace × Handle) := do
  let metadata := (w.entity entity).metadata
  let (g, h) ← match name with
    | some name => (w.graph i).addNodeWithId name entity metadata bindings
    | none => (w.graph i).addNode entity metadata bindings
  return (w.setGraph i g, h)

/-- Makes one node of a graph wait for another. -/
def runsBefore (w : Workspace) (i : Nat) (before after : Handle) : Except GraphError Workspace := do
  return w.setGraph i (← (w.graph i).runsBefore before after)

/-- Makes each of a list of nodes wait for the one before it. -/
def chain (w : Workspace) (i : Nat) (cursor : Handle) (rest : List Handle) :
    Workspace × Except GraphError Handle :=
  let (g, result) := (w.graph i).chain cursor rest
  (w.setGraph i g, result)

/-- Overrides the node of a handle, and the entity it runs. -/
def override (w : Workspace) (i : Nat) (h : Handle) (o : Overrides) :
    Except GraphError Workspace := do
  match (w.graph i).node? h with
  | none => throw (.nodeNotFound h)
  | some node =>
    let entity := w.entity node.entity
    let update ← o.check entity.taskConfig
    let g := w.graph i
    return {
      entities := w.entities.set node.entity (update.applyToEntity entity)
      graphs := w.graphs.set i
        ⟨g.nodes.modify (Graph.position h) (update.applyToNode entity.isArrayMap), g.edges⟩ }

/-- The notices of an override call. -/
def notices (w : Workspace) (i : Nat) (h : Handle) (o : Overrides) : List Notice :=
  match (w.graph i).node? h with
  | none => []
  | some node => o.notices node

/-- Adds a clone of a graph. -/
def clone (w : Workspace) (i : Nat) : Workspace := { w with graphs := w.graphs ++ [w.graph i] }

/-- A graph rendered with the present entities. -/
def toSpec (w : Workspace) (i : Nat) : Except GraphError WorkflowSpec :=
  (w.graph i).toSpec w.entity

end Workspace

end Workflow
