import Workflow.Graph.Order
import Workflow.Graph.Overrides

/-!
# Workflow graphs

A graph holds its nodes in the order they were added; a handle is a position in that order. Edges
lead from a node to those that wait for it.

* `insert` adds a node with an id of its own, `addNode` one with a generated id, `addNodeWithId` one
  with the label of a chosen name.
* `runsBefore` makes one node wait for another, unless that would close a cycle.
* `topologicalOrder` lists the nodes so that each follows those it waits for.
* `validate` finds ids used twice.
-/

namespace Workflow

/-- Nodes and their dependencies. -/
structure Graph where
  nodes : List Node
  /-- One edge for each node that another waits for, oldest first. -/
  edges : List Order.Edge
deriving Inhabited

namespace Graph

/-- The graph without nodes. -/
def empty : Graph := ⟨[], []⟩

/-- How many nodes there are. -/
def size (g : Graph) : Nat := g.nodes.length

/-- Positions are 32-bit words; of a larger handle only the low bits count. -/
def positions : Nat := UInt32.size

/-- The position that a handle names. -/
def position (h : Handle) : Nat := h % positions

/-- The node of a handle. -/
def node? (g : Graph) (h : Handle) : Option Node := g.nodes[position h]?

/-- The position of a node that exists. -/
def check (g : Graph) (h : Handle) : Except GraphError Nat :=
  if position h < g.size then .ok (position h) else .error (.nodeNotFound h)

/-- An output of a node that exists. -/
def output (g : Graph) (h : Handle) (var : String) : Except GraphError Promise := do
  let _ ← g.check h
  return ⟨h, var⟩

/-- Whether a node has the id. -/
def hasId (g : Graph) (id : String) : Bool := g.nodes.any fun node => node.id == id

/-! ## Adding nodes -/

/-- Adds a node after all others. Its producers must exist. -/
def insert (g : Graph) (id : String) (entity : Nat) (metadata : NodeMetadata)
    (bindings : List (Binding Promise)) : Except GraphError (Graph × Handle) := do
  let node := Node.ofBindings g.size id entity metadata bindings
  let sources ← node.dependencies.mapM g.check
  return (⟨g.nodes ++ [node], g.edges ++ sources.map (·, g.size)⟩, g.size)

/-- The id of the generated number `k`. -/
def generatedId (k : Nat) : String := s!"n{k}"

/-- The least number from the node count on whose id is free. One more number than there are nodes
is enough to find it. -/
def freshNumber? (g : Graph) : Option Nat :=
  (List.range' g.size (g.size + 1)).find? fun k => !g.hasId (generatedId k)

/-- Adds a node with a generated id. -/
def addNode (g : Graph) (entity : Nat) (metadata : NodeMetadata)
    (bindings : List (Binding Promise)) : Except GraphError (Graph × Handle) :=
  match g.freshNumber? with
  | some k => g.insert (generatedId k) entity metadata bindings
  | none => .error (.invalidValue "no free generated node id")

/-- Adds a node whose id is the label of a chosen name. -/
def addNodeWithId (g : Graph) (name : String) (entity : Nat) (metadata : NodeMetadata)
    (bindings : List (Binding Promise)) : Except GraphError (Graph × Handle) :=
  let id := Label.ofName name
  if id.isEmpty then .error (.invalidValue s!"`{name}` has no characters usable in a node id")
  else if g.hasId id then .error (.duplicateNodeId id)
  else g.insert id entity metadata bindings

/-! ## Dependencies -/

/-- The id of the node at a position. -/
def idAt (g : Graph) (i : Nat) : String := (g.nodes[i]?.map (·.id)).getD ""

/-- The nodes that the node at a position waits for. -/
def dependenciesAt (g : Graph) (i : Nat) : List Handle := (g.nodes[i]?.map (·.dependencies)).getD []

/-- Makes `after` wait for `before`. Only the list of `after` changes; a repeated call changes
nothing, and one that would close a cycle is refused. -/
def runsBefore (g : Graph) (before after : Handle) : Except GraphError Graph := do
  let source ← g.check before
  let target ← g.check after
  if (g.dependenciesAt target).contains before then return g
  else if source = target ∨ Order.hasPath g.edges target source then
    throw (.cycle (g.idAt source) (g.idAt target))
  else
    return ⟨g.nodes.modify target (·.addDependency before), g.edges ++ [(source, target)]⟩

/-- Makes each of a list of nodes wait for the one before it, from `cursor` on. A refused step ends
the chain, and the steps before it stand. -/
def chain (g : Graph) (cursor : Handle) : List Handle → Graph × Except GraphError Handle
  | [] => (g, .ok cursor)
  | next :: rest =>
    match g.runsBefore cursor next with
    | .ok g => g.chain next rest
    | .error e => (g, .error e)

/-- The nodes in an order in which each follows those it waits for. -/
def topologicalOrder (g : Graph) : Except GraphError (List Handle) :=
  let order := Order.finishOrder g.edges g.size
  if Order.isOrder g.edges order then .ok order
  else
    let id := g.idAt (order.headD 0)
    .error (.cycle id id)

/-- The first id that stood in the list or in `seen` before. -/
def duplicateId? (seen : List String) : List String → Option String
  | [] => none
  | id :: ids => if seen.contains id then some id else duplicateId? (id :: seen) ids

/-- Checks that no two nodes share an id and that nothing runs in a circle. Ids may come to be
shared by overrides. -/
def validate (g : Graph) : Except GraphError Unit :=
  match duplicateId? [] (g.nodes.map (·.id)) with
  | some id => .error (.duplicateNodeId id)
  | none =>
    if Order.isCyclic g.edges g.size then
      .error (.invalidValue "the workflow graph contains a cycle")
    else .ok ()

end Graph

end Workflow
