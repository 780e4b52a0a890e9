import Workflow.Failure
import Workflow.Graph.Binding

/-!
# Errors of authoring a graph

Each is found when the graph is edited or rendered, and leaves the graph as it was.
-/

namespace Workflow

/-- What can be wrong with an edit of a graph. -/
inductive GraphError where
  /-- A value that breaks a rule. -/
  | invalidValue (message : String)
  /-- A promise where only a known value may stand. -/
  | assertion (message : String)
  /-- A handle without a node. -/
  | nodeNotFound (handle : Handle)
  /-- An id that two nodes would share. -/
  | duplicateNodeId (id : String)
  /-- An ordering that would close a cycle, by the ids of its two ends. -/
  | cycle (before after : String)
deriving DecidableEq, Inhabited

namespace GraphError

/-- The text of an error. -/
def message : GraphError → String
  | .invalidValue text => "invalid value: " ++ text
  | .assertion text => text
  | .nodeNotFound handle => s!"node {Handle.render handle} does not exist"
  | .duplicateNodeId id => s!"node id `{id}` is used more than once"
  | .cycle before after =>
    s!"`{before}` cannot run before `{after}`: the graph would contain a cycle"

/-- The kind of failure an error counts as. -/
def kind : GraphError → FailureKind
  | .invalidValue _ => .invalidValue
  | .cycle _ _ => .invalidValue
  | .assertion _ => .assertion
  | .nodeNotFound _ => .lookup
  | .duplicateNodeId _ => .configuration

/-- The failure an error turns into. -/
def toFailure (e : GraphError) : Failure := ⟨e.kind, some e.message, some e.message⟩

end GraphError

/-- A value that is known, or promised by another node. -/
inductive Param (α : Type) where
  | value (value : α)
  | promise (promise : Promise)
deriving DecidableEq, Inhabited

namespace Param

/-- The known value; a promise is refused, naming the field in question. -/
def known {α : Type} (place : String) : Param α → Except GraphError α
  | .value v => .ok v
  | .promise p => .error (.assertion s!"cannot use a promise in the {place} value: {p.render}")

/-- The known value of a field that may be left out. -/
def known? {α : Type} (place : String) : Option (Param α) → Except GraphError (Option α)
  | none => .ok none
  | some p => (p.known place).map some

end Param

end Workflow
