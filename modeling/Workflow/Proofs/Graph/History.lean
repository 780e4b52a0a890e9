import Workflow.Graph.Workspace

/-!
# Histories of workspaces

An `Edit` is one call of an author on a workspace, and `Workspace.perform` is what the call makes of
it. A refused call changes nothing, except that the steps of a chain before the refused one stand.
`Workspace.Reachable` are the workspaces that a history of calls leads to from one empty graph.
-/

namespace Workflow

/-- One call of an author. The first number says which of the graphs is meant. -/
inductive Edit where
  | add (graph : Nat) (name : Option String) (entity : Nat) (bindings : List (Binding Promise))
  | order (graph : Nat) (before after : Handle)
  | chain (graph : Nat) (cursor : Handle) (rest : List Handle)
  | override (graph : Nat) (handle : Handle) (overrides : Overrides)
  | clone (graph : Nat)

namespace Edit

/-- The handles that a call gives. -/
def handles : Edit → List Handle
  | .add _ _ _ bindings => bindings.flatMap fun b => b.data.references.map (·.node)
  | .order _ before after => [before, after]
  | .chain _ cursor rest => cursor :: rest
  | .override _ handle _ => [handle]
  | .clone _ => []

/-- All handles that a call gives fit a position. -/
def InRange (e : Edit) : Prop := ∀ h ∈ e.handles, h < Graph.positions

instance (e : Edit) : Decidable e.InRange := by
  unfold InRange
  infer_instance

end Edit

namespace Workspace

/-- What a call that may be refused leaves. -/
def orSame (w : Workspace) : Except GraphError Workspace → Workspace
  | .ok w' => w'
  | .error _ => w

/-- What a call leaves. -/
def perform (w : Workspace) : Edit → Workspace
  | .add i name entity bindings => w.orSame ((w.addNode i name entity bindings).map (·.1))
  | .order i before after => w.orSame (w.runsBefore i before after)
  | .chain i cursor rest => (w.chain i cursor rest).1
  | .override i h o => w.orSame (w.override i h o)
  | .clone i => w.clone i

/-- The workspaces that calls of an allowed kind lead to. -/
inductive Reachable (allowed : Edit → Prop) : Workspace → Prop where
  | start (entities : List RunEntity) : Reachable allowed (.ofEntities entities)
  | perform {w : Workspace} (e : Edit) : Reachable allowed w → allowed e →
      Reachable allowed (w.perform e)

/-- What a list of calls leaves. -/
def run (w : Workspace) (edits : List Edit) : Workspace := edits.foldl perform w

theorem Reachable.run {allowed : Edit → Prop} {edits : List Edit} : ∀ {w : Workspace},
    Reachable allowed w → (∀ e ∈ edits, allowed e) → Reachable allowed (w.run edits) := by
  induction edits with
  | nil => exact fun hw _ => hw
  | cons e edits ih =>
    intro w hw hall
    exact ih (hw.perform e (hall e (by simp))) fun e he => hall e (List.mem_cons_of_mem _ he)

theorem reachable_run {allowed : Edit → Prop} {edits : List Edit} (entities : List RunEntity)
    (h : ∀ e ∈ edits, allowed e) : Reachable allowed ((ofEntities entities).run edits) :=
  (Reachable.start entities).run h

/-- A property of outcomes that refusals have, too. -/
theorem orSame_induction {motive : Workspace → Prop} {w : Workspace}
    {r : Except GraphError Workspace} (hw : motive w) (hr : ∀ w', r = .ok w' → motive w') :
    motive (w.orSame r) := by
  cases r with
  | ok w' => exact hr w' rfl
  | error e => exact hw

end Workspace

end Workflow
