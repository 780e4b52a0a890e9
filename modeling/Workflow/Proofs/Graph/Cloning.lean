import Workflow.Proofs.Graph.Journal
import Workflow.Proofs.Graph.Rendering

/-!
# What calls on a clone change

A clone has nodes of its own and runs the same entities, so an override through the clone shows in
the graph it was made from, in one place.

* `Edit.graph`: the graph that a call is on. `graph_run` says that calls on other graphs leave a
  graph as it is.
* `NodeSpec.after`: a rendered node after calls on its entity. `toSpec_follows` says that a graph
  renders to such nodes when calls have changed the entities.
* `clone_isolated`: after any calls on a clone a graph is as it was, and renders as before but for
  what they wrote to the instances of array maps.
-/

namespace Workflow

/-! ## Graphs that no call is on -/

/-- The graph that a call is on; for a clone, the graph that is cloned. -/
def Edit.graph : Edit → Nat
  | .add i _ _ _ => i
  | .order i _ _ => i
  | .chain i _ _ => i
  | .override i _ _ => i
  | .clone i => i

namespace Workspace

variable {w : Workspace} {i : Nat}

/-- A call rewrites no graph or the one it is on, or it adds a clone of that one. -/
theorem Step.graphs {w w' : Workspace} {j j' : Journal} {e : Edit} (h : Step w j e w' j') :
    w'.graphs = w.graphs ∨ (∃ g, w'.graphs = w.graphs.set e.graph g) ∨
      w'.graphs = w.graphs ++ [w.graph e.graph] := by
  cases h with
  | refused => exact .inl rfl
  | added => exact .inr (.inl ⟨_, rfl⟩)
  | ordered => exact .inr (.inl ⟨_, rfl⟩)
  | chained => exact .inr (.inl ⟨_, rfl⟩)
  | overridden _ _ _ hgraphs => exact .inr (.inl ⟨_, hgraphs⟩)
  | cloned => exact .inr (.inr rfl)

/-- **A call on another graph** leaves a graph as it is, and where it is. -/
theorem graph_perform {e : Edit} (hi : i < w.graphs.length) (he : e.graph ≠ i) :
    i < (w.perform e).graphs.length ∧ (w.perform e).graph i = w.graph i := by
  unfold graph
  rcases (step_perform w .empty e).graphs with hsame | ⟨g, hset⟩ | hclone
  · rw [hsame]
    exact ⟨hi, rfl⟩
  · rw [hset, List.length_set, List.getD_eq_getElem?_getD, List.getElem?_set_ne he,
      ← List.getD_eq_getElem?_getD]
    exact ⟨hi, rfl⟩
  · rw [hclone, List.length_append, List.getD_eq_getElem?_getD, List.getElem?_append_left hi,
      ← List.getD_eq_getElem?_getD]
    exact ⟨Nat.lt_add_right _ hi, rfl⟩

theorem graph_run {edits : List Edit} : ∀ {w : Workspace}, i < w.graphs.length →
    (∀ e ∈ edits, e.graph ≠ i) → (w.run edits).graph i = w.graph i := by
  induction edits with
  | nil => exact fun _ _ => rfl
  | cons e edits ih =>
    intro w hi hedits
    obtain ⟨hlt, hgraph⟩ := graph_perform hi (hedits e (by simp))
    exact (ih hlt fun e he => hedits e (List.mem_cons_of_mem _ he)).trans hgraph

end Workspace

/-! ## Rendering with changed entities -/

/-- A rendered node after calls on the entity it runs: they wrote to the instances, if it has
any. -/
def NodeSpec.after (calls : List Overrides) (r : NodeSpec) : NodeSpec :=
  { r with subNodeMetadata := r.subNodeMetadata.map (Overrides.writeAll calls) }

namespace Graph

variable {g : Graph} {entityOf entityOf' : Nat → RunEntity} {callsOf : Nat → List Overrides}

theorem nodeSpec_follows {e e' : RunEntity} {calls : List Overrides} (h : e.Follows calls e')
    (node : Node) : g.nodeSpec e' node = (g.nodeSpec e node).map (·.after calls) := by
  have hinstances : (if e'.isArrayMap then some e'.subNodeMetadata else none) =
      (if e.isArrayMap then some e.subNodeMetadata else none).map (Overrides.writeAll calls) := by
    rw [h.isArrayMap, h.subNodeMetadata]
    split <;> rfl
  unfold nodeSpec
  rw [hinstances]
  cases node.dependencies.mapM g.idOf with
  | error err => rfl
  | ok ids => cases node.bindings.mapM g.bindingSpec <;> rfl

/-- **A graph renders as before calls on its entities**, but for the instances of each node. -/
theorem toSpec_follows (h : ∀ k, (entityOf k).Follows (callsOf k) (entityOf' k)) :
    g.toSpec entityOf' = (g.toSpec entityOf).map fun spec =>
      ⟨List.zipWith (fun node r => r.after (callsOf node.entity)) g.nodes spec.nodes⟩ := by
  have hnodes :=
    Outcome.mapM_map (fun node => nodeSpec_follows (g := g) (h node.entity) node) g.nodes
  unfold toSpec
  rw [hnodes]
  cases g.validate with
  | error err => rfl
  | ok _ => cases g.nodes.mapM fun node => g.nodeSpec (entityOf node.entity) node <;> rfl

end Graph

namespace Workspace

/-- **Calls on a clone leave a graph as it was.** Its nodes, its order and its check are the same,
and it renders as before, but for the instances of array maps, to which the calls through the clone
wrote. -/
theorem clone_isolated {w : Workspace} {i : Nat} {edits : List Edit} (hi : i < w.graphs.length)
    (hedits : ∀ e ∈ edits, e.graph = w.graphs.length) :
    let w' := (w.clone i).run edits
    let calls := (w.clone i).journal edits
    w'.graph i = w.graph i ∧
      (w'.graph i).topologicalOrder = (w.graph i).topologicalOrder ∧
      (w'.graph i).validate = (w.graph i).validate ∧
      w'.toSpec i = (w.toSpec i).map fun spec =>
        ⟨List.zipWith (fun node r => r.after (calls.ofEntity node.entity))
          (w.graph i).nodes spec.nodes⟩ := by
  intro w' calls
  have hlt : i < (w.clone i).graphs.length := by
    rw [show (w.clone i).graphs = w.graphs ++ [w.graph i] from rfl, List.length_append]
    exact Nat.lt_add_right _ hi
  have hgraph : w'.graph i = w.graph i := by
    rw [graph_run hlt fun e he => by rw [hedits e he]; exact Nat.ne_of_gt hi, graph_clone,
      if_neg (Nat.ne_of_lt hi)]
  -- a clone leaves the entities, so they follow the calls from where they were
  have hfollows : ∀ k, (w.entity k).Follows (calls.ofEntity k) (w'.entity k) :=
    follows_run (w.clone i) edits
  refine ⟨hgraph, by rw [hgraph], by rw [hgraph], ?_⟩
  unfold toSpec
  rw [hgraph]
  exact Graph.toSpec_follows hfollows

/-- A graph with a node of an array map and one of a task. -/
def fanEdits : List Edit := [.add 0 none 0 [], .add 0 none 1 []]

/-- Overrides of both nodes of its clone, which is then ordered and gets a node more. -/
def fanCloneEdits : List Edit :=
  [.override 1 0 { name := some "inner" }, .override 1 1 { name := some "copy" }, .order 1 0 1,
    .add 1 none 0 []]

theorem clone_isolated_instances :
    let w := (ofEntities [.ofName .arrayMap "each", .ofName .task "sum"]).run fanEdits
    0 < w.graphs.length ∧ (∀ e ∈ fanCloneEdits, e.graph = w.graphs.length) ∧
      ∃ spec spec', w.toSpec 0 = .ok spec ∧ ((w.clone 0).run fanCloneEdits).toSpec 0 = .ok spec' ∧
        spec.nodes.map (·.subNodeMetadata) = [some { name := "each" }, none] ∧
        spec'.nodes.map (·.subNodeMetadata) = [some { name := "inner" }, none] ∧
        spec'.nodes.map (·.metadata) = spec.nodes.map (·.metadata) := by
  intro w
  have hlt : 0 < w.graphs.length := by decide +kernel
  have hedits : ∀ e ∈ fanCloneEdits, e.graph = w.graphs.length := by decide +kernel
  have hreach : w.Reachable Edit.InRange := reachable_run _ (by decide)
  have hspec : w.toSpec 0 = .ok _ :=
    (hreach.consistent _ (graph_mem hlt)).toSpec_eq_ok.2 ⟨by decide +kernel, rfl⟩
  obtain ⟨-, -, -, hafter⟩ := clone_isolated hlt hedits
  rw [hspec] at hafter
  exact ⟨hlt, hedits, _, _, hspec, hafter, by decide +kernel, by decide +kernel, by decide +kernel⟩

end Workspace

end Workflow
