import Workflow.Proofs.Graph.Consistency

/-!
# What holds after any history

* `Reachable.consistent`: whatever an author calls, accepted or refused, every graph of the
  workspace stays consistent.
* `history_consistent`: in particular no history makes nodes run in a circle.
-/

namespace Workflow.Workspace

variable {w w' : Workspace} {i : Nat}

/-- What holds of every graph of a workspace, and of an empty one, holds of the graph at any
place. -/
theorem graph_induction {motive : Graph → Prop} (hempty : motive .empty)
    (hw : ∀ g ∈ w.graphs, motive g) (i : Nat) : motive (w.graph i) := by
  unfold graph
  rw [List.getD_eq_getElem?_getD]
  cases h : w.graphs[i]? with
  | none => exact hempty
  | some g => exact hw g (List.mem_of_getElem? h)

theorem graph_mem (h : i < w.graphs.length) : w.graph i ∈ w.graphs := by
  unfold graph
  rw [List.getD_eq_getElem?_getD, List.getElem?_eq_getElem h]
  exact List.getElem_mem h

theorem mem_setGraph {g x : Graph} (hx : x ∈ (w.setGraph i g).graphs) : x ∈ w.graphs ∨ x = g :=
  List.mem_or_eq_of_mem_set hx

/-- A new node goes into one graph, under an id of its own. -/
theorem addNode_eq_ok {name : Option String} {entity : Nat} {bindings : List (Binding Promise)}
    {h : Handle} (hok : w.addNode i name entity bindings = .ok (w', h)) :
    ∃ g id, (w.graph i).insert id entity (w.entity entity).metadata bindings = .ok (g, h) ∧
      w' = w.setGraph i g := by
  cases name with
  | some name =>
    obtain ⟨⟨g, k⟩, hadd, hret⟩ := Outcome.bind_eq_ok.1 hok
    obtain ⟨rfl, rfl⟩ := Prod.mk.inj (Outcome.pure_eq_ok.1 hret)
    obtain ⟨id, hid⟩ := Graph.insert_of_addNodeWithId hadd
    exact ⟨g, id, hid, rfl⟩
  | none =>
    obtain ⟨⟨g, k⟩, hadd, hret⟩ := Outcome.bind_eq_ok.1 hok
    obtain ⟨rfl, rfl⟩ := Prod.mk.inj (Outcome.pure_eq_ok.1 hret)
    obtain ⟨id, hid⟩ := Graph.insert_of_addNode hadd
    exact ⟨g, id, hid, rfl⟩

/-- An override rewrites one node of one graph, and its entity. -/
theorem override_eq_ok {h : Handle} {o : Overrides} (hok : w.override i h o = .ok w') :
    ∃ node update, (w.graph i).node? h = some node ∧
      o.check (w.entity node.entity).taskConfig = .ok update ∧
      w'.entities = w.entities.set node.entity (update.applyToEntity (w.entity node.entity)) ∧
      w'.graphs = w.graphs.set i
        ⟨(w.graph i).nodes.modify (Graph.position h)
          (update.applyToNode (w.entity node.entity).isArrayMap), (w.graph i).edges⟩ := by
  unfold override at hok
  cases hnode : (w.graph i).node? h with
  | none => rw [hnode] at hok; cases hok
  | some node =>
    rw [hnode] at hok
    obtain ⟨update, hcheck, hret⟩ := Outcome.bind_eq_ok.1 hok
    obtain rfl := Outcome.pure_eq_ok.1 hret
    exact ⟨node, update, rfl, hcheck, rfl, rfl⟩

/-- **A call in range keeps every graph consistent.** -/
theorem consistent_perform {e : Edit} (he : e.InRange) (hw : ∀ g ∈ w.graphs, g.Consistent) :
    ∀ g ∈ (w.perform e).graphs, g.Consistent := by
  have hgraph := graph_induction Graph.Consistent.empty hw
  cases e with
  | add i name entity bindings =>
    refine orSame_induction (motive := fun w => ∀ g ∈ w.graphs, g.Consistent) hw ?_
    intro w' hok
    obtain ⟨⟨w₁, h⟩, hadd, rfl⟩ := Outcome.map_eq_ok.1 hok
    obtain ⟨g, id, hinsert, rfl⟩ := addNode_eq_ok hadd
    intro x hx
    rcases mem_setGraph hx with hx | rfl
    · exact hw x hx
    · refine (hgraph i).insert (fun b hb p hp => he _ ?_) hinsert
      exact List.mem_flatMap.2 ⟨b, hb, List.mem_map.2 ⟨p, hp, rfl⟩⟩
  | order i before after =>
    refine orSame_induction (motive := fun w => ∀ g ∈ w.graphs, g.Consistent) hw ?_
    intro w' hok
    obtain ⟨g, horder, hret⟩ := Outcome.bind_eq_ok.1 hok
    obtain rfl := Outcome.pure_eq_ok.1 hret
    intro x hx
    rcases mem_setGraph hx with hx | rfl
    · exact hw x hx
    · exact (hgraph i).runsBefore (he before (by simp [Edit.handles]))
        (he after (by simp [Edit.handles])) horder
  | chain i cursor rest =>
    intro x hx
    rcases mem_setGraph hx with hx | rfl
    · exact hw x hx
    · exact (hgraph i).chain (he cursor (by simp [Edit.handles]))
        fun h hh => he h (by simp [Edit.handles, hh])
  | override i h o =>
    refine orSame_induction (motive := fun w => ∀ g ∈ w.graphs, g.Consistent) hw ?_
    intro w' hok
    obtain ⟨node, update, -, -, -, hgraphs⟩ := override_eq_ok hok
    intro x hx
    rw [hgraphs] at hx
    rcases List.mem_or_eq_of_mem_set hx with hx | rfl
    · exact hw x hx
    · -- no override touches what the invariant speaks of
      exact (hgraph i).modify _ fun _ => ⟨rfl, rfl, rfl⟩
  | clone i =>
    intro x hx
    rcases List.mem_append.1 hx with hx | hx
    · exact hw x hx
    · rw [List.mem_singleton.1 hx]
      exact hgraph i

/-- **Every graph that calls in range lead to is consistent.** -/
theorem Reachable.consistent (hw : w.Reachable Edit.InRange) :
    ∀ g ∈ w.graphs, g.Consistent := by
  induction hw with
  | start entities =>
    intro g hg
    rw [List.mem_singleton.1 hg]
    exact Graph.Consistent.empty
  | perform e _ he ih => exact consistent_perform he ih

/-- **After any history of calls a graph is consistent**: handles are positions, the two records of
dependencies agree, promises point back to nodes that are waited for, and no node waits for itself
by way of others. -/
theorem history_consistent (hw : w.Reachable Edit.InRange) {g : Graph} (hg : g ∈ w.graphs) :
    g.Consistent ∧ ∀ v, ¬ Relation.TransGen g.Precedes v v := by
  have hc := hw.consistent g hg
  refine ⟨hc, ?_⟩
  rw [← hc.leads_eq]
  exact hc.acyclic

/-- A history with a nested promise, a chain, a refused ordering and a clone. -/
def sampleEdits : List Edit :=
  [.add 0 none 0 [], .add 0 (some "use") 0 [⟨"x", .collection [.reference ⟨0, "o"⟩]⟩],
    .add 0 none 0 [], .chain 0 2 [0, 1], .order 0 1 2, .clone 0]

theorem history_consistent_sample :
    (∀ e ∈ sampleEdits, e.InRange) ∧
      (((ofEntities [default]).run sampleEdits).graph 1).edges = [(0, 1), (2, 0)] ∧
      (((ofEntities [default]).run sampleEdits).graph 1).Consistent := by
  have hrange : ∀ e ∈ sampleEdits, e.InRange := by decide
  have hreach := reachable_run [default] hrange
  refine ⟨hrange, by decide +kernel, ?_⟩
  exact (history_consistent hreach (graph_mem (by decide +kernel))).1

end Workflow.Workspace
