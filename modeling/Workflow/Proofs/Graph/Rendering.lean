import Workflow.Graph.Spec
import Workflow.Proofs.Graph.BindingTree
import Workflow.Proofs.Graph.TopologicalOrder

/-!
# Rendered graphs

Nodes of a graph refer to each other by handles, nodes of a rendered graph by ids, which overrides
may have changed in between.

* `toSpec_eq_ok`: when a graph is rendered, and what every node then looks like.
* `Consistent.toSpec_eq_ok`: a consistent graph is refused for an id used twice only.
* `history_rendered`: after any history a rendered graph has the nodes, the dependencies and the
  inputs of the graph, under the present ids, each of which names one node; and it has no circle.
-/

namespace Workflow

variable {g : Graph} {entityOf : Nat → RunEntity} {spec : WorkflowSpec}

/-- The node of one id is among those that the node of another waits for. -/
def WorkflowSpec.Precedes (spec : WorkflowSpec) (a b : String) : Prop :=
  ∃ node ∈ spec.nodes, node.id = b ∧ a ∈ node.dependencyIds

namespace Graph

/-! ## Accepted graphs -/

/-- Nothing is found twice where nothing stands twice. -/
theorem duplicateId?_eq_none {ids : List String} : ∀ {seen : List String},
    duplicateId? seen ids = none ↔ (∀ id ∈ ids, id ∉ seen) ∧ ids.Nodup := by
  induction ids with
  | nil => simp [duplicateId?]
  | cons id ids ih =>
    intro seen
    rw [duplicateId?]
    split
    · rename_i hseen
      rw [List.contains_iff_mem] at hseen
      simp [hseen]
    · rename_i hseen
      rw [List.contains_iff_mem] at hseen
      rw [ih, List.nodup_cons]
      simp only [List.mem_cons, not_or, forall_eq_or_imp]
      constructor
      · rintro ⟨hids, hnodup⟩
        exact ⟨⟨hseen, fun x hx => (hids x hx).2⟩, fun hid => (hids id hid).1 rfl, hnodup⟩
      · rintro ⟨⟨-, hids⟩, hid, hnodup⟩
        refine ⟨fun x hx => ⟨?_, hids x hx⟩, hnodup⟩
        rintro rfl
        exact hid hx

/-- **A graph is accepted** when no id is used twice and nothing runs in a circle. -/
theorem validate_eq_ok : g.validate = .ok () ↔
    (g.nodes.map (·.id)).Nodup ∧ Order.isCyclic g.edges g.size = false := by
  have hids : duplicateId? [] (g.nodes.map (·.id)) = none ↔ (g.nodes.map (·.id)).Nodup := by
    rw [duplicateId?_eq_none]
    simp
  rw [← hids, validate]
  cases duplicateId? [] (g.nodes.map (·.id)) with
  | some id => simp
  | none => cases Order.isCyclic g.edges g.size <;> simp

/-! ## Rendered nodes -/

/-- The output that a promise stands for, by the present id of its node. -/
def target (g : Graph) (p : Promise) : OutputReference := ⟨g.idAt (position p.node), p.var⟩

/-- A node with handles replaced by present ids. -/
def rendered (g : Graph) (entity : RunEntity) (node : Node) : NodeSpec where
  id := node.id
  metadata := node.metadata
  dependencyIds := node.dependencies.map fun h => g.idAt (position h)
  bindings := node.bindings.map (·.relabel g.target)
  overrides := ⟨node.resources.getD .empty,
    if node.extendedResources.isEmpty then none else some node.extendedResources⟩
  containerImage := node.containerImage
  podTemplate := node.podTemplate
  aliases := node.aliases
  subNodeMetadata := if entity.isArrayMap then some entity.subNodeMetadata else none

/-- All handles that a node holds are those of nodes. -/
def Closed (g : Graph) (node : Node) : Prop :=
  (∀ d ∈ node.dependencies, position d < g.size) ∧
    ∀ b ∈ node.bindings, ∀ p ∈ b.data.references, position p.node < g.size

theorem idAt_eq {i : Nat} {node : Node} (h : g.nodes[i]? = some node) : g.idAt i = node.id := by
  simp [idAt, h]

theorem idOf_eq_ok (h : Handle) (id : String) :
    g.idOf h = .ok id ↔ position h < g.size ∧ g.idAt (position h) = id := by
  unfold idOf node? size
  cases hnode : g.nodes[position h]? with
  | none =>
    have := List.getElem?_eq_none_iff.1 hnode
    simp only [reduceCtorEq, false_iff, not_and]
    omega
  | some node =>
    have := (List.getElem?_eq_some_iff.1 hnode).1
    simp [this, idAt_eq hnode]

theorem referenceOf_eq_ok (p : Promise) (r : OutputReference) :
    g.referenceOf p = .ok r ↔ position p.node < g.size ∧ g.target p = r := by
  rw [referenceOf, Outcome.bind_eq_ok]
  simp only [idOf_eq_ok, Outcome.pure_eq_ok]
  constructor
  · rintro ⟨id, ⟨hlt, rfl⟩, rfl⟩
    exact ⟨hlt, rfl⟩
  · rintro ⟨hlt, rfl⟩
    exact ⟨_, ⟨hlt, rfl⟩, rfl⟩

theorem bindingSpec_eq_ok (b : Binding Promise) (b' : Binding OutputReference) :
    g.bindingSpec b = .ok b' ↔
      (∀ p ∈ b.data.references, position p.node < g.size) ∧ b.relabel g.target = b' := by
  rw [bindingSpec, Outcome.bind_eq_ok]
  simp only [BindingTree.resolve_eq_ok referenceOf_eq_ok, Outcome.pure_eq_ok]
  constructor
  · rintro ⟨data, ⟨hlt, rfl⟩, rfl⟩
    exact ⟨hlt, rfl⟩
  · rintro ⟨hlt, rfl⟩
    exact ⟨_, ⟨hlt, rfl⟩, rfl⟩

/-- **A node is rendered** when the handles it holds are those of nodes. -/
theorem nodeSpec_eq_ok (entity : RunEntity) (node : Node) (r : NodeSpec) :
    g.nodeSpec entity node = .ok r ↔ g.Closed node ∧ g.rendered entity node = r := by
  rw [nodeSpec, Outcome.bind_eq_ok]
  simp only [Outcome.bind_eq_ok, Outcome.mapM_eq_ok_iff idOf_eq_ok,
    Outcome.mapM_eq_ok_iff bindingSpec_eq_ok, Outcome.pure_eq_ok]
  constructor
  · rintro ⟨ids, ⟨hids, rfl⟩, bindings, ⟨hbindings, rfl⟩, rfl⟩
    exact ⟨⟨hids, hbindings⟩, rfl⟩
  · rintro ⟨⟨hids, hbindings⟩, rfl⟩
    exact ⟨_, ⟨hids, rfl⟩, _, ⟨hbindings, rfl⟩, rfl⟩

/-- **A graph is rendered** when it is accepted and its nodes can be rendered. -/
theorem toSpec_eq_ok : g.toSpec entityOf = .ok spec ↔
    g.validate = .ok () ∧ (∀ node ∈ g.nodes, g.Closed node) ∧
      spec = ⟨g.nodes.map fun node => g.rendered (entityOf node.entity) node⟩ := by
  have hnodes : ∀ rs, g.nodes.mapM (fun node => g.nodeSpec (entityOf node.entity) node) = .ok rs ↔
      (∀ node ∈ g.nodes, g.Closed node) ∧
        g.nodes.map (fun node => g.rendered (entityOf node.entity) node) = rs :=
    fun _ => Outcome.mapM_eq_ok_iff fun node r => nodeSpec_eq_ok (entityOf node.entity) node r
  rw [toSpec, Outcome.bind_eq_ok]
  simp only [Outcome.bind_eq_ok, Outcome.pure_eq_ok, hnodes]
  constructor
  · rintro ⟨⟨⟩, hvalid, _, ⟨hclosed, rfl⟩, rfl⟩
    exact ⟨hvalid, hclosed, rfl⟩
  · rintro ⟨hvalid, hclosed, rfl⟩
    exact ⟨(), hvalid, _, ⟨hclosed, rfl⟩, rfl⟩

/-! ## Ids in place of handles -/

/-- Where ids are distinct, an id tells the node. -/
theorem idAt_inj (hids : (g.nodes.map (·.id)).Nodup) {i j : Nat} (hi : i < g.size)
    (hj : j < g.size) (h : g.idAt i = g.idAt j) : i = j := by
  rw [idAt_eq (List.getElem?_eq_getElem hi), idAt_eq (List.getElem?_eq_getElem hj)] at h
  have hi' : i < (g.nodes.map (·.id)).length := by simpa [size] using hi
  have hj' : j < (g.nodes.map (·.id)).length := by simpa [size] using hj
  have hget : (g.nodes.map (·.id))[i] = (g.nodes.map (·.id))[j] := by
    rw [List.getElem_map, List.getElem_map]
    exact h
  exact hids.getElem_inj_iff.1 hget

/-- Each id of a node stands at one position. -/
theorem existsUnique_position (hids : (g.nodes.map (·.id)).Nodup) {i : Nat} (hi : i < g.size) :
    ∃! j : Nat, g.nodes[j]?.map (fun node : Node => node.id) = some (g.idAt i) := by
  have hnode := List.getElem?_eq_getElem hi
  refine ⟨i, by simp only [hnode, Option.map_some, idAt_eq hnode], fun j hj => ?_⟩
  obtain ⟨node, hj, hid⟩ := Option.map_eq_some_iff.1 hj
  refine idAt_inj hids (List.getElem?_eq_some_iff.1 hj).1 hi ?_
  rw [idAt_eq hj, hid]

theorem Consistent.closed (hg : g.Consistent) : ∀ node ∈ g.nodes, g.Closed node := by
  intro node hnode
  obtain ⟨i, hi⟩ := List.mem_iff_getElem?.1 hnode
  have hdeps := dependenciesAt_eq hi
  have hlt : ∀ d ∈ node.dependencies, position d < g.size := by
    intro d hd
    rw [← hdeps] at hd
    rw [position_eq (hg.in_range i d hd)]
    exact hg.exist i d hd
  exact ⟨hlt, fun b hb p hp => hlt _ (hg.earlier i node hi b hb p hp).2⟩

/-- **A consistent graph is rendered** when its ids are distinct, and never else. -/
theorem Consistent.toSpec_eq_ok (hg : g.Consistent) : g.toSpec entityOf = .ok spec ↔
    (g.nodes.map (·.id)).Nodup ∧
      spec = ⟨g.nodes.map fun node => g.rendered (entityOf node.entity) node⟩ := by
  have hcyclic : Order.isCyclic g.edges g.size = false := by rw [Order.isCyclic, hg.isOrder]; rfl
  rw [Graph.toSpec_eq_ok, validate_eq_ok]
  constructor
  · rintro ⟨⟨hids, -⟩, -, rfl⟩
    exact ⟨hids, rfl⟩
  · rintro ⟨hids, rfl⟩
    exact ⟨⟨hids, hcyclic⟩, hg.closed, rfl⟩

/-- In a rendered graph dependencies lead from id to id as they lead from node to node. -/
theorem Consistent.transGen_precedes (hg : g.Consistent) (hids : (g.nodes.map (·.id)).Nodup)
    {a b : String} (h : Relation.TransGen (WorkflowSpec.Precedes
      ⟨g.nodes.map fun node => g.rendered (entityOf node.entity) node⟩) a b) :
    ∃ i j, g.idAt i = a ∧ g.idAt j = b ∧ i < g.size ∧ j < g.size ∧
      Relation.TransGen g.Precedes i j := by
  have hstep : ∀ {a b : String}, WorkflowSpec.Precedes
      ⟨g.nodes.map fun node => g.rendered (entityOf node.entity) node⟩ a b →
      ∃ i j, g.idAt i = a ∧ g.idAt j = b ∧ i < g.size ∧ j < g.size ∧ g.Precedes i j := by
    rintro a b ⟨r, hr, rfl, ha⟩
    obtain ⟨node, hnode, rfl⟩ := List.mem_map.1 hr
    obtain ⟨d, hd, rfl⟩ := List.mem_map.1 ha
    obtain ⟨j, hj⟩ := List.mem_iff_getElem?.1 hnode
    have hdj : d ∈ g.dependenciesAt j := by rwa [dependenciesAt_eq hj]
    rw [position_eq (hg.in_range j d hdj)]
    exact ⟨d, j, rfl, idAt_eq hj, hg.exist j d hdj, (List.getElem?_eq_some_iff.1 hj).1, hdj⟩
  induction h with
  | single hab =>
    obtain ⟨i, j, hi, hj, hin, hjn, hij⟩ := hstep hab
    exact ⟨i, j, hi, hj, hin, hjn, .single hij⟩
  | tail _ hbc ih =>
    obtain ⟨i, j, hi, hj, hin, hjn, hij⟩ := ih
    obtain ⟨j', k, hj', hk, hjn', hkn, hjk⟩ := hstep hbc
    -- the two steps meet in one id, hence in one node
    obtain rfl := idAt_inj hids hjn hjn' (hj.trans hj'.symm)
    exact ⟨i, k, hi, hk, hin, hkn, hij.tail hjk⟩

end Graph

namespace Workspace

variable {w : Workspace}

/-- **After any history a rendered graph is the graph under present ids.** Each node keeps its place
and its inputs; handles become the ids that their nodes have now, each of which names one node;
promised inputs come from nodes that are waited for; and no node waits for itself. -/
theorem history_rendered (hw : w.Reachable Edit.InRange) (hg : g ∈ w.graphs)
    (hspec : g.toSpec entityOf = .ok spec) :
    (spec.nodes.map (·.id)).Nodup ∧
      List.Forall₂ (fun node r =>
        r.id = node.id ∧
        r.dependencyIds = node.dependencies.map g.idAt ∧
        r.dependencyIds.Nodup ∧
        (∀ id ∈ r.dependencyIds, ∃! i : Nat, spec.nodes[i]?.map (fun r : NodeSpec => r.id) = some id) ∧
        r.bindings = node.bindings.map (·.relabel fun p => ⟨g.idAt p.node, p.var⟩) ∧
        ∀ b ∈ r.bindings, ∀ o ∈ b.data.references, o.nodeId ∈ r.dependencyIds)
        g.nodes spec.nodes ∧
      ∀ id, ¬ Relation.TransGen spec.Precedes id id := by
  have hc := hw.consistent g hg
  obtain ⟨hids, rfl⟩ := hc.toSpec_eq_ok.1 hspec
  have hspecIds : (g.nodes.map fun node => g.rendered (entityOf node.entity) node).map (·.id) =
      g.nodes.map (·.id) := by
    rw [List.map_map]
    rfl
  refine ⟨by rwa [hspecIds], ?_, ?_⟩
  · rw [List.forall₂_map_right_iff, List.forall₂_same]
    intro node hnode
    obtain ⟨i, hi⟩ := List.mem_iff_getElem?.1 hnode
    have hdeps := Graph.dependenciesAt_eq hi
    have hposition : ∀ d ∈ node.dependencies, Graph.position d = d := by
      intro d hd
      rw [← hdeps] at hd
      exact Graph.position_eq (hc.in_range i d hd)
    have hexist : ∀ d ∈ node.dependencies, d < g.size := by
      intro d hd
      rw [← hdeps] at hd
      exact hc.exist i d hd
    have hdepIds : (g.rendered (entityOf node.entity) node).dependencyIds =
        node.dependencies.map g.idAt :=
      List.map_congr_left fun d hd => by rw [hposition d hd]
    refine ⟨rfl, hdepIds, ?_, ?_, ?_, ?_⟩
    · rw [hdepIds]
      refine List.Nodup.map_on (fun a ha b hb h => ?_) (hdeps ▸ hc.nodup i)
      exact Graph.idAt_inj hids (hexist a ha) (hexist b hb) h
    · intro id hid
      rw [hdepIds] at hid
      obtain ⟨d, hd, rfl⟩ := List.mem_map.1 hid
      have hposition : ∀ i : Nat, (g.nodes.map fun node =>
          g.rendered (entityOf node.entity) node)[i]?.map (fun r : NodeSpec => r.id) =
            g.nodes[i]?.map (fun node : Node => node.id) := by
        intro i
        rw [List.getElem?_map, Option.map_map]
        rfl
      simp only [hposition]
      exact Graph.existsUnique_position hids (hexist d hd)
    · refine List.map_congr_left fun b (hb : b ∈ node.bindings) => ?_
      refine congrArg (Binding.mk b.var) (BindingTree.relabel_congr fun p hp => ?_)
      rw [Graph.target, hposition p.node (hc.earlier i node hi b hb p hp).2]
    · intro r hr o ho
      obtain ⟨b, hb, rfl⟩ := List.mem_map.1 hr
      rw [Binding.relabel, BindingTree.references_relabel] at ho
      obtain ⟨p, hp, rfl⟩ := List.mem_map.1 ho
      exact List.mem_map.2 ⟨p.node, (hc.earlier i node hi b hb p hp).2, rfl⟩
  · -- a circle of ids would be a circle of nodes
    intro id hcycle
    obtain ⟨i, j, hi, hj, hin, hjn, hij⟩ := hc.transGen_precedes hids hcycle
    obtain rfl := Graph.idAt_inj hids hin hjn (hi.trans hj.symm)
    rw [← hc.leads_eq] at hij
    exact hc.acyclic i hij

/-- A history that renames a node after another was made to wait for it. -/
def renamingEdits : List Edit :=
  [.add 0 (some "make") 0 [], .add 0 (some "use") 0 [⟨"x", .collection [.reference ⟨0, "o"⟩]⟩],
    .override 0 0 { nodeName := some (.value "built") }]

theorem history_rendered_sample : (∀ e ∈ renamingEdits, e.InRange) ∧
    ∃ spec, ((ofEntities [default]).run renamingEdits).toSpec 0 = .ok spec ∧
      spec.nodes.map (fun r => (r.id, r.dependencyIds)) = [("built", []), ("use", ["built"])] ∧
      (spec.nodes.map (·.id)).Nodup := by
  have hrange : ∀ e ∈ renamingEdits, e.InRange := by decide
  have hreach := reachable_run [default] hrange
  have hmem := graph_mem (w := (ofEntities [default]).run renamingEdits) (i := 0)
    (by decide +kernel)
  have hspec : ((ofEntities [default]).run renamingEdits).toSpec 0 = .ok _ :=
    (hreach.consistent _ hmem).toSpec_eq_ok.2 ⟨by decide +kernel, rfl⟩
  exact ⟨hrange, _, hspec, by decide +kernel, (history_rendered hreach hmem hspec).1⟩

end Workspace

end Workflow
