import Workflow.Proofs.Graph.Reachable
import Workflow.Proofs.Order.DepthFirst

/-!
# Topological orders

* `Consistent.topologicalOrder_eq`: the order of a consistent graph is its finishing order, and no
  cycle is ever reported.
* `history_ordered`: after any history the order lists every handle once, and each node behind all
  those it waits for.
-/

namespace Workflow

variable {g : Graph}

namespace Graph.Consistent

theorem isOrder (hg : g.Consistent) :
    Order.isOrder g.edges (Order.finishOrder g.edges g.size) = true :=
  Order.isOrder_finishOrder hg.acyclic hg.edges_lt

/-- **A consistent graph has an order.** -/
theorem topologicalOrder_eq (hg : g.Consistent) :
    g.topologicalOrder = .ok (Order.finishOrder g.edges g.size) := by
  simp only [topologicalOrder, hg.isOrder, if_true]

/-- The handles of a consistent graph are its positions. -/
theorem handles_eq (hg : g.Consistent) : g.nodes.map (·.handle) = List.range g.size := by
  refine List.ext_getElem (by simp [size]) fun i h₁ h₂ => ?_
  have hi : i < g.nodes.length := by simpa using h₁
  rw [List.getElem_map, List.getElem_range]
  exact hg.handle_eq i _ (List.getElem?_eq_getElem hi)

/-- Each node stands behind those it waits for. -/
theorem idxOf_lt (hg : g.Consistent) {a b : Nat} (hab : g.Precedes a b) :
    (Order.finishOrder g.edges g.size).idxOf a < (Order.finishOrder g.edges g.size).idxOf b := by
  have hall := List.all_eq_true.1 hg.isOrder (a, b) ((hg.edge_iff a b).2 hab)
  exact of_decide_eq_true hall

end Graph.Consistent

namespace Workspace

variable {w : Workspace}

/-- **After any history a graph has an order** that lists the handle of every node once and each
node behind all those it waits for. -/
theorem history_ordered (hw : w.Reachable Edit.InRange) (hg : g ∈ w.graphs) :
    ∃ order, g.topologicalOrder = .ok order ∧ order.Nodup ∧
      order.Perm (g.nodes.map (·.handle)) ∧
      ∀ node ∈ g.nodes, ∀ d ∈ node.dependencies, d ∈ order ∧
        order.idxOf d < order.idxOf node.handle := by
  have hc := hw.consistent g hg
  have hperm : (Order.finishOrder g.edges g.size).Perm (g.nodes.map (·.handle)) := by
    rw [hc.handles_eq]
    exact Order.finishOrder_perm hc.acyclic fun e he => (hc.edges_lt e he).2
  refine ⟨_, hc.topologicalOrder_eq, ?_, hperm, ?_⟩
  · rw [hperm.nodup_iff, hc.handles_eq]
    exact List.nodup_range
  · intro node hnode d hd
    obtain ⟨i, hi⟩ := List.mem_iff_getElem?.1 hnode
    have hprec : g.Precedes d i := by
      unfold Graph.Precedes
      rw [Graph.dependenciesAt_eq hi]
      exact hd
    rw [hc.handle_eq i node hi]
    refine ⟨?_, hc.idxOf_lt hprec⟩
    rw [hperm.mem_iff, hc.handles_eq, List.mem_range]
    exact hc.exist i d hprec

theorem history_ordered_sample :
    (∀ e ∈ sampleEdits, e.InRange) ∧
      ∃ order, (((ofEntities [default]).run sampleEdits).graph 1).topologicalOrder = .ok order ∧
        order.Nodup ∧ ∀ node ∈ (((ofEntities [default]).run sampleEdits).graph 1).nodes,
          ∀ d ∈ node.dependencies, order.idxOf d < order.idxOf node.handle := by
  have hrange : ∀ e ∈ sampleEdits, e.InRange := by decide
  have hreach := reachable_run [default] hrange
  obtain ⟨order, hok, hnodup, -, hbefore⟩ :=
    history_ordered hreach (graph_mem (i := 1) (by decide +kernel))
  exact ⟨hrange, order, hok, hnodup, fun node hnode d hd => (hbefore node hnode d hd).2⟩

end Workspace

end Workflow
