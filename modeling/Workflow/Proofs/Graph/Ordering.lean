import Workflow.Proofs.Graph.Links

/-!
# Which orderings are accepted

* `runsBefore_of_exist`: what becomes of an ordering of two nodes that exist.
* `Linked.runsBefore_isOk_iff`: it is accepted when the second node does not lead back to the first.
  The shortcut for a node that is waited for already hides no circle.
* `order_outcome`: what an accepted ordering changes, what a refused one reports, and that the
  accepted ones are those that close no circle.
-/

namespace Workflow

open Relation

variable {g g' : Graph} {a b : Handle}

namespace Graph

theorem runsBefore_of_exist (ha : position a < g.size) (hb : position b < g.size) :
    g.runsBefore a b =
      if a ∈ g.dependenciesAt (position b) then .ok g
      else if position a = position b ∨ Order.hasPath g.edges (position b) (position a) then
        .error (.cycle (g.idAt (position a)) (g.idAt (position b)))
      else .ok ⟨g.nodes.modify (position b) (·.addDependency a),
        g.edges ++ [(position a, position b)]⟩ := by
  simp only [runsBefore, check, if_pos ha, if_pos hb, List.contains_iff_mem]
  rfl

/-- The dependencies of a graph with one more, of `b` on `a`. -/
def LeadsWith (g : Graph) (a b : Nat) (x y : Nat) : Prop := g.Leads x y ∨ x = a ∧ y = b

namespace Linked

theorem leadsWith_eq (hg : g.Linked) (a b : Nat) :
    Order.Leads (g.edges ++ [(a, b)]) = g.LeadsWith a b := by
  funext x y
  simp [Order.Leads, LeadsWith, hg.edge_iff]

/-- A dependency closes a circle when its target leads back to its source. -/
theorem acyclic_with_iff (hg : g.Linked) : (∀ v, ¬ TransGen (g.LeadsWith a b) v v) ↔
    ¬ ReflTransGen g.Leads b a := by
  rw [← hg.leadsWith_eq, ← hg.leads_eq]
  exact Order.acyclic_append_iff.trans (and_iff_right hg.acyclic)

theorem hasPath_iff (hg : g.Linked) : Order.hasPath g.edges b a = true ↔
    ReflTransGen g.Leads b a := by
  rw [Order.hasPath_iff, hg.leads_eq]

/-- **An ordering is accepted** when the second node does not lead back to the first. -/
theorem runsBefore_isOk_iff (hg : g.Linked) (ha : position a < g.size) (hb : position b < g.size) :
    (∃ g', g.runsBefore a b = .ok g') ↔ ¬ ReflTransGen g.Leads (position b) (position a) := by
  rw [runsBefore_of_exist ha hb]
  split
  · rename_i hmem
    refine iff_of_true ⟨g, rfl⟩ fun hback => ?_
    -- a node that is waited for leads to the one that waits, so no path leads back
    have hforth : Order.Leads g.edges (position a) (position b) :=
      (hg.edge_iff _ _).2 ⟨a, hmem, rfl⟩
    rw [← hg.leads_eq] at hback
    exact hg.acyclic _ (.head' hforth hback)
  · split
    · rename_i hcycle
      refine iff_of_false (fun ⟨_, h⟩ => nomatch h) (not_not.2 ?_)
      rcases hcycle with heq | hback
      · rw [heq]
      · exact hg.hasPath_iff.1 hback
    · rename_i hfree
      exact iff_of_true ⟨_, rfl⟩ fun hback => hfree (.inr (hg.hasPath_iff.2 hback))

end Linked

/-- What an accepted ordering leaves: the first node among those that the second waits for, and
every other node as it was. -/
theorem nodes_of_runsBefore (hok : g.runsBefore a b = .ok g') :
    g'.nodes[position b]? = (g.nodes[position b]?.map fun node =>
        { node with dependencies :=
            if a ∈ node.dependencies then node.dependencies else node.dependencies ++ [a] }) ∧
      ∀ n, n ≠ position b → g'.nodes[n]? = g.nodes[n]? := by
  obtain ⟨-, hb, h⟩ := runsBefore_eq_ok.1 hok
  have hnode : g.nodes[position b]? = some g.nodes[position b] := List.getElem?_eq_getElem hb
  have hdeps := dependenciesAt_eq hnode
  rw [hdeps] at h
  rcases h with ⟨hmem, rfl⟩ | ⟨hmem, -, -, rfl⟩
  · refine ⟨?_, fun _ _ => rfl⟩
    rw [hnode, Option.map_some, if_pos hmem]
  · refine ⟨?_, fun n hn => ?_⟩
    · rw [List.getElem?_modify, hnode]
      simp [Node.addDependency, Node.addOnce, hmem]
    · rw [List.getElem?_modify]
      simp [Ne.symm hn]

/-- **A repeated ordering** changes nothing. -/
theorem runsBefore_twice (hok : g.runsBefore a b = .ok g') : g'.runsBefore a b = .ok g' := by
  obtain ⟨ha, hb, h⟩ := runsBefore_eq_ok.1 hok
  rcases h with ⟨hmem, rfl⟩ | ⟨hmem, -, -, rfl⟩
  · exact hok
  · refine runsBefore_eq_ok.2 ⟨by simpa [size] using ha, by simpa [size] using hb, .inl ⟨?_, rfl⟩⟩
    rw [dependenciesAt_addDependency hb hmem, if_pos rfl]
    exact List.mem_append_right _ (List.mem_singleton.2 rfl)

end Graph

namespace Workspace

variable {w : Workspace} {i : Nat} {allowed : Edit → Prop}

/-- **An ordering of two nodes goes through** when they differ and no path of dependencies leads
back from the second to the first, that is, when the graph with the ordering in it has no circle.
It makes the first one of the nodes that the second waits for, and a repeated call changes nothing.
A refused call names both nodes by their present ids and leaves everything as it was. -/
theorem order_outcome (hw : w.Reachable allowed) (ha : a < Graph.positions)
    (hb : b < Graph.positions) (hasize : a < (w.graph i).size) (hbsize : b < (w.graph i).size) :
    let g := w.graph i
    ((∃ g', g.runsBefore a b = .ok g') ↔ a ≠ b ∧ ¬ TransGen g.Leads b a) ∧
      ((∃ g', g.runsBefore a b = .ok g') ↔ ∀ v, ¬ TransGen (g.LeadsWith a b) v v) ∧
      (∀ g', g.runsBefore a b = .ok g' →
        w.perform (.order i a b) = w.setGraph i g' ∧
        g'.nodes[b]? = (g.nodes[b]?.map fun node =>
          { node with dependencies :=
              if a ∈ node.dependencies then node.dependencies else node.dependencies ++ [a] }) ∧
        (∀ n, n ≠ b → g'.nodes[n]? = g.nodes[n]?) ∧
        g'.runsBefore a b = .ok g') ∧
      ∀ e, g.runsBefore a b = .error e →
        e = .cycle (g.idAt a) (g.idAt b) ∧ w.perform (.order i a b) = w := by
  intro g
  have hg : g.Linked := hw.linked i
  have hpa : Graph.position a = a := Graph.position_eq ha
  have hpb : Graph.position b = b := Graph.position_eq hb
  have hasize' : Graph.position a < g.size := by rwa [hpa]
  have hbsize' : Graph.position b < g.size := by rwa [hpb]
  have haccepted := hg.runsBefore_isOk_iff hasize' hbsize'
  rw [hpa, hpb] at haccepted
  refine ⟨?_, ?_, fun g' hok => ⟨?_, ?_⟩, fun e he => ⟨?_, ?_⟩⟩
  -- a path of any length leads from a node to itself, so the two must differ
  · rw [haccepted, reflTransGen_iff_eq_or_transGen, not_or]
  · rw [haccepted, hg.acyclic_with_iff]
  · have hcall : w.runsBefore i a b = .ok (w.setGraph i g') :=
      Outcome.bind_eq_ok.2 ⟨g', hok, rfl⟩
    simp only [perform, hcall, orSame]
  · have hnodes := Graph.nodes_of_runsBefore hok
    rw [hpb] at hnodes
    exact ⟨hnodes.1, hnodes.2, Graph.runsBefore_twice hok⟩
  · rw [Graph.runsBefore_of_exist hasize' hbsize', hpa, hpb] at he
    split at he
    · cases he
    split at he
    · cases he
      rfl
    · cases he
  · have hcall : w.runsBefore i a b = .error e := by
      unfold runsBefore
      rw [show (w.graph i).runsBefore a b = .error e from he]
      rfl
    simp only [perform, hcall, orSame]

/-- The third node of the sample leads to the second by way of the first, so it may be ordered
before the second, and not behind it. -/
theorem order_outcome_sample :
    let w := (ofEntities [default]).run sampleEdits
    let g := w.graph 0
    1 < Graph.positions ∧ 2 < Graph.positions ∧ 1 < g.size ∧ 2 < g.size ∧
      TransGen g.Leads 2 1 ∧ ¬ TransGen g.Leads 1 2 ∧
      (∃ g', g.runsBefore 2 1 = .ok g' ∧ g'.runsBefore 2 1 = .ok g') ∧
      g.runsBefore 1 2 = .error (.cycle "use" "n2") ∧ w.perform (.order 0 1 2) = w := by
  intro w g
  have hreach : w.Reachable Edit.InRange := reachable_run [default] (by decide)
  have hone : 1 < Graph.positions := by decide
  have htwo : 2 < Graph.positions := by decide
  have honesize : 1 < g.size := by decide +kernel
  have htwosize : 2 < g.size := by decide +kernel
  have hpath : TransGen g.Leads 2 1 :=
    .tail (.single ⟨2, by decide +kernel, rfl⟩) ⟨0, by decide +kernel, rfl⟩
  have hback : ¬ TransGen g.Leads 1 2 := fun h => by
    have hcircle := h.trans hpath
    rw [← (hreach.linked 0).leads_eq] at hcircle
    exact (hreach.linked 0).acyclic 1 hcircle
  obtain ⟨hforth, -, hchange, -⟩ := order_outcome hreach htwo hone htwosize honesize
  obtain ⟨hrefused, -, -, herror⟩ := order_outcome hreach hone htwo honesize htwosize
  obtain ⟨g', hok⟩ := hforth.2 ⟨by decide, hback⟩
  obtain ⟨e, he⟩ : ∃ e, g.runsBefore 1 2 = .error e := by
    cases h : g.runsBefore 1 2 with
    | error e => exact ⟨e, rfl⟩
    | ok g' => exact absurd hpath (hrefused.1 ⟨g', h⟩).2
  obtain ⟨rfl, hsame⟩ := herror e he
  have hids : g.idAt 1 = "use" ∧ g.idAt 2 = "n2" := by decide +kernel
  rw [hids.1, hids.2] at he
  exact ⟨hone, htwo, honesize, htwosize, hpath, hback, ⟨g', hok, (hchange g' hok).2.2.2⟩, he, hsame⟩

end Workspace

end Workflow
