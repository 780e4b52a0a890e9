import Workflow.Proofs.Graph.Ordering

/-!
# Orderings in any order

Whether an ordering is accepted depends on those accepted before it, and yet the order in which an
author calls them decides nothing.

* `Graph.orderAll`: orderings called one after the other. `orderAll_eq_error` says where they stop.
* `Graph.Gains`: what accepted orderings leave, told by the list of them.
* `Linked.orderAll_isOk_iff`: a list of orderings is accepted when the graph with all of them has no
  circle.
* `orderings_confluent`: so every order of the calls is accepted or none is, and all orders lead to
  the same dependencies.
-/

namespace Workflow

open Relation

variable {g g' g'' : Graph} {a b : Handle} {pairs rest : List (Handle × Handle)}

namespace Graph

/-- Orderings called one after the other, up to the first that is refused. -/
def orderAll (g : Graph) (pairs : List (Handle × Handle)) : Except GraphError Graph :=
  pairs.foldlM (fun g pair => g.runsBefore pair.1 pair.2) g

/-- The handle is a position, and that of a node. -/
def Has (g : Graph) (h : Handle) : Prop := h < positions ∧ h < g.size

instance (g : Graph) (h : Handle) : Decidable (g.Has h) := by
  unfold Has
  infer_instance

/-- The dependencies of a graph and of some orderings. -/
def LeadsWithAll (g : Graph) (pairs : List (Handle × Handle)) (x y : Nat) : Prop :=
  g.Leads x y ∨ (x, y) ∈ pairs

/-- Each node of the first graph is in the second one and waits there for the nodes that the orderings
name as well. Nothing else of it has changed. -/
structure Gains (g : Graph) (pairs : List (Handle × Handle)) (g' : Graph) : Prop where
  size : g'.size = g.size
  node : ∀ (n : Nat) (node : Node), g.nodes[n]? = some node → ∃ waits,
    g'.nodes[n]? = some { node with dependencies := waits } ∧
      ∀ d, d ∈ waits ↔ d ∈ node.dependencies ∨ (d, n) ∈ pairs

/-- The nodes of two graphs are the same, but for the order in which they list those they wait
for. -/
structure SameButOrder (g g' : Graph) : Prop where
  size : g'.size = g.size
  node : ∀ (n : Nat) (node : Node), g.nodes[n]? = some node → ∃ waits,
    g'.nodes[n]? = some { node with dependencies := waits } ∧
      ∀ d, d ∈ waits ↔ d ∈ node.dependencies

theorem Has.position_eq (h : g.Has a) : position a = a := Graph.position_eq h.1

/-! ## Calls one after the other -/

theorem orderAll_cons : g.orderAll ((a, b) :: rest) = g.runsBefore a b >>= (·.orderAll rest) :=
  List.foldlM_cons

/-- **Orderings stop** at the first that is refused, after all those before it. -/
theorem orderAll_eq_error {e : GraphError} (herror : g.orderAll pairs = .error e) :
    ∃ earlier a b later g', pairs = earlier ++ (a, b) :: later ∧ g.orderAll earlier = .ok g' ∧
      g'.runsBefore a b = .error e := by
  induction pairs generalizing g with
  | nil => cases herror
  | cons pair rest ih =>
    obtain ⟨a, b⟩ := pair
    rw [orderAll_cons] at herror
    cases hfirst : g.runsBefore a b with
    | error e' =>
      rw [hfirst] at herror
      cases herror
      exact ⟨[], a, b, rest, g, rfl, rfl, hfirst⟩
    | ok g₁ =>
      rw [hfirst] at herror
      obtain ⟨earlier, a', b', later, g', rfl, hok, hrefused⟩ := ih herror
      refine ⟨(a, b) :: earlier, a', b', later, g', rfl, ?_, hrefused⟩
      rw [orderAll_cons, hfirst]
      exact hok

/-! ## What accepted orderings leave -/

namespace Gains

theorem refl (g : Graph) : g.Gains [] g where
  size := rfl
  node n node hn := ⟨node.dependencies, hn, by simp⟩

theorem trans {later : List (Handle × Handle)} (h : g.Gains pairs g') (h' : g'.Gains later g'') :
    g.Gains (pairs ++ later) g'' := by
  refine ⟨h'.size.trans h.size, fun n node hn => ?_⟩
  obtain ⟨waits, hn', hwaits⟩ := h.node n node hn
  obtain ⟨waits', hn'', hwaits'⟩ := h'.node n _ hn'
  refine ⟨waits', hn'', fun d => ?_⟩
  rw [hwaits' d, hwaits d, List.mem_append, or_assoc]

/-- The list of orderings counts as a set. -/
theorem congr {order : List (Handle × Handle)} (h : g.Gains order g')
    (hmem : ∀ pair, pair ∈ order ↔ pair ∈ pairs) : g.Gains pairs g' := by
  refine ⟨h.size, fun n node hn => ?_⟩
  obtain ⟨waits, hn', hwaits⟩ := h.node n node hn
  exact ⟨waits, hn', fun d => by rw [hwaits d, hmem]⟩

/-- **An accepted ordering** is gained. -/
theorem of_runsBefore (hb : g.Has b) (hok : g.runsBefore a b = .ok g') : g.Gains [(a, b)] g' := by
  obtain ⟨htarget, hothers⟩ := nodes_of_runsBefore hok
  rw [hb.position_eq] at htarget hothers
  refine ⟨?_, fun n node hn => ?_⟩
  · obtain ⟨-, -, ⟨-, rfl⟩ | ⟨-, -, -, rfl⟩⟩ := runsBefore_eq_ok.1 hok
    · rfl
    · simp [Graph.size]
  · by_cases hnb : n = b
    · subst hnb
      rw [hn] at htarget
      refine ⟨_, htarget, fun d => ?_⟩
      -- a node that is waited for already is not listed again
      split
      · rename_i hmem
        simp only [List.mem_singleton, Prod.mk.injEq, and_true]
        exact ⟨.inl, fun hd => hd.elim id fun heq => heq ▸ hmem⟩
      · simp
    · refine ⟨node.dependencies, (hothers n hnb).trans hn, fun d => ?_⟩
      simp [hnb]

/-- **A list of accepted orderings** is gained. -/
theorem of_orderAll (hpairs : ∀ a b, (a, b) ∈ pairs → g.Has b) (hok : g.orderAll pairs = .ok g') :
    g.Gains pairs g' := by
  induction pairs generalizing g with
  | nil =>
    cases hok
    exact refl _
  | cons pair rest ih =>
    obtain ⟨a, b⟩ := pair
    rw [orderAll_cons] at hok
    obtain ⟨g₁, hfirst, hrest⟩ := Outcome.bind_eq_ok.1 hok
    have hstep := of_runsBefore (hpairs a b (by simp)) hfirst
    refine hstep.trans (ih (fun a b hab => ?_) hrest)
    unfold Has
    rw [hstep.size]
    exact hpairs a b (List.mem_cons_of_mem _ hab)

theorem has (h : g.Gains pairs g') (ha : g.Has a) : g'.Has a := by
  unfold Has
  rwa [h.size]

/-- The dependencies of what is left are those of before and the orderings. -/
theorem leads_eq (h : g.Gains pairs g') (hpairs : ∀ a b, (a, b) ∈ pairs → g.Has a ∧ g.Has b) :
    g'.Leads = g.LeadsWithAll pairs := by
  funext x y
  refine propext ?_
  by_cases hy : y < g.size
  · have hnode : g.nodes[y]? = some g.nodes[y] := List.getElem?_eq_getElem hy
    obtain ⟨waits, hnode', hwaits⟩ := h.node y _ hnode
    simp only [Leads, LeadsWithAll, dependenciesAt_eq hnode, dependenciesAt_eq hnode', hwaits]
    constructor
    · rintro ⟨d, hd | hd, rfl⟩
      · exact .inl ⟨d, hd, rfl⟩
      · exact .inr (by rwa [(hpairs d y hd).1.position_eq])
    · rintro (⟨d, hd, rfl⟩ | hx)
      · exact ⟨d, .inl hd, rfl⟩
      · exact ⟨x, .inr hx, (hpairs x y hx).1.position_eq⟩
  · -- there is no such node, and no ordering names it
    refine iff_of_false ?_ ?_
    · rintro ⟨d, hd, -⟩
      exact hy (h.size ▸ lt_size_of_mem_dependenciesAt hd)
    · rintro (⟨d, hd, -⟩ | hx)
      · exact hy (lt_size_of_mem_dependenciesAt hd)
      · exact hy (hpairs x y hx).2.2

/-- **Two graphs that gained the same orderings** have the same nodes. -/
theorem sameButOrder (h : g.Gains pairs g') (h' : g.Gains pairs g'') : g'.SameButOrder g'' := by
  refine ⟨h'.size.trans h.size.symm, fun n node hn => ?_⟩
  have hlt : n < g.size := h.size ▸ (List.getElem?_eq_some_iff.1 hn).1
  have hfirst : g.nodes[n]? = some g.nodes[n] := List.getElem?_eq_getElem hlt
  obtain ⟨waits, hn₁, hwaits⟩ := h.node n _ hfirst
  obtain ⟨waits', hn₂, hwaits'⟩ := h'.node n _ hfirst
  obtain rfl := Option.some.inj (hn.symm.trans hn₁)
  exact ⟨waits', hn₂, fun d => by rw [hwaits', hwaits]⟩

end Gains

/-! ## Which lists are accepted -/

namespace Linked

theorem orderAll (hg : g.Linked) (hok : g.orderAll pairs = .ok g') : g'.Linked := by
  induction pairs generalizing g with
  | nil =>
    cases hok
    exact hg
  | cons pair rest ih =>
    obtain ⟨a, b⟩ := pair
    rw [orderAll_cons] at hok
    obtain ⟨g₁, hfirst, hrest⟩ := Outcome.bind_eq_ok.1 hok
    exact ih (hg.runsBefore hfirst) hrest

/-- **A list of orderings is accepted** when the graph with all of them has no circle. -/
theorem orderAll_isOk_iff (hg : g.Linked)
    (hpairs : ∀ a b, (a, b) ∈ pairs → g.Has a ∧ g.Has b) :
    (∃ g', g.orderAll pairs = .ok g') ↔ ∀ v, ¬ TransGen (g.LeadsWithAll pairs) v v := by
  constructor
  · rintro ⟨g', hok⟩
    have hgains := Gains.of_orderAll (fun a b hab => (hpairs a b hab).2) hok
    have hlinked := hg.orderAll hok
    rw [← hgains.leads_eq hpairs, ← hlinked.leads_eq]
    exact hlinked.acyclic
  · -- the first ordering closes no circle, and the rest is judged by the graph that it leaves
    induction pairs generalizing g with
    | nil => exact fun _ => ⟨g, rfl⟩
    | cons pair rest ih =>
      obtain ⟨a, b⟩ := pair
      intro hfree
      obtain ⟨ha, hb⟩ := hpairs a b (by simp)
      have hback : ¬ ReflTransGen g.Leads b a := fun hback =>
        hfree a (.head' (.inr (by simp)) (ReflTransGen.mono (fun _ _ => .inl) b a hback))
      rw [← ha.position_eq, ← hb.position_eq] at hback
      have hasize : position a < g.size := by rw [ha.position_eq]; exact ha.2
      have hbsize : position b < g.size := by rw [hb.position_eq]; exact hb.2
      obtain ⟨g₁, hfirst⟩ := (hg.runsBefore_isOk_iff hasize hbsize).2 hback
      have hstep := Gains.of_runsBefore hb hfirst
      have hrest : ∀ a b, (a, b) ∈ rest → g.Has a ∧ g.Has b :=
        fun a b hab => hpairs a b (List.mem_cons_of_mem _ hab)
      have hleads : g₁.LeadsWithAll rest = g.LeadsWithAll ((a, b) :: rest) := by
        have hone := hstep.leads_eq fun x y hxy => hpairs x y (List.mem_cons.2 (.inl ?_))
        · funext x y
          simp only [LeadsWithAll, hone, List.mem_cons, List.not_mem_nil, false_or, or_assoc]
        · exact List.mem_singleton.1 hxy
      obtain ⟨g', hok⟩ := ih (hg.runsBefore hfirst)
        (fun x y hxy => ⟨hstep.has (hrest x y hxy).1, hstep.has (hrest x y hxy).2⟩)
        (hleads ▸ hfree)
      exact ⟨g', by rw [orderAll_cons, hfirst]; exact hok⟩

end Linked

/-- An ordering of nodes that exist is refused for a circle only. -/
theorem runsBefore_eq_cycle {e : GraphError} (ha : g.Has a) (hb : g.Has b)
    (herror : g.runsBefore a b = .error e) : e = .cycle (g.idAt a) (g.idAt b) := by
  have hpa := ha.position_eq
  have hpb := hb.position_eq
  rw [runsBefore_of_exist (hpa.symm ▸ ha.2) (hpb.symm ▸ hb.2), hpa, hpb] at herror
  split at herror
  · cases herror
  split at herror
  · cases herror
    rfl
  · cases herror

end Graph

namespace Workspace

variable {w : Workspace} {i : Nat} {allowed : Edit → Prop}

/-- **The order in which orderings are called does not matter.** If the graph with all of them has no
circle, each order of the calls is accepted to the end, and any two leave the same nodes, with the same
sets of nodes to wait for. If it has one, each order of the calls comes to one that is refused for a
circle. -/
theorem orderings_confluent (hw : w.Reachable allowed) (i : Nat) {pairs : List (Handle × Handle)}
    (hpairs : ∀ a b, (a, b) ∈ pairs → (w.graph i).Has a ∧ (w.graph i).Has b) :
    let g := w.graph i
    ((∀ v, ¬ TransGen (g.LeadsWithAll pairs) v v) →
      (∀ order, order.Perm pairs → ∃ g', g.orderAll order = .ok g' ∧ g.Gains pairs g') ∧
      ∀ order order' g₁ g₂, order.Perm pairs → order'.Perm pairs →
        g.orderAll order = .ok g₁ → g.orderAll order' = .ok g₂ → g₁.SameButOrder g₂) ∧
    ((∃ v, TransGen (g.LeadsWithAll pairs) v v) → ∀ order, order.Perm pairs →
      ∃ earlier a b later g', order = earlier ++ (a, b) :: later ∧
        g.orderAll earlier = .ok g' ∧
        g'.runsBefore a b = .error (.cycle (g'.idAt a) (g'.idAt b))) := by
  intro g
  have hg : g.Linked := hw.linked i
  -- an order of the calls names the same nodes and leads the same way
  have hhas : ∀ {order : List (Handle × Handle)}, order.Perm pairs →
      ∀ a b, (a, b) ∈ order → g.Has a ∧ g.Has b :=
    fun hperm a b hab => hpairs a b (hperm.mem_iff.1 hab)
  have hgains : ∀ {order : List (Handle × Handle)} {g' : Graph}, order.Perm pairs →
      g.orderAll order = .ok g' → g.Gains pairs g' := fun hperm hok =>
    (Graph.Gains.of_orderAll (fun a b hab => (hhas hperm a b hab).2) hok).congr
      fun _ => hperm.mem_iff
  have haccepted : ∀ {order : List (Handle × Handle)}, order.Perm pairs →
      ((∃ g', g.orderAll order = .ok g') ↔ ∀ v, ¬ TransGen (g.LeadsWithAll pairs) v v) := by
    intro order hperm
    have hleads : g.LeadsWithAll order = g.LeadsWithAll pairs := by
      funext x y
      simp only [Graph.LeadsWithAll, hperm.mem_iff]
    rw [hg.orderAll_isOk_iff (hhas hperm), hleads]
  refine ⟨fun hfree => ⟨fun order hperm => ?_, ?_⟩, ?_⟩
  · obtain ⟨g', hok⟩ := (haccepted hperm).2 hfree
    exact ⟨g', hok, hgains hperm hok⟩
  · intro order order' g₁ g₂ hperm hperm' hok hok'
    exact (hgains hperm hok).sameButOrder (hgains hperm' hok')
  · rintro ⟨v, hcircle⟩ order hperm
    cases hcalls : g.orderAll order with
    | ok g' => exact absurd hcircle ((haccepted hperm).1 ⟨g', hcalls⟩ v)
    | error e =>
      obtain ⟨earlier, a, b, later, g', hsplit, hok, hrefused⟩ := Graph.orderAll_eq_error hcalls
      refine ⟨earlier, a, b, later, g', hsplit, hok, ?_⟩
      have hbefore : ∀ a b, (a, b) ∈ earlier → g.Has b := fun a b hab =>
        (hhas hperm a b (by rw [hsplit]; exact List.mem_append_left _ hab)).2
      have hsteps := Graph.Gains.of_orderAll hbefore hok
      obtain ⟨ha, hb⟩ := hhas hperm a b (by rw [hsplit]; simp)
      rw [← Graph.runsBefore_eq_cycle (hsteps.has ha) (hsteps.has hb) hrefused]
      exact hrefused

/-- Three nodes, of which the second takes an output of the first. -/
def boundEdits : List Edit :=
  [.add 0 none 0 [], .add 0 none 0 [⟨"x", .reference ⟨0, "o"⟩⟩], .add 0 none 0 []]

/-- Orderings of the three, with one twice and one that the binding gives already, are accepted from
both ends, and the third node lists those it waits for in the order of the calls. Two orderings that
close a circle with the binding are refused in any order. -/
theorem orderings_confluent_bound :
    let g := ((ofEntities [default]).run boundEdits).graph 0
    let pairs := [(1, 2), (0, 1), (0, 2), (0, 2)]
    let circle := [(1, 2), (2, 0)]
    (∀ a b, (a, b) ∈ pairs ++ circle → g.Has a ∧ g.Has b) ∧
      (∀ v, ¬ TransGen (g.LeadsWithAll pairs) v v) ∧ TransGen (g.LeadsWithAll circle) 0 0 ∧
      (∃ g₁ g₂, g.orderAll pairs = .ok g₁ ∧ g.orderAll pairs.reverse = .ok g₂ ∧
        g₁.SameButOrder g₂ ∧ g₁.dependenciesAt 2 = [1, 0] ∧ g₂.dependenciesAt 2 = [0, 1]) ∧
      ∀ order, order.Perm circle → ∃ earlier a b later g', order = earlier ++ (a, b) :: later ∧
        g.orderAll earlier = .ok g' ∧
        g'.runsBefore a b = .error (.cycle (g'.idAt a) (g'.idAt b)) := by
  intro g pairs circle
  have hreach : ((ofEntities [default]).run boundEdits).Reachable Edit.InRange :=
    reachable_run [default] (by decide)
  have hhas : ∀ a b, (a, b) ∈ pairs ++ circle → g.Has a ∧ g.Has b := fun a b hab => by
    have hall : ∀ pair ∈ pairs ++ circle, g.Has pair.1 ∧ g.Has pair.2 := by decide +kernel
    exact hall _ hab
  have hedges : g.edges = [(0, 1)] := by decide +kernel
  -- every dependency leads to a greater handle
  have hup : ∀ x y, g.LeadsWithAll pairs x y → x < y := by
    rintro x y (hxy | hxy)
    · have hmem : (x, y) ∈ g.edges := ((hreach.linked 0).edge_iff x y).2 hxy
      rw [hedges, List.mem_singleton, Prod.mk.injEq] at hmem
      omega
    · have hlt : ∀ pair ∈ pairs, pair.1 < pair.2 := by decide
      exact hlt _ hxy
  have hfree : ∀ v, ¬ TransGen (g.LeadsWithAll pairs) v v := fun v hv => by
    have hlt : ∀ u, TransGen (g.LeadsWithAll pairs) v u → v < u := fun u hu => by
      induction hu with
      | single h => exact hup _ _ h
      | tail _ h ih => exact Nat.lt_trans ih (hup _ _ h)
    exact Nat.lt_irrefl v (hlt v hv)
  have hcircle : TransGen (g.LeadsWithAll circle) 0 0 := by
    have hbinding : g.LeadsWithAll circle 0 1 := .inl ⟨0, by decide +kernel, rfl⟩
    have hforth : g.LeadsWithAll circle 1 2 := .inr (by decide)
    have hback : g.LeadsWithAll circle 2 0 := .inr (by decide)
    exact .tail (.tail (.single hbinding) hforth) hback
  obtain ⟨haccepted, hsame⟩ := (orderings_confluent hreach 0 fun a b hab =>
    hhas a b (List.mem_append_left circle hab)).1 hfree
  have hrefused := (orderings_confluent hreach 0 fun a b hab =>
    hhas a b (List.mem_append_right pairs hab)).2 ⟨0, hcircle⟩
  obtain ⟨g₁, hok₁, -⟩ := haccepted pairs (.refl _)
  obtain ⟨g₂, hok₂, -⟩ := haccepted pairs.reverse pairs.reverse_perm
  have hwaits₁ : (g.orderAll pairs).toOption.map (·.dependenciesAt 2) = some [1, 0] := by
    decide +kernel
  have hwaits₂ : (g.orderAll pairs.reverse).toOption.map (·.dependenciesAt 2) = some [0, 1] := by
    decide +kernel
  rw [hok₁] at hwaits₁
  rw [hok₂] at hwaits₂
  exact ⟨hhas, hfree, hcircle, ⟨g₁, g₂, hok₁, hok₂,
    hsame _ _ g₁ g₂ (.refl _) pairs.reverse_perm hok₁ hok₂, Option.some.inj hwaits₁,
    Option.some.inj hwaits₂⟩, hrefused⟩

end Workspace

end Workflow
