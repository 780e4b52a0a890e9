import Workflow.Proofs.Graph.Rendering

/-!
# Graphs under any handles

A handle may be any number, and only the position counts that it names. `Consistent` speaks of
handles and asks for calls in range; `Linked` is what remains of it by positions, and holds after
calls with any handles.

* `Graph.Change`: what a call can do to a graph. `Reachable.of_changes` carries a property of graphs
  through a history.
* `Graph.Linked`: handles are positions, the two records of dependencies agree by position, and
  nothing runs in a circle. `Reachable.linked` says that every graph of a history is so.
* `Linked.toSpec_eq_ok`: a linked graph is refused for an id used twice only.
-/

namespace Workflow

variable {g g' : Graph}

/-! ## What a call does to a graph -/

namespace Graph

/-- An id that a new node may get: a generated one or the label of a name, which no node has. -/
structure Fresh (g : Graph) (id : String) : Prop where
  free : g.hasId id = false
  origin : (∃ k, g.freshNumber? = some k ∧ id = generatedId k) ∨
    ∃ name, (Label.ofName name).isEmpty = false ∧ id = Label.ofName name

/-- One change of a graph: a node more, an ordering more, or a checked override written to the node
at a position. -/
inductive Change (g : Graph) : Graph → Prop where
  | added {id : String} {entity : Nat} {metadata : NodeMetadata} {bindings : List (Binding Promise)}
      {g' : Graph} {h : Handle} (hid : g.Fresh id)
      (hok : g.insert id entity metadata bindings = .ok (g', h)) : g.Change g'
  | ordered {before after : Handle} {g' : Graph} (hok : g.runsBefore before after = .ok g') :
      g.Change g'
  | overridden {o : Overrides} {present : Option TaskConfig} {u : NodeUpdate} (t : Nat)
      (isArrayMap : Bool) (hcheck : o.check present = .ok u) :
      g.Change ⟨g.nodes.modify t (u.applyToNode isArrayMap), g.edges⟩

/-- A generated number is free. -/
theorem hasId_of_freshNumber? {k : Nat} (h : g.freshNumber? = some k) :
    g.hasId (generatedId k) = false := by
  simpa using List.find?_some h

theorem fresh_of_addNode {entity : Nat} {metadata : NodeMetadata}
    {bindings : List (Binding Promise)} {r : Graph × Handle}
    (hok : g.addNode entity metadata bindings = .ok r) :
    ∃ id, g.Fresh id ∧ g.insert id entity metadata bindings = .ok r := by
  simp only [addNode] at hok
  split at hok
  · rename_i k hk
    exact ⟨_, ⟨hasId_of_freshNumber? hk, .inl ⟨k, hk, rfl⟩⟩, hok⟩
  · cases hok

theorem fresh_of_addNodeWithId {name : String} {entity : Nat} {metadata : NodeMetadata}
    {bindings : List (Binding Promise)} {r : Graph × Handle}
    (hok : g.addNodeWithId name entity metadata bindings = .ok r) :
    ∃ id, g.Fresh id ∧ g.insert id entity metadata bindings = .ok r := by
  simp only [addNodeWithId] at hok
  split at hok
  · cases hok
  split at hok
  · cases hok
  · rename_i hempty hused
    refine ⟨_, ⟨?_, .inr ⟨name, ?_, rfl⟩⟩, hok⟩
    · simpa using hused
    · simpa using hempty

/-- A chain is a series of orderings, wherever it stops. -/
theorem chain_induction {motive : Graph → Prop}
    (hordered : ∀ {g g' : Graph} {a b : Handle}, g.runsBefore a b = .ok g' → motive g → motive g')
    {rest : List Handle} :
    ∀ {g : Graph} {cursor : Handle}, motive g → motive (g.chain cursor rest).1 := by
  induction rest with
  | nil => exact fun hg => hg
  | cons next rest ih =>
    intro g cursor hg
    rw [chain]
    split
    · rename_i hok
      exact ih (hordered hok hg)
    · exact hg

end Graph

namespace Workspace

variable {w w' : Workspace} {allowed : Edit → Prop}

/-- A new node gets a fresh id. -/
theorem fresh_of_addNode {i : Nat} {name : Option String} {entity : Nat}
    {bindings : List (Binding Promise)} {h : Handle}
    (hok : w.addNode i name entity bindings = .ok (w', h)) :
    ∃ g id, (w.graph i).Fresh id ∧
      (w.graph i).insert id entity (w.entity entity).metadata bindings = .ok (g, h) ∧
      w' = w.setGraph i g := by
  cases name with
  | some name =>
    obtain ⟨⟨g, k⟩, hadd, hret⟩ := Outcome.bind_eq_ok.1 hok
    obtain ⟨rfl, rfl⟩ := Prod.mk.inj (Outcome.pure_eq_ok.1 hret)
    obtain ⟨id, hid, hinsert⟩ := Graph.fresh_of_addNodeWithId hadd
    exact ⟨g, id, hid, hinsert, rfl⟩
  | none =>
    obtain ⟨⟨g, k⟩, hadd, hret⟩ := Outcome.bind_eq_ok.1 hok
    obtain ⟨rfl, rfl⟩ := Prod.mk.inj (Outcome.pure_eq_ok.1 hret)
    obtain ⟨id, hid, hinsert⟩ := Graph.fresh_of_addNode hadd
    exact ⟨g, id, hid, hinsert, rfl⟩

/-- What changes keep, a call keeps in every graph. -/
theorem perform_of_changes {motive : Graph → Prop} (hempty : motive .empty)
    (hchange : ∀ {g g' : Graph}, g.Change g' → motive g → motive g') (e : Edit)
    (hw : ∀ g ∈ w.graphs, motive g) : ∀ g ∈ (w.perform e).graphs, motive g := by
  have hgraph := graph_induction hempty hw
  have hset : ∀ {i : Nat} {g : Graph}, motive g → ∀ x ∈ w.graphs.set i g, motive x := by
    intro i g hg x hx
    rcases List.mem_or_eq_of_mem_set hx with hx | rfl
    · exact hw x hx
    · exact hg
  cases e with
  | add i name entity bindings =>
    refine orSame_induction (motive := fun w => ∀ g ∈ w.graphs, motive g) hw ?_
    intro w' hok
    obtain ⟨⟨w₁, h⟩, hadd, rfl⟩ := Outcome.map_eq_ok.1 hok
    obtain ⟨g, id, hid, hinsert, rfl⟩ := fresh_of_addNode hadd
    exact hset (hchange (.added hid hinsert) (hgraph i))
  | order i before after =>
    refine orSame_induction (motive := fun w => ∀ g ∈ w.graphs, motive g) hw ?_
    intro w' hok
    obtain ⟨g, horder, hret⟩ := Outcome.bind_eq_ok.1 hok
    obtain rfl := Outcome.pure_eq_ok.1 hret
    exact hset (hchange (.ordered horder) (hgraph i))
  | chain i cursor rest =>
    exact hset (Graph.chain_induction (fun hok => hchange (.ordered hok)) (hgraph i))
  | override i h o =>
    refine orSame_induction (motive := fun w => ∀ g ∈ w.graphs, motive g) hw ?_
    intro w' hok
    obtain ⟨node, u, -, hcheck, -, hgraphs⟩ := override_eq_ok hok
    rw [hgraphs]
    exact hset (hchange (.overridden _ _ hcheck) (hgraph i))
  | clone i =>
    intro x hx
    rcases List.mem_append.1 hx with hx | hx
    · exact hw x hx
    · rw [List.mem_singleton.1 hx]
      exact hgraph i

/-- **What changes keep holds of every graph** that calls lead to. -/
theorem Reachable.of_changes {motive : Graph → Prop} (hw : w.Reachable allowed)
    (hempty : motive .empty)
    (hchange : ∀ {g g' : Graph}, g.Change g' → motive g → motive g') (i : Nat) :
    motive (w.graph i) := by
  refine graph_induction hempty ?_ i
  induction hw with
  | start entities =>
    intro g hg
    rwa [List.mem_singleton.1 hg]
  | perform e _ _ ih => exact perform_of_changes hempty hchange e ih

end Workspace

/-! ## The invariant -/

namespace Graph

/-- One node is among those that another waits for, by whichever of its handles. -/
def Leads (g : Graph) (a b : Nat) : Prop := ∃ d ∈ g.dependenciesAt b, position d = a

/-- What holds of a graph after calls with any handles. -/
structure Linked (g : Graph) : Prop where
  /-- A handle is a position. -/
  handle_eq : ∀ i (node : Node), g.nodes[i]? = some node → node.handle = i
  exist : ∀ i, ∀ d ∈ g.dependenciesAt i, position d < g.size
  /-- Edges and lists of dependencies say the same. -/
  edge_iff : ∀ a b, (a, b) ∈ g.edges ↔ g.Leads a b
  /-- The producers of its inputs are among the nodes that a node waits for. -/
  promised : ∀ node ∈ g.nodes, ∀ b ∈ node.bindings, ∀ p ∈ b.data.references,
    p.node ∈ node.dependencies
  acyclic : Order.Acyclic g.edges

namespace Linked

/-- Edges and lists of dependencies are the same relation. -/
theorem leads_eq (hg : g.Linked) : Order.Leads g.edges = g.Leads :=
  funext fun a => funext fun b => propext (hg.edge_iff a b)

theorem edges_lt (hg : g.Linked) : ∀ e ∈ g.edges, e.1 < g.size ∧ e.2 < g.size := by
  rintro ⟨a, b⟩ he
  obtain ⟨d, hd, rfl⟩ := (hg.edge_iff a b).1 he
  exact ⟨hg.exist b d hd, lt_size_of_mem_dependenciesAt hd⟩

theorem empty : Graph.empty.Linked where
  handle_eq := by simp [Graph.empty]
  exist := by simp [Graph.empty, dependenciesAt]
  edge_iff := by simp [Graph.empty, dependenciesAt, Leads]
  promised := by simp [Graph.empty]
  acyclic := Order.acyclic_nil

/-- **A new node keeps a graph linked.** -/
theorem insert (hg : g.Linked) {id : String} {entity : Nat} {metadata : NodeMetadata}
    {bindings : List (Binding Promise)} {h : Handle}
    (hok : g.insert id entity metadata bindings = .ok (g', h)) : g'.Linked := by
  obtain ⟨hlt, -, rfl⟩ := insert_eq_ok.1 hok
  set node := Node.ofBindings g.size id entity metadata bindings with hnode
  have hdeps : ∀ (edges : List Order.Edge) i,
      (⟨g.nodes ++ [node], edges⟩ : Graph).dependenciesAt i =
        if i = g.size then Node.producers bindings else g.dependenciesAt i :=
    fun edges i => dependenciesAt_append node edges i
  refine ⟨?_, ?_, ?_, ?_, ?_⟩
  · intro i n hi
    rcases getElem?_append_one hi with hi | ⟨rfl, rfl⟩
    · exact hg.handle_eq i n hi
    · rfl
  · intro i d hd
    rw [hdeps] at hd
    have hd : position d < g.size := by
      split at hd
      · exact hlt d hd
      · exact hg.exist i d hd
    unfold size at hd ⊢
    rw [List.length_append, List.length_singleton]
    exact Nat.lt_succ_of_lt hd
  · -- the edges added are those from the producers to the new node
    intro a b
    unfold Leads
    rw [hdeps, List.mem_append, List.map_map, List.mem_map, hg.edge_iff]
    split
    · rename_i hb
      subst hb
      constructor
      · rintro (⟨d, hd, -⟩ | ⟨d, hd, he⟩)
        · exact absurd (lt_size_of_mem_dependenciesAt hd) (Nat.lt_irrefl _)
        · exact ⟨d, hd, (Prod.mk.inj he).1⟩
      · rintro ⟨d, hd, rfl⟩
        exact .inr ⟨d, hd, rfl⟩
    · rename_i hb
      constructor
      · rintro (hab | ⟨d, -, he⟩)
        · exact hab
        · exact absurd (Prod.mk.inj he).2.symm hb
      · exact .inl
  · intro n hn b hb p hp
    rcases List.mem_append.1 hn with hn | hn
    · exact hg.promised n hn b hb p hp
    · obtain rfl := List.mem_singleton.1 hn
      exact Node.mem_producers.2 ⟨b, hb, p, hp, rfl⟩
  · -- no edge touches the new node yet
    refine Order.acyclic_append_fresh hg.acyclic hg.edges_lt fun s hs => ?_
    obtain ⟨d, hd, rfl⟩ := List.mem_map.1 hs
    exact hlt d hd

/-- **An ordering keeps a graph linked.** -/
theorem runsBefore (hg : g.Linked) {a b : Handle} (hok : g.runsBefore a b = .ok g') :
    g'.Linked := by
  obtain ⟨has, hbs, h⟩ := runsBefore_eq_ok.1 hok
  rcases h with ⟨-, rfl⟩ | ⟨hnew, hne, hpath, rfl⟩
  · exact hg
  have hdeps := dependenciesAt_addDependency hbs hnew (g.edges ++ [(position a, position b)])
  have hmem : ∀ i d,
      d ∈ (if i = position b then g.dependenciesAt (position b) ++ [a] else g.dependenciesAt i) ↔
        d ∈ g.dependenciesAt i ∨ i = position b ∧ d = a := by
    intro i d
    split
    · rename_i hi
      simp [hi]
    · rename_i hi
      simp [hi]
  refine ⟨?_, ?_, ?_, ?_, ?_⟩
  · intro i node hi
    obtain ⟨old, hold, rfl⟩ := exists_of_getElem?_modify hi
    have hhandle := hg.handle_eq i old hold
    split <;> exact hhandle
  · intro i d hd
    rw [hdeps, hmem] at hd
    have hd : position d < g.size := by
      rcases hd with hd | ⟨-, rfl⟩
      · exact hg.exist i d hd
      · exact has
    simpa [size] using hd
  · intro x y
    unfold Leads
    simp only [hdeps, hmem, List.mem_append, hg.edge_iff, List.mem_singleton, Prod.mk.injEq]
    constructor
    · rintro (⟨d, hd, rfl⟩ | ⟨rfl, rfl⟩)
      · exact ⟨d, .inl hd, rfl⟩
      · exact ⟨a, .inr ⟨rfl, rfl⟩, rfl⟩
    · rintro ⟨d, hd | ⟨rfl, rfl⟩, rfl⟩
      · exact .inl ⟨d, hd, rfl⟩
      · exact .inr ⟨rfl, rfl⟩
  · intro node hnode x hx p hp
    obtain ⟨old, hold, rfl | rfl⟩ := exists_of_mem_modify hnode
    · exact Node.mem_addOnce.2 (.inl (hg.promised old hold x hx p hp))
    · exact hg.promised old hold x hx p hp
  · -- the edges hold no path back, and the search for one is exact
    refine Order.acyclic_append hg.acyclic fun hback => ?_
    rw [Order.hasPath_iff.2 hback] at hpath
    cases hpath

/-- **A change that leaves handle, inputs and dependencies alone** keeps a graph linked. -/
theorem modify (hg : g.Linked) (t : Nat) {f : Node → Node}
    (hf : ∀ node, (f node).handle = node.handle ∧ (f node).bindings = node.bindings ∧
      (f node).dependencies = node.dependencies) :
    (⟨g.nodes.modify t f, g.edges⟩ : Graph).Linked := by
  have hdeps : ∀ i, (⟨g.nodes.modify t f, g.edges⟩ : Graph).dependenciesAt i =
      g.dependenciesAt i := by
    intro i
    rw [dependenciesAt_modify]
    split
    · simp only [(hf _).2.2, dependenciesAt]
    · rfl
  -- the edges are the same, so nothing runs in a circle
  refine ⟨?_, ?_, ?_, ?_, hg.acyclic⟩
  · intro i node hi
    obtain ⟨old, hold, rfl⟩ := exists_of_getElem?_modify hi
    have hhandle := hg.handle_eq i old hold
    split
    · rwa [(hf old).1]
    · exact hhandle
  · intro i d hd
    rw [hdeps] at hd
    have := hg.exist i d hd
    simpa [size] using this
  · intro a b
    unfold Leads
    rw [hdeps]
    exact hg.edge_iff a b
  · intro node hnode b hb p hp
    obtain ⟨old, hold, rfl | rfl⟩ := exists_of_mem_modify hnode
    · rw [(hf old).2.2]
      rw [(hf old).2.1] at hb
      exact hg.promised old hold b hb p hp
    · exact hg.promised old hold b hb p hp

/-- **Every change keeps a graph linked.** -/
theorem change (hg : g.Linked) (h : g.Change g') : g'.Linked := by
  cases h with
  | added _ hok => exact hg.insert hok
  | ordered hok => exact hg.runsBefore hok
  | overridden t _ _ => exact hg.modify t fun _ => ⟨rfl, rfl, rfl⟩

/-! ## Orders and rendering -/

theorem isCyclic_eq (hg : g.Linked) : Order.isCyclic g.edges g.size = false := by
  rw [Order.isCyclic, Order.isOrder_finishOrder hg.acyclic hg.edges_lt]
  rfl

theorem closed (hg : g.Linked) : ∀ node ∈ g.nodes, g.Closed node := by
  intro node hnode
  obtain ⟨i, hi⟩ := List.mem_iff_getElem?.1 hnode
  have hlt : ∀ d ∈ node.dependencies, position d < g.size := by
    intro d hd
    rw [← dependenciesAt_eq hi] at hd
    exact hg.exist i d hd
  exact ⟨hlt, fun b hb p hp => hlt _ (hg.promised node hnode b hb p hp)⟩

/-- **A linked graph is accepted** when its ids are distinct. -/
theorem validate_eq_ok (hg : g.Linked) : g.validate = .ok () ↔ (g.nodes.map (·.id)).Nodup := by
  rw [Graph.validate_eq_ok, and_iff_left hg.isCyclic_eq]

/-- **A linked graph is rendered** when it is accepted. -/
theorem toSpec_eq_ok (hg : g.Linked) {entityOf : Nat → RunEntity} {spec : WorkflowSpec} :
    g.toSpec entityOf = .ok spec ↔ (g.nodes.map (·.id)).Nodup ∧
      spec = ⟨g.nodes.map fun node => g.rendered (entityOf node.entity) node⟩ := by
  rw [Graph.toSpec_eq_ok, hg.validate_eq_ok, and_iff_right hg.closed]

end Linked

end Graph

/-- **Every graph that calls lead to is linked**, whatever handles they gave. -/
theorem Workspace.Reachable.linked {w : Workspace} {allowed : Edit → Prop}
    (hw : w.Reachable allowed) (i : Nat) : (w.graph i).Linked :=
  hw.of_changes .empty (fun h hg => hg.change h) i

end Workflow
