import Mathlib.Data.List.Nodup
import Workflow.Proofs.Graph.History
import Workflow.Proofs.Order.Reachability
import Workflow.Proofs.Outcome

/-!
# Graphs stay consistent

A graph keeps its dependencies twice, as edges and as a list of each node. `Consistent` says that
the two agree, that promises only point back, and that nothing runs in a circle. Each operation on
graphs keeps it (`Consistent.insert`, `Consistent.runsBefore`, `Consistent.chain`,
`Consistent.modify`), so every graph has it that calls in range lead to (`Reachable.consistent`).
-/

namespace Workflow

variable {g g' : Graph}

/-! ## The producers of inputs -/

namespace Node

theorem mem_addOnce {handles : List Handle} {h k : Handle} :
    k ∈ addOnce handles h ↔ k ∈ handles ∨ k = h := by
  unfold addOnce
  split
  · rename_i hmem
    rw [List.contains_iff_mem] at hmem
    constructor
    · exact .inl
    · rintro (hk | rfl)
      · exact hk
      · exact hmem
  · simp

theorem nodup_addOnce {handles : List Handle} {h : Handle} (hn : handles.Nodup) :
    (addOnce handles h).Nodup := by
  unfold addOnce
  split
  · exact hn
  · rename_i hmem
    rw [List.contains_iff_mem] at hmem
    refine List.nodup_append.2 ⟨hn, by simp, ?_⟩
    rintro a ha b hb rfl
    exact hmem (List.mem_singleton.1 hb ▸ ha)

theorem foldl_addOnce (uses : List Handle) : ∀ handles : List Handle, handles.Nodup →
    (uses.foldl addOnce handles).Nodup ∧
      ∀ k, k ∈ uses.foldl addOnce handles ↔ k ∈ handles ∨ k ∈ uses := by
  induction uses with
  | nil => exact fun handles hn => ⟨hn, by simp⟩
  | cons h uses ih =>
    intro handles hn
    obtain ⟨hnodup, hmem⟩ := ih _ (nodup_addOnce (h := h) hn)
    refine ⟨hnodup, fun k => ?_⟩
    rw [List.foldl_cons, hmem, mem_addOnce, List.mem_cons, or_assoc]

theorem nodup_producers (bindings : List (Binding Promise)) : (producers bindings).Nodup :=
  (foldl_addOnce _ [] List.nodup_nil).1

/-- The producers are the nodes that promises name, at any depth. -/
theorem mem_producers {bindings : List (Binding Promise)} {h : Handle} :
    h ∈ producers bindings ↔ ∃ b ∈ bindings, ∃ p ∈ b.data.references, p.node = h := by
  rw [producers, (foldl_addOnce _ [] List.nodup_nil).2]
  simp

end Node

/-! ## The invariant -/

/-- One node is among those that another waits for. -/
def Graph.Precedes (g : Graph) (a b : Nat) : Prop := a ∈ g.dependenciesAt b

/-- What holds of a graph at any time. -/
structure Graph.Consistent (g : Graph) : Prop where
  /-- A handle is a position. -/
  handle_eq : ∀ i (node : Node), g.nodes[i]? = some node → node.handle = i
  nodup : ∀ i, (g.dependenciesAt i).Nodup
  exist : ∀ i, ∀ d ∈ g.dependenciesAt i, d < g.size
  in_range : ∀ i, ∀ d ∈ g.dependenciesAt i, d < Graph.positions
  /-- Edges and lists of dependencies say the same. -/
  edge_iff : ∀ a b, (a, b) ∈ g.edges ↔ a ∈ g.dependenciesAt b
  edges_nodup : g.edges.Nodup
  /-- Promises name earlier nodes, which the node waits for. -/
  earlier : ∀ i (node : Node), g.nodes[i]? = some node → ∀ b ∈ node.bindings, ∀ p ∈ b.data.references,
    p.node < i ∧ p.node ∈ node.dependencies
  acyclic : Order.Acyclic g.edges

namespace Graph

theorem position_eq {h : Handle} (hh : h < positions) : position h = h := Nat.mod_eq_of_lt hh

theorem dependenciesAt_eq {i : Nat} {node : Node} (h : g.nodes[i]? = some node) :
    g.dependenciesAt i = node.dependencies := by
  simp [dependenciesAt, h]

/-- Only nodes that exist wait for others. -/
theorem lt_size_of_mem_dependenciesAt {i d : Nat} (h : d ∈ g.dependenciesAt i) : i < g.size := by
  unfold dependenciesAt at h
  cases hi : g.nodes[i]? with
  | none => rw [hi] at h; simp at h
  | some node => exact (List.getElem?_eq_some_iff.1 hi).1

theorem Consistent.edges_lt (hg : g.Consistent) : ∀ e ∈ g.edges, e.1 < g.size ∧ e.2 < g.size := by
  rintro ⟨a, b⟩ he
  have hab := (hg.edge_iff a b).1 he
  exact ⟨hg.exist b a hab, lt_size_of_mem_dependenciesAt hab⟩

/-- Edges and lists of dependencies are the same relation. -/
theorem Consistent.leads_eq (hg : g.Consistent) : Order.Leads g.edges = g.Precedes :=
  funext fun a => funext fun b => propext (hg.edge_iff a b)

theorem Consistent.empty : Graph.empty.Consistent where
  handle_eq := by simp [Graph.empty]
  nodup := by simp [Graph.empty, dependenciesAt]
  exist := by simp [Graph.empty, dependenciesAt]
  in_range := by simp [Graph.empty, dependenciesAt]
  edge_iff := by simp [Graph.empty, dependenciesAt]
  edges_nodup := by simp [Graph.empty]
  earlier := by simp [Graph.empty]
  acyclic := Order.acyclic_nil

/-! ## New nodes -/

theorem check_eq_ok {h i : Nat} : g.check h = .ok i ↔ position h < g.size ∧ position h = i := by
  unfold check
  split
  · rename_i hlt
    simp [hlt]
  · rename_i hlt
    simp [hlt]

/-- **Adding a node** succeeds when its producers exist. The node takes the next position. -/
theorem insert_eq_ok {id : String} {entity : Nat} {metadata : NodeMetadata}
    {bindings : List (Binding Promise)} {h : Handle} :
    g.insert id entity metadata bindings = .ok (g', h) ↔
      (∀ d ∈ Node.producers bindings, position d < g.size) ∧ h = g.size ∧
        g' = ⟨g.nodes ++ [Node.ofBindings g.size id entity metadata bindings],
          g.edges ++ ((Node.producers bindings).map position).map (·, g.size)⟩ := by
  have hchecks : ∀ sources, (Node.producers bindings).mapM g.check = .ok sources ↔
      (∀ d ∈ Node.producers bindings, position d < g.size) ∧
        (Node.producers bindings).map position = sources :=
    fun sources => Outcome.mapM_eq_ok_iff fun _ _ => check_eq_ok
  rw [insert, Outcome.bind_eq_ok]
  constructor
  · rintro ⟨sources, hsources, h⟩
    obtain ⟨hlt, rfl⟩ := (hchecks sources).1 hsources
    obtain ⟨rfl, rfl⟩ := Prod.mk.inj (Outcome.pure_eq_ok.1 h)
    exact ⟨hlt, rfl, rfl⟩
  · rintro ⟨hlt, rfl, rfl⟩
    exact ⟨_, (hchecks _).2 ⟨hlt, rfl⟩, rfl⟩

theorem insert_of_addNodeWithId {name : String} {entity : Nat} {metadata : NodeMetadata}
    {bindings : List (Binding Promise)} {r : Graph × Handle}
    (hok : g.addNodeWithId name entity metadata bindings = .ok r) :
    ∃ id, g.insert id entity metadata bindings = .ok r := by
  simp only [addNodeWithId] at hok
  split at hok
  · cases hok
  · split at hok
    · cases hok
    · exact ⟨_, hok⟩

theorem insert_of_addNode {entity : Nat} {metadata : NodeMetadata}
    {bindings : List (Binding Promise)} {r : Graph × Handle}
    (hok : g.addNode entity metadata bindings = .ok r) :
    ∃ id, g.insert id entity metadata bindings = .ok r := by
  simp only [addNode] at hok
  split at hok
  · exact ⟨_, hok⟩
  · cases hok

theorem dependenciesAt_append (node : Node) (edges : List Order.Edge) (i : Nat) :
    (⟨g.nodes ++ [node], edges⟩ : Graph).dependenciesAt i =
      if i = g.size then node.dependencies else g.dependenciesAt i := by
  unfold dependenciesAt size
  split
  · rename_i h
    subst h
    simp
  · rename_i h
    rcases Nat.lt_or_gt_of_ne h with h | h
    · rw [List.getElem?_append_left h]
    · rw [List.getElem?_eq_none (by simp; omega), List.getElem?_eq_none (by omega)]

theorem getElem?_append_one {node n : Node} {i : Nat} (h : (g.nodes ++ [node])[i]? = some n) :
    g.nodes[i]? = some n ∨ i = g.size ∧ n = node := by
  rcases Nat.lt_or_ge i g.nodes.length with hi | hi
  · rw [List.getElem?_append_left hi] at h
    exact .inl h
  · rw [List.getElem?_append_right hi, List.getElem?_singleton] at h
    split at h
    · exact .inr ⟨by unfold size; omega, (Option.some.inj h).symm⟩
    · cases h

/-- **A new node keeps a graph consistent.** -/
theorem Consistent.insert (hg : g.Consistent) {id : String} {entity : Nat}
    {metadata : NodeMetadata} {bindings : List (Binding Promise)} {h : Handle}
    (hrange : ∀ b ∈ bindings, ∀ p ∈ b.data.references, p.node < positions)
    (hok : g.insert id entity metadata bindings = .ok (g', h)) : g'.Consistent := by
  obtain ⟨hlt, -, rfl⟩ := insert_eq_ok.1 hok
  set node := Node.ofBindings g.size id entity metadata bindings with hnode
  have hdeps : node.dependencies = Node.producers bindings := rfl
  have hsmall : ∀ d ∈ node.dependencies, d < positions := by
    intro d hd
    obtain ⟨b, hb, p, hp, rfl⟩ := Node.mem_producers.1 hd
    exact hrange b hb p hp
  have hexist : ∀ d ∈ node.dependencies, d < g.size := by
    intro d hd
    have := hlt d hd
    rwa [position_eq (hsmall d hd)] at this
  have hsources : (Node.producers bindings).map position = node.dependencies :=
    (List.map_congr_left fun d hd => position_eq (hsmall d hd)).trans (List.map_id _)
  rw [hsources]
  refine ⟨?_, ?_, ?_, ?_, ?_, ?_, ?_, ?_⟩
  · intro i n hi
    rcases getElem?_append_one hi with hi | ⟨rfl, rfl⟩
    · exact hg.handle_eq i n hi
    · rfl
  · intro i
    rw [dependenciesAt_append]
    split
    · exact Node.nodup_producers bindings
    · exact hg.nodup i
  · intro i d hd
    rw [dependenciesAt_append] at hd
    have hd : d < g.size := by
      split at hd
      · exact hexist d hd
      · exact hg.exist i d hd
    unfold size at hd ⊢
    rw [List.length_append, List.length_singleton]
    exact Nat.lt_succ_of_lt hd
  · intro i d hd
    rw [dependenciesAt_append] at hd
    split at hd
    · exact hsmall d hd
    · exact hg.in_range i d hd
  · intro a b
    rw [dependenciesAt_append]
    simp only [List.mem_append, List.mem_map, Prod.mk.injEq, hg.edge_iff]
    split
    · rename_i hb
      subst hb
      constructor
      · rintro (hab | ⟨d, hd, rfl, -⟩)
        · exact absurd (lt_size_of_mem_dependenciesAt hab) (Nat.lt_irrefl _)
        · exact hd
      · exact fun ha => .inr ⟨a, ha, rfl, rfl⟩
    · rename_i hb
      constructor
      · rintro (hab | ⟨d, -, -, hb'⟩)
        · exact hab
        · exact absurd hb'.symm hb
      · exact .inl
  · -- the new edges lead to the new node, which no old edge does
    refine List.nodup_append.2 ⟨hg.edges_nodup, ?_, ?_⟩
    · exact (Node.nodup_producers bindings).map fun a b hab => (Prod.mk.inj hab).1
    · rintro e he e' he' rfl
      obtain ⟨d, -, rfl⟩ := List.mem_map.1 he'
      exact absurd (hg.edges_lt _ he).2 (Nat.lt_irrefl _)
  · intro i n hi b hb p hp
    rcases getElem?_append_one hi with hi | ⟨rfl, rfl⟩
    · exact hg.earlier i n hi b hb p hp
    · have hmem : p.node ∈ Node.producers bindings := Node.mem_producers.2 ⟨b, hb, p, hp, rfl⟩
      exact ⟨hexist _ hmem, hmem⟩
  · exact Order.acyclic_append_fresh hg.acyclic hg.edges_lt hexist

/-! ## Orderings -/

/-- **Ordering two nodes** succeeds when both exist and the second does not lead to the first. A
repeated call changes nothing. -/
theorem runsBefore_eq_ok {a b : Handle} :
    g.runsBefore a b = .ok g' ↔ position a < g.size ∧ position b < g.size ∧
      (a ∈ g.dependenciesAt (position b) ∧ g' = g ∨
        a ∉ g.dependenciesAt (position b) ∧ position a ≠ position b ∧
          Order.hasPath g.edges (position b) (position a) = false ∧
          g' = ⟨g.nodes.modify (position b) (·.addDependency a),
            g.edges ++ [(position a, position b)]⟩) := by
  -- what is left to decide once both handles were checked
  have hbody : ∀ s t : Nat,
      (if (g.dependenciesAt t).contains a then return g
        else if s = t ∨ Order.hasPath g.edges t s then
          throw (.cycle (g.idAt s) (g.idAt t))
        else return ⟨g.nodes.modify t (·.addDependency a), g.edges ++ [(s, t)]⟩ :
          Except GraphError Graph) = .ok g' ↔
      a ∈ g.dependenciesAt t ∧ g' = g ∨
        a ∉ g.dependenciesAt t ∧ s ≠ t ∧ Order.hasPath g.edges t s = false ∧
          g' = ⟨g.nodes.modify t (·.addDependency a), g.edges ++ [(s, t)]⟩ := by
    intro s t
    split
    · rename_i hmem
      rw [List.contains_iff_mem] at hmem
      constructor
      · exact fun h => .inl ⟨hmem, (Outcome.pure_eq_ok.1 h).symm⟩
      · rintro (⟨-, rfl⟩ | ⟨hnot, -⟩)
        · rfl
        · exact absurd hmem hnot
    · rename_i hmem
      rw [List.contains_iff_mem] at hmem
      split
      · rename_i hcycle
        constructor
        · exact fun h => nomatch h
        · rintro (⟨h, -⟩ | ⟨-, hne, hpath, -⟩)
          · exact absurd h hmem
          · rcases hcycle with h | h
            · exact absurd h hne
            · rw [h] at hpath
              cases hpath
      · rename_i hfree
        obtain ⟨hne, hpath⟩ := not_or.1 hfree
        constructor
        · exact fun h => .inr ⟨hmem, hne, by simpa using hpath, (Outcome.pure_eq_ok.1 h).symm⟩
        · rintro (⟨h, -⟩ | ⟨-, -, -, rfl⟩)
          · exact absurd h hmem
          · rfl
  rw [runsBefore, Outcome.bind_eq_ok]
  constructor
  · rintro ⟨s, hs, h⟩
    obtain ⟨t, ht, h⟩ := Outcome.bind_eq_ok.1 h
    obtain ⟨ha, rfl⟩ := check_eq_ok.1 hs
    obtain ⟨hb, rfl⟩ := check_eq_ok.1 ht
    exact ⟨ha, hb, (hbody _ _).1 h⟩
  · rintro ⟨ha, hb, h⟩
    exact ⟨_, check_eq_ok.2 ⟨ha, rfl⟩,
      Outcome.bind_eq_ok.2 ⟨_, check_eq_ok.2 ⟨hb, rfl⟩, (hbody _ _).2 h⟩⟩

theorem exists_of_getElem?_modify {nodes : List Node} {f : Node → Node} {t i : Nat} {node : Node}
    (h : (nodes.modify t f)[i]? = some node) :
    ∃ old, nodes[i]? = some old ∧ (if t = i then f old else old) = node := by
  rw [List.getElem?_modify] at h
  exact Option.map_eq_some_iff.1 h

theorem exists_of_mem_modify {nodes : List Node} {f : Node → Node} {t : Nat} {node : Node}
    (h : node ∈ nodes.modify t f) : ∃ old ∈ nodes, f old = node ∨ old = node := by
  obtain ⟨i, hi⟩ := List.mem_iff_getElem?.1 h
  obtain ⟨old, hold, hnode⟩ := exists_of_getElem?_modify hi
  refine ⟨old, List.mem_of_getElem? hold, ?_⟩
  split at hnode
  · exact .inl hnode
  · exact .inr hnode

theorem dependenciesAt_modify (t : Nat) (f : Node → Node) (edges : List Order.Edge) (i : Nat) :
    (⟨g.nodes.modify t f, edges⟩ : Graph).dependenciesAt i =
      if i = t then (g.nodes[i]?.map fun node => (f node).dependencies).getD []
      else g.dependenciesAt i := by
  unfold dependenciesAt
  rw [List.getElem?_modify]
  by_cases h : i = t
  · subst h
    rw [if_pos rfl]
    cases g.nodes[i]? <;> simp
  · rw [if_neg h]
    cases g.nodes[i]? <;> simp [Ne.symm h]

theorem dependenciesAt_addDependency {t : Nat} (ht : t < g.size) {a : Handle}
    (ha : a ∉ g.dependenciesAt t) (edges : List Order.Edge) (i : Nat) :
    (⟨g.nodes.modify t (·.addDependency a), edges⟩ : Graph).dependenciesAt i =
      if i = t then g.dependenciesAt t ++ [a] else g.dependenciesAt i := by
  rw [dependenciesAt_modify]
  split
  · rename_i hi
    subst hi
    have hnode : g.nodes[i]? = some g.nodes[i] := List.getElem?_eq_getElem ht
    have hnew : (g.dependenciesAt i).contains a = false := by simpa using ha
    rw [dependenciesAt_eq hnode] at hnew ⊢
    rw [hnode, Option.map_some, Option.getD_some, Node.addDependency, Node.addOnce, hnew]
    rfl
  · rfl

/-- **An ordering keeps a graph consistent.** -/
theorem Consistent.runsBefore (hg : g.Consistent) {a b : Handle} (ha : a < positions)
    (hb : b < positions) (hok : g.runsBefore a b = .ok g') : g'.Consistent := by
  obtain ⟨has, hbs, h⟩ := runsBefore_eq_ok.1 hok
  rw [position_eq ha] at has h
  rw [position_eq hb] at hbs h
  rcases h with ⟨-, rfl⟩ | ⟨hnew, hne, hpath, rfl⟩
  · exact hg
  have hdeps := dependenciesAt_addDependency hbs hnew (g.edges ++ [(a, b)])
  have hnodes : ∀ (i : Nat) (node : Node), (g.nodes.modify b (·.addDependency a))[i]? = some node →
      ∃ old : Node, g.nodes[i]? = some old ∧ node.handle = old.handle ∧ node.bindings = old.bindings ∧
        ∀ d ∈ old.dependencies, d ∈ node.dependencies := by
    intro i node hi
    obtain ⟨old, hold, rfl⟩ := exists_of_getElem?_modify hi
    refine ⟨old, hold, ?_⟩
    split
    · exact ⟨rfl, rfl, fun d hd => Node.mem_addOnce.2 (.inl hd)⟩
    · exact ⟨rfl, rfl, fun d hd => hd⟩
  have hsize : (⟨g.nodes.modify b (·.addDependency a), g.edges ++ [(a, b)]⟩ : Graph).size =
      g.size := by simp [size]
  have hmem : ∀ i d, d ∈ (if i = b then g.dependenciesAt b ++ [a] else g.dependenciesAt i) ↔
      d ∈ g.dependenciesAt i ∨ i = b ∧ d = a := by
    intro i d
    split
    · rename_i hi
      simp [hi]
    · rename_i hi
      simp [hi]
  refine ⟨?_, ?_, ?_, ?_, ?_, ?_, ?_, ?_⟩
  · intro i node hi
    obtain ⟨old, hold, hhandle, -⟩ := hnodes i node hi
    rw [hhandle]
    exact hg.handle_eq i old hold
  · intro i
    rw [hdeps]
    split
    · refine List.nodup_append.2 ⟨hg.nodup b, by simp, ?_⟩
      rintro x hx y hy rfl
      exact hnew (List.mem_singleton.1 hy ▸ hx)
    · exact hg.nodup i
  · intro i d hd
    rw [hdeps, hmem] at hd
    rw [hsize]
    rcases hd with hd | ⟨-, rfl⟩
    · exact hg.exist i d hd
    · exact has
  · intro i d hd
    rw [hdeps, hmem] at hd
    rcases hd with hd | ⟨-, rfl⟩
    · exact hg.in_range i d hd
    · exact ha
  · intro x y
    rw [hdeps, hmem, List.mem_append, hg.edge_iff, List.mem_singleton, Prod.mk.injEq,
      and_comm (a := x = a)]
  · refine List.nodup_append.2 ⟨hg.edges_nodup, by simp, ?_⟩
    rintro e he e' he' rfl
    rw [List.mem_singleton.1 he', hg.edge_iff] at he
    exact hnew he
  · intro i node hi x hx p hp
    obtain ⟨old, hold, -, hbind, hsub⟩ := hnodes i node hi
    rw [hbind] at hx
    obtain ⟨hlt, hp⟩ := hg.earlier i old hold x hx p hp
    exact ⟨hlt, hsub _ hp⟩
  · -- the edges hold no path back, and the search for one is exact
    refine Order.acyclic_append hg.acyclic fun hpath' => ?_
    rw [Order.hasPath_iff.2 hpath'] at hpath
    cases hpath

/-- **A chain keeps a graph consistent**, wherever it stops. -/
theorem Consistent.chain {rest : List Handle} : ∀ {g : Graph} {cursor : Handle}, g.Consistent →
    cursor < positions → (∀ h ∈ rest, h < positions) → (g.chain cursor rest).1.Consistent := by
  induction rest with
  | nil => exact fun hg _ _ => hg
  | cons next rest ih =>
    intro g cursor hg hcursor hrest
    have hnext : next < positions := hrest next (by simp)
    rw [Graph.chain]
    split
    · rename_i g' hok
      exact ih (hg.runsBefore hcursor hnext hok) hnext
        fun h hh => hrest h (List.mem_cons_of_mem _ hh)
    · -- a refused step leaves the graph of the steps before it
      exact hg

/-! ## Changes of other fields -/

/-- **A change that leaves handle, inputs and dependencies alone** keeps a graph consistent. -/
theorem Consistent.modify (hg : g.Consistent) (t : Nat) {f : Node → Node}
    (hf : ∀ node, (f node).handle = node.handle ∧ (f node).bindings = node.bindings ∧
      (f node).dependencies = node.dependencies) :
    (⟨g.nodes.modify t f, g.edges⟩ : Graph).Consistent := by
  have hdeps : ∀ i, (⟨g.nodes.modify t f, g.edges⟩ : Graph).dependenciesAt i =
      g.dependenciesAt i := by
    intro i
    rw [dependenciesAt_modify]
    split
    · simp only [(hf _).2.2, dependenciesAt]
    · rfl
  have hnodes : ∀ (i : Nat) (node : Node), (g.nodes.modify t f)[i]? = some node →
      ∃ old : Node, g.nodes[i]? = some old ∧ node.handle = old.handle ∧ node.bindings = old.bindings ∧
        node.dependencies = old.dependencies := by
    intro i node hi
    obtain ⟨old, hold, rfl⟩ := exists_of_getElem?_modify hi
    refine ⟨old, hold, ?_⟩
    split
    · exact hf old
    · exact ⟨rfl, rfl, rfl⟩
  refine ⟨?_, ?_, ?_, ?_, ?_, hg.edges_nodup, ?_, hg.acyclic⟩
  · intro i node hi
    obtain ⟨old, hold, hhandle, -⟩ := hnodes i node hi
    rw [hhandle]
    exact hg.handle_eq i old hold
  · intro i
    rw [hdeps]
    exact hg.nodup i
  · intro i d hd
    rw [hdeps] at hd
    have := hg.exist i d hd
    simpa [size] using this
  · intro i d hd
    rw [hdeps] at hd
    exact hg.in_range i d hd
  · intro a b
    rw [hdeps]
    exact hg.edge_iff a b
  · intro i node hi b hb p hp
    obtain ⟨old, hold, -, hbind, hsame⟩ := hnodes i node hi
    rw [hbind] at hb
    rw [hsame]
    exact hg.earlier i old hold b hb p hp

end Graph

end Workflow
