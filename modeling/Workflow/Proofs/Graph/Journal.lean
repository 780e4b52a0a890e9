import Workflow.Proofs.Graph.Reachable
import Workflow.Proofs.Graph.Writes

/-!
# What override calls leave

An entity is shared by nodes of many graphs, and every override of any of them may write to it. The
journal of a history lists the calls that went through, by the entity and by the node they were on.
A clone of a place beyond the last graph is a new empty graph, so there may be any number of graphs.

* `Workspace.journal`: the journal of a list of calls. The nodes of a clone take over the journal of
  the nodes they were made from. `Step` says what a call can do to a workspace and its journal.
* `Follows`: an entity as a list of calls leaves it. `follows_run` says that every entity follows
  its journal, from wherever a history starts.
* `Tells`: the metadata of every node of a graph is what the calls on it made of that of its entity.
  `tells_run` says that the journal tells the nodes of every graph.
* `history_journaled`: after any history entities and nodes are what their journals make of them.
-/

namespace Workflow

/-! ## What a list of calls writes -/

namespace Overrides

variable {o : Overrides} {calls : List Overrides} {present : Option TaskConfig} {u : NodeUpdate}

/-- The metadata part of a call; there is none if it is refused. -/
def metadataWrites (o : Overrides) : MetadataUpdate :=
  match o.checkMetadata with
  | .ok update => update
  | .error _ => {}

/-- Metadata after the metadata parts of calls, in their order. -/
def writeAll (calls : List Overrides) (metadata : NodeMetadata) : NodeMetadata :=
  calls.foldl (fun metadata o => o.metadataWrites.apply metadata) metadata

/-- The configuration of the latest call that gives one, or else the first one. -/
def latestConfig (calls : List Overrides) (first : Option TaskConfig) : Option TaskConfig :=
  (calls.filterMap (·.taskConfig)).getLast?.or first

@[simp] theorem writeAll_nil (metadata : NodeMetadata) : writeAll [] metadata = metadata := rfl

theorem writeAll_append_one (metadata : NodeMetadata) :
    writeAll (calls ++ [o]) metadata = o.metadataWrites.apply (writeAll calls metadata) := by
  simp [writeAll]

theorem latestConfig_append_one (first : Option TaskConfig) :
    latestConfig (calls ++ [o]) first = o.taskConfig.or (latestConfig calls first) := by
  unfold latestConfig
  rw [List.filterMap_append]
  cases h : o.taskConfig <;> simp [h]

theorem checkTaskConfig_eq_ok {config : Option TaskConfig}
    (h : o.checkTaskConfig present = .ok config) : config = o.taskConfig ∧
      ∀ c, config = some c → present.map (·.typeName) = some c.typeName := by
  unfold checkTaskConfig at h
  split at h
  · rename_i hnone
    cases h
    exact ⟨hnone.symm, fun c hc => nomatch hc⟩
  · rename_i c hsome
    split at h
    · rename_i hsame
      cases h
      refine ⟨hsome.symm, ?_⟩
      rintro _ ⟨⟩
      cases present with
      | none => cases hsame
      | some current =>
        have htype : c.typeName = current.typeName := by simpa [TaskConfig.sameType] using hsame
        rw [Option.map_some, htype]
    · cases h

/-- A checked call writes its metadata part and the configuration it gives, which has the type of
the present one. -/
theorem check_eq_ok (h : o.check present = .ok u) : u.metadata = o.metadataWrites ∧
    u.taskConfig = o.taskConfig ∧
      ∀ c, o.taskConfig = some c → present.map (·.typeName) = some c.typeName := by
  have hchecked := check_eq_ok_iff.1 h
  obtain ⟨hconfig, htype⟩ := checkTaskConfig_eq_ok hchecked.taskConfig
  have hwrites : o.metadataWrites = u.metadata := by simp only [metadataWrites, hchecked.metadata]
  exact ⟨hwrites.symm, hconfig, fun c hc => htype c (hconfig.trans hc)⟩

end Overrides

/-! ## Entities and their calls -/

/-- An entity as calls leave it that was `first` before them. -/
structure RunEntity.Follows (first : RunEntity) (calls : List Overrides) (e : RunEntity) :
    Prop where
  kind : e.kind = first.kind
  metadata : e.metadata = first.metadata
  /-- Only an array map takes the metadata parts. -/
  subNodeMetadata : e.subNodeMetadata =
    if first.isArrayMap then Overrides.writeAll calls first.subNodeMetadata
    else first.subNodeMetadata
  taskConfig : e.taskConfig = Overrides.latestConfig calls first.taskConfig
  typeName : e.taskConfig.map (·.typeName) = first.taskConfig.map (·.typeName)

namespace RunEntity.Follows

variable {first e : RunEntity} {calls : List Overrides} {o : Overrides} {u : NodeUpdate}

theorem refl (first : RunEntity) : first.Follows [] first where
  kind := rfl
  metadata := rfl
  subNodeMetadata := by simp
  taskConfig := rfl
  typeName := rfl

theorem isArrayMap (h : first.Follows calls e) : e.isArrayMap = first.isArrayMap := by
  unfold RunEntity.isArrayMap
  rw [h.kind]

/-- **One call more** that was checked and written. -/
theorem applyToEntity (h : first.Follows calls e) (hcheck : o.check e.taskConfig = .ok u) :
    first.Follows (calls ++ [o]) (u.applyToEntity e) := by
  obtain ⟨hmetadata, hconfig, htype⟩ := Overrides.check_eq_ok hcheck
  refine ⟨h.kind, h.metadata, ?_, ?_, ?_⟩
  · have harray := h.isArrayMap
    have hsub := h.subNodeMetadata
    unfold NodeUpdate.applyToEntity
    rw [Overrides.writeAll_append_one, hmetadata, harray]
    split
    · rename_i hmap
      rw [if_pos hmap] at hsub
      exact congrArg o.metadataWrites.apply hsub
    · rename_i hmap
      rwa [if_neg hmap] at hsub
  · unfold NodeUpdate.applyToEntity
    rw [Overrides.latestConfig_append_one, ← h.taskConfig, hconfig]
  · unfold NodeUpdate.applyToEntity
    rw [← h.typeName, hconfig]
    cases hgiven : o.taskConfig with
    | none => rfl
    | some c => exact (htype c hgiven).symm

end RunEntity.Follows

/-- No call changes what stands for an entity that is not there. -/
theorem NodeUpdate.applyToEntity_default {o : Overrides} {u : NodeUpdate}
    (hcheck : o.check (default : RunEntity).taskConfig = .ok u) :
    u.applyToEntity default = default := by
  obtain ⟨-, hconfig, htype⟩ := Overrides.check_eq_ok hcheck
  have hnone : u.taskConfig = none := by
    rw [hconfig]
    cases hgiven : o.taskConfig with
    | none => rfl
    | some c => exact nomatch htype c hgiven
  unfold applyToEntity
  rw [hnone]
  rfl

/-! ## Journals -/

/-- The override calls that went through, the latest last: those on nodes that run an entity, and
those on the node at a position of a graph. -/
structure Journal where
  ofEntity : Nat → List Overrides
  ofNode : Nat → Nat → List Overrides

namespace Journal

/-- The journal before any call. -/
def empty : Journal := ⟨fun _ => [], fun _ _ => []⟩

/-- One call more, on the node at position `n` of graph `i`, which runs the entity `k`. -/
def addCall (j : Journal) (k i n : Nat) (o : Overrides) : Journal where
  ofEntity k' := if k' = k then j.ofEntity k' ++ [o] else j.ofEntity k'
  ofNode i' n' := if i' = i ∧ n' = n then j.ofNode i' n' ++ [o] else j.ofNode i' n'

theorem addCall_ofNode_self (j : Journal) (k i n : Nat) (o : Overrides) :
    (j.addCall k i n o).ofNode i = fun n' =>
      if n' = n then j.ofNode i n' ++ [o] else j.ofNode i n' := by
  simp [addCall]

theorem addCall_ofNode_of_ne {j : Journal} {k i i' n : Nat} {o : Overrides} (hi : i' ≠ i) :
    (j.addCall k i n o).ofNode i' = j.ofNode i' := by
  simp [addCall, hi]

theorem mem_addCall_self (j : Journal) (k i n : Nat) (o : Overrides) :
    o ∈ (j.addCall k i n o).ofNode i n := by
  simp [addCall]

/-- No call is taken back. -/
theorem mem_addCall {j : Journal} {k i i' n n' : Nat} {o call : Overrides}
    (h : call ∈ j.ofNode i' n') : call ∈ (j.addCall k i n o).ofNode i' n' := by
  simp only [addCall]
  split
  · exact List.mem_append_left _ h
  · exact h

/-- Graph `c` becomes a clone of graph `i`. -/
def addClone (j : Journal) (c i : Nat) : Journal :=
  { j with ofNode := fun i' => if i' = c then j.ofNode i else j.ofNode i' }

end Journal

namespace Workspace

variable {w w' : Workspace} {j j' : Journal} {e : Edit} {i : Nat} {g : Graph}

/-- The journal after one call. A refused call is not in it. -/
def record (w : Workspace) (j : Journal) : Edit → Journal
  | .override i h o =>
    match (w.graph i).node? h, w.override i h o with
    | some node, .ok _ => j.addCall node.entity i (Graph.position h) o
    | _, _ => j
  | .clone i => j.addClone w.graphs.length i
  | _ => j

/-- The journal after a list of calls. -/
def journalFrom (w : Workspace) (j : Journal) : List Edit → Journal
  | [] => j
  | e :: edits => (w.perform e).journalFrom (w.record j e) edits

/-- The journal of a list of calls. -/
def journal (w : Workspace) (edits : List Edit) : Journal := w.journalFrom .empty edits

/-! ## What one call does -/

/-- One call on a workspace and its journal. A refused call leaves no trace. -/
inductive Step (w : Workspace) (j : Journal) : Edit → Workspace → Journal → Prop where
  | refused {e : Edit} : Step w j e w j
  | added {i entity : Nat} {name : Option String} {bindings : List (Binding Promise)} {g : Graph}
      {id : String} {h : Handle}
      (hok : (w.graph i).insert id entity (w.entity entity).metadata bindings = .ok (g, h)) :
      Step w j (.add i name entity bindings) (w.setGraph i g) j
  | ordered {i : Nat} {before after : Handle} {g : Graph}
      (hok : (w.graph i).runsBefore before after = .ok g) :
      Step w j (.order i before after) (w.setGraph i g) j
  | chained {i : Nat} {cursor : Handle} {rest : List Handle} :
      Step w j (.chain i cursor rest) (w.setGraph i ((w.graph i).chain cursor rest).1) j
  | overridden {i : Nat} {h : Handle} {o : Overrides} {node : Node} {u : NodeUpdate}
      {w' : Workspace} (hnode : (w.graph i).node? h = some node)
      (hcheck : o.check (w.entity node.entity).taskConfig = .ok u)
      (hentities :
        w'.entities = w.entities.set node.entity (u.applyToEntity (w.entity node.entity)))
      (hgraphs : w'.graphs = w.graphs.set i
        ⟨(w.graph i).nodes.modify (Graph.position h)
          (u.applyToNode (w.entity node.entity).isArrayMap), (w.graph i).edges⟩) :
      Step w j (.override i h o) w' (j.addCall node.entity i (Graph.position h) o)
  | cloned {i : Nat} : Step w j (.clone i) (w.clone i) (j.addClone w.graphs.length i)

/-- **Every call is a step.** -/
theorem step_perform (w : Workspace) (j : Journal) (e : Edit) :
    Step w j e (w.perform e) (w.record j e) := by
  cases e with
  | add i name entity bindings =>
    refine orSame_induction (motive := fun w' => Step w j _ w' j) .refused fun w' hok => ?_
    obtain ⟨⟨_, _⟩, hadd, rfl⟩ := Outcome.map_eq_ok.1 hok
    obtain ⟨_, _, hinsert, rfl⟩ := addNode_eq_ok hadd
    exact .added hinsert
  | order i before after =>
    refine orSame_induction (motive := fun w' => Step w j _ w' j) .refused fun w' hok => ?_
    obtain ⟨_, horder, hret⟩ := Outcome.bind_eq_ok.1 hok
    obtain rfl := Outcome.pure_eq_ok.1 hret
    exact .ordered horder
  | chain i cursor rest => exact .chained
  | override i h o =>
    cases hok : w.override i h o with
    | error err =>
      have hperform : w.perform (.override i h o) = w := by simp only [perform, hok, orSame]
      have hrecord : w.record j (.override i h o) = j := by
        simp only [record, hok]
        cases (w.graph i).node? h <;> rfl
      rw [hperform, hrecord]
      exact .refused
    | ok w' =>
      obtain ⟨node, u, hnode, hcheck, hentities, hgraphs⟩ := override_eq_ok hok
      have hperform : w.perform (.override i h o) = w' := by simp only [perform, hok, orSame]
      have hrecord : w.record j (.override i h o) =
          j.addCall node.entity i (Graph.position h) o := by simp only [record, hnode, hok]
      rw [hperform, hrecord]
      exact .overridden hnode hcheck hentities hgraphs
  | clone i => exact .cloned

theorem graph_of_set (h : w'.graphs = w.graphs.set i g) (i' : Nat) :
    w'.graph i' = if i' = i ∧ i < w.graphs.length then g else w.graph i' := by
  unfold graph
  rw [h, List.getD_eq_getElem?_getD, List.getElem?_set, List.getD_eq_getElem?_getD]
  by_cases hi : i = i'
  · subst hi
    by_cases hlt : i < w.graphs.length
    · simp [hlt]
    · simp [hlt]
  · simp [hi, Ne.symm hi]

theorem graph_clone (i i' : Nat) :
    (w.clone i).graph i' = if i' = w.graphs.length then w.graph i else w.graph i' := by
  have hget : ∀ w : Workspace, w.graph i' = (w.graphs[i']?).getD .empty :=
    fun _ => List.getD_eq_getElem?_getD
  have hclone : (w.clone i).graphs = w.graphs ++ [w.graph i] := rfl
  rw [hget (w.clone i), hclone, hget w]
  rcases Nat.lt_trichotomy i' w.graphs.length with hlt | heq | hgt
  · rw [List.getElem?_append_left hlt, if_neg (Nat.ne_of_lt hlt)]
  · rw [heq, List.getElem?_append_right (Nat.le_refl _), if_pos rfl]
    simp
  · rw [List.getElem?_eq_none (by rw [List.length_append]; exact hgt),
      List.getElem?_eq_none (Nat.le_of_lt hgt), if_neg (Nat.ne_of_gt hgt)]

/-- An override writes to one entity. -/
theorem entity_override {o : Overrides} {node : Node} {u : NodeUpdate}
    (hcheck : o.check (w.entity node.entity).taskConfig = .ok u)
    (hentities : w'.entities = w.entities.set node.entity (u.applyToEntity (w.entity node.entity)))
    (k : Nat) :
    w'.entity k = if k = node.entity then u.applyToEntity (w.entity k) else w.entity k := by
  have hget : ∀ (w : Workspace) k, w.entity k = w.entities.getD k default := fun _ _ => rfl
  by_cases hk : k = node.entity
  · subst hk
    rw [if_pos rfl, hget w', hentities, List.getD_eq_getElem?_getD, List.getElem?_set_self']
    rcases Nat.lt_or_ge node.entity w.entities.length with hlt | hge
    · rw [List.getElem?_eq_getElem hlt]
      rfl
    · -- beyond the table nothing is written, and nothing would change
      have hdefault : w.entity node.entity = default := by
        rw [hget, List.getD_eq_getElem?_getD, List.getElem?_eq_none hge]
        rfl
      rw [hdefault] at hcheck ⊢
      rw [NodeUpdate.applyToEntity_default hcheck, List.getElem?_eq_none hge]
      rfl
  · rw [if_neg hk, hget w', hentities, List.getD_eq_getElem?_getD,
      List.getElem?_set_ne (Ne.symm hk), ← List.getD_eq_getElem?_getD]
    rfl

/-- **Every entity follows its journal** over one call. -/
theorem Step.follows {firstOf : Nat → RunEntity} (h : Step w j e w' j')
    (hw : ∀ k, (firstOf k).Follows (j.ofEntity k) (w.entity k)) (k : Nat) :
    (firstOf k).Follows (j'.ofEntity k) (w'.entity k) := by
  cases h with
  | refused => exact hw k
  | added => exact hw k
  | ordered => exact hw k
  | chained => exact hw k
  | cloned => exact hw k
  | overridden _ hcheck hentities _ =>
    rw [entity_override hcheck hentities]
    simp only [Journal.addCall]
    split
    · rename_i hk
      subst hk
      exact (hw _).applyToEntity hcheck
    · exact hw k

theorem follows_runFrom {firstOf : Nat → RunEntity} (edits : List Edit) :
    ∀ {w : Workspace} {j : Journal}, (∀ k, (firstOf k).Follows (j.ofEntity k) (w.entity k)) →
      ∀ k, (firstOf k).Follows ((w.journalFrom j edits).ofEntity k) ((w.run edits).entity k) := by
  induction edits with
  | nil => exact fun hw => hw
  | cons e edits ih => exact fun hw => ih ((step_perform _ _ e).follows hw)

/-- **Every entity follows its journal**, whatever was before. -/
theorem follows_run (w : Workspace) (edits : List Edit) (k : Nat) :
    (w.entity k).Follows ((w.journal edits).ofEntity k) ((w.run edits).entity k) :=
  follows_runFrom edits (fun k => .refl (w.entity k)) k

end Workspace

/-! ## Nodes and their calls -/

/-- The metadata of every node is what the calls on it make of the metadata that its entity started
with. -/
structure Graph.Tells (firstOf : Nat → RunEntity) (callsOf : Nat → List Overrides) (g : Graph) :
    Prop where
  metadata : ∀ n node, g.nodes[n]? = some node → node.metadata =
    if (firstOf node.entity).isArrayMap then (firstOf node.entity).metadata
    else Overrides.writeAll (callsOf n) (firstOf node.entity).metadata
  /-- No call was on a node that is yet to come. -/
  blank : ∀ n, g.size ≤ n → callsOf n = []

namespace Graph.Tells

variable {firstOf : Nat → RunEntity} {callsOf : Nat → List Overrides} {g g' : Graph} {h : Handle}
  {node : Node} {o : Overrides}

theorem empty (firstOf : Nat → RunEntity) : Graph.empty.Tells firstOf fun _ => [] where
  metadata _ _ hn := nomatch hn
  blank _ _ := rfl

/-- A new node starts from the metadata of its entity. -/
theorem insert (hg : g.Tells firstOf callsOf) {id : String} {entity : Nat}
    {bindings : List (Binding Promise)}
    (hok : g.insert id entity (firstOf entity).metadata bindings = .ok (g', h)) :
    g'.Tells firstOf callsOf := by
  obtain ⟨-, -, rfl⟩ := insert_eq_ok.1 hok
  refine ⟨fun n node hn => ?_, fun n hn => hg.blank n ?_⟩
  · rcases Nat.lt_or_ge n g.nodes.length with hlt | hge
    · rw [List.getElem?_append_left hlt] at hn
      exact hg.metadata n node hn
    · rw [List.getElem?_append_right hge] at hn
      obtain rfl := List.mem_singleton.1 (List.mem_of_getElem? hn)
      rw [hg.blank n hge, Overrides.writeAll_nil, ite_self]
      rfl
  · unfold size at hn
    rw [List.length_append] at hn
    exact Nat.le_of_add_right_le hn

/-- A change of one node that keeps its entity and its metadata. -/
theorem modify (hg : g.Tells firstOf callsOf) (k : Nat) {f : Node → Node} {edges : List Order.Edge}
    (hf : ∀ node, (f node).entity = node.entity ∧ (f node).metadata = node.metadata) :
    (⟨g.nodes.modify k f, edges⟩ : Graph).Tells firstOf callsOf := by
  refine ⟨fun n node hn => ?_, fun n hn => hg.blank n (by simpa [size] using hn)⟩
  rw [List.getElem?_modify] at hn
  obtain ⟨old, hold, rfl⟩ := Option.map_eq_some_iff.1 hn
  have hmetadata := hg.metadata n old hold
  split
  · rwa [(hf old).1, (hf old).2]
  · exact hmetadata

theorem runsBefore (hg : g.Tells firstOf callsOf) {a b : Handle}
    (hok : g.runsBefore a b = .ok g') : g'.Tells firstOf callsOf := by
  obtain ⟨-, -, ⟨-, rfl⟩ | ⟨-, -, -, rfl⟩⟩ := runsBefore_eq_ok.1 hok
  · exact hg
  · exact hg.modify _ fun _ => ⟨rfl, rfl⟩

theorem chain {rest : List Handle} : ∀ {g : Graph} {cursor : Handle},
    g.Tells firstOf callsOf → (g.chain cursor rest).1.Tells firstOf callsOf := by
  induction rest with
  | nil => exact fun hg => hg
  | cons next rest ih =>
    intro g cursor hg
    rw [Graph.chain]
    split
    · rename_i hok
      exact ih (hg.runsBefore hok)
    · exact hg

/-- **One override more** on the node at a position. -/
theorem override (hg : g.Tells firstOf callsOf) {u : NodeUpdate} (hnode : g.node? h = some node)
    (hupdate : u.metadata = o.metadataWrites) {edges : List Order.Edge} :
    (⟨g.nodes.modify (position h) (u.applyToNode (firstOf node.entity).isArrayMap), edges⟩ :
      Graph).Tells firstOf
      fun n => if n = position h then callsOf n ++ [o] else callsOf n := by
  refine ⟨fun n node' hn => ?_, fun n hn => ?_⟩
  · rw [List.getElem?_modify] at hn
    obtain ⟨old, hold, rfl⟩ := Option.map_eq_some_iff.1 hn
    have hmetadata := hg.metadata n old hold
    split
    · rename_i hpos
      subst hpos
      obtain rfl : node = old := Option.some.inj (hnode.symm.trans hold)
      rw [if_pos rfl, Overrides.writeAll_append_one, ← hupdate]
      unfold NodeUpdate.applyToNode
      simp only
      split
      · rename_i hmap
        rwa [if_pos hmap] at hmetadata
      · rename_i hmap
        rw [if_neg hmap] at hmetadata
        rw [hmetadata]
    · rename_i hpos
      rwa [if_neg (Ne.symm hpos)]
  · have hsize : g.size ≤ n := by simpa [size] using hn
    have hpos : position h < g.size := (List.getElem?_eq_some_iff.1 hnode).1
    rw [if_neg (by omega)]
    exact hg.blank n hsize

end Graph.Tells

namespace Workspace

variable {w w' : Workspace} {j j' : Journal} {e : Edit} {firstOf : Nat → RunEntity} {i : Nat}

theorem graph_lt_of_node? {h : Handle} {node : Node} (hnode : (w.graph i).node? h = some node) :
    i < w.graphs.length := by
  by_contra hge
  have hempty : w.graph i = .empty := by
    unfold graph
    rw [List.getD_eq_getElem?_getD, List.getElem?_eq_none (Nat.le_of_not_lt hge)]
    rfl
  rw [hempty] at hnode
  cases hnode

/-- **The journal tells the nodes of every graph** after one call more. -/
theorem Step.tells (h : Step w j e w' j')
    (hfollows : ∀ k, (firstOf k).Follows (j.ofEntity k) (w.entity k))
    (hw : ∀ i, (w.graph i).Tells firstOf (j.ofNode i)) (i' : Nat) :
    (w'.graph i').Tells firstOf (j'.ofNode i') := by
  have hset : ∀ {g i}, g.Tells firstOf (j.ofNode i) →
      ((w.setGraph i g).graph i').Tells firstOf (j.ofNode i') := by
    intro g i hg
    rw [graph_of_set (i := i) (g := g) rfl]
    split
    · rename_i hi
      rwa [hi.1]
    · exact hw i'
  cases h with
  | refused => exact hw i'
  | @added i entity _ _ g id h hok =>
    -- the metadata that the entity has now is what it started with
    rw [(hfollows entity).metadata] at hok
    exact hset ((hw i).insert hok)
  | ordered hok => exact hset ((hw _).runsBefore hok)
  | chained => exact hset (hw _).chain
  | @cloned i =>
    rw [graph_clone]
    simp only [Journal.addClone]
    split
    · exact hw i
    · exact hw i'
  | @overridden i h o node u w' hnode hcheck hentities hgraphs =>
    -- whether the node was written to depends on the kind of its entity, which stays
    rw [(hfollows node.entity).isArrayMap] at hgraphs
    rw [graph_of_set hgraphs]
    by_cases hi : i' = i
    · subst hi
      rw [if_pos ⟨rfl, graph_lt_of_node? hnode⟩, Journal.addCall_ofNode_self]
      exact (hw i').override hnode (Overrides.check_eq_ok hcheck).1
    · rw [if_neg fun hsame => hi hsame.1, Journal.addCall_ofNode_of_ne hi]
      exact hw i'

theorem tells_runFrom (edits : List Edit) : ∀ {w : Workspace} {j : Journal},
    (∀ k, (firstOf k).Follows (j.ofEntity k) (w.entity k)) →
      (∀ i, (w.graph i).Tells firstOf (j.ofNode i)) →
      ∀ i, ((w.run edits).graph i).Tells firstOf ((w.journalFrom j edits).ofNode i) := by
  induction edits with
  | nil => exact fun _ hw => hw
  | cons e edits ih =>
    intro w j hfollows hw
    have hstep := step_perform w j e
    exact ih (hstep.follows hfollows) (hstep.tells hfollows hw)

/-- **After any history the journal tells the nodes of every graph.** -/
theorem tells_run (entities : List RunEntity) (edits : List Edit) (i : Nat) :
    (((ofEntities entities).run edits).graph i).Tells (ofEntities entities).entity
      (((ofEntities entities).journal edits).ofNode i) := by
  refine tells_runFrom edits (fun k => .refl _) (fun i => ?_) i
  exact graph_induction (.empty _) (fun g hg => List.mem_singleton.1 hg ▸ .empty _) i

/-- **After any history entities and nodes are what the calls that went through make of them.** The
metadata parts of the calls on an array map go to the metadata of its instances, whichever node they
were on, and the nodes keep what the entity gave them. Any other entity keeps that metadata, and a
node has what the calls on it wrote. The configuration is the latest one that a call gave, and its
type stays. -/
theorem history_journaled (entities : List RunEntity) (edits : List Edit) (k : Nat) :
    let first := (ofEntities entities).entity k
    let w := (ofEntities entities).run edits
    let calls := (ofEntities entities).journal edits
    (w.entity k).kind = first.kind ∧
      (w.entity k).metadata = first.metadata ∧
      (first.isArrayMap = true →
        (w.entity k).subNodeMetadata =
          Overrides.writeAll (calls.ofEntity k) first.subNodeMetadata ∧
        ∀ i, ∀ node ∈ (w.graph i).nodes, node.entity = k → node.metadata = first.metadata) ∧
      (first.isArrayMap = false →
        (w.entity k).subNodeMetadata = first.subNodeMetadata ∧
        ∀ (i n : Nat) (node : Node), (w.graph i).nodes[n]? = some node → node.entity = k →
          node.metadata = Overrides.writeAll (calls.ofNode i n) first.metadata) ∧
      (w.entity k).taskConfig = Overrides.latestConfig (calls.ofEntity k) first.taskConfig ∧
      (w.entity k).taskConfig.map (·.typeName) = first.taskConfig.map (·.typeName) := by
  intro first w calls
  have hentity : first.Follows (calls.ofEntity k) (w.entity k) := follows_run _ edits k
  have hnodes := tells_run entities edits
  have hsub := hentity.subNodeMetadata
  refine ⟨hentity.kind, hentity.metadata, fun hmap => ⟨?_, ?_⟩, fun hmap => ⟨?_, ?_⟩,
    hentity.taskConfig, hentity.typeName⟩
  · rwa [if_pos hmap] at hsub
  · rintro i node hnode rfl
    obtain ⟨n, hn⟩ := List.mem_iff_getElem?.1 hnode
    rw [(hnodes i).metadata n node hn, if_pos hmap]
  · rwa [if_neg (by rw [hmap]; decide)] at hsub
  · rintro i n node hn rfl
    rw [(hnodes i).metadata n node hn, if_neg (by rw [show _ = false from hmap]; decide)]

/-- Overrides of an array map and of a task, through a graph and through its clone. The last call is
refused, as it turns the cache on without a version. -/
def sharedEdits : List Edit :=
  [.add 0 none 0 [], .add 0 none 1 [], .override 0 0 { name := some "first" },
    .override 0 1 { retries := some (.value 2) }, .clone 0,
    .override 1 0 { interruptible := some (.value true) }, .override 1 1 { name := some "copy" },
    .override 0 1 { name := some "late", cache := some (.value (.enabled true)) }]

theorem history_journaled_shared :
    let w := (ofEntities [.ofName .arrayMap "each", .ofName .task "sum"]).run sharedEdits
    (w.entity 0).subNodeMetadata = { name := "first", interruptible := some true } ∧
      (∀ node ∈ (w.graph 1).nodes, node.entity = 0 → node.metadata = { name := "each" }) ∧
      ∃ node copy, (w.graph 0).nodes[1]? = some node ∧ (w.graph 1).nodes[1]? = some copy ∧
        node.metadata = { name := "sum", retries := ⟨2⟩ } ∧
        copy.metadata = { name := "copy", retries := ⟨2⟩ } := by
  intro w
  have heach := history_journaled [.ofName .arrayMap "each", .ofName .task "sum"] sharedEdits 0
  have hsum := history_journaled [.ofName .arrayMap "each", .ofName .task "sum"] sharedEdits 1
  obtain ⟨-, -, heach, -⟩ := heach
  obtain ⟨-, -, -, hsum, -⟩ := hsum
  obtain ⟨hsub, hnodes⟩ := heach rfl
  obtain ⟨-, hsum⟩ := hsum rfl
  obtain ⟨node, hnode⟩ : ∃ node, (w.graph 0).nodes[1]? = some node :=
    Option.isSome_iff_exists.1 (by decide +kernel)
  obtain ⟨copy, hcopy⟩ : ∃ copy, (w.graph 1).nodes[1]? = some copy :=
    Option.isSome_iff_exists.1 (by decide +kernel)
  have hentity : ∀ i < 2, ((w.graph i).nodes[1]?.map (·.entity)) = some 1 := by decide +kernel
  have hnodeEntity : node.entity = 1 := by simpa [hnode] using hentity 0 (by decide)
  have hcopyEntity : copy.entity = 1 := by simpa [hcopy] using hentity 1 (by decide)
  refine ⟨hsub.trans (by decide +kernel), fun node hn he => ?_, node, copy, hnode, hcopy,
    (hsum 0 1 node hnode hnodeEntity).trans (by decide +kernel),
    (hsum 1 1 copy hcopy hcopyEntity).trans (by decide +kernel)⟩
  exact (hnodes 1 node hn he).trans (by decide +kernel)

end Workspace

end Workflow
