import Workflow.Proofs.Graph.Journal

/-!
# What an override call leaves alone

A call changes the parts of a node, or of its entity, that the groups of its fields control. Requests
and limits are two fields of one group, and are written together.

* `Workspace.write`: what a checked call writes, as a function of its writes. `override_eq` says that
  an override is its check followed by these.
* `Overrides.Group.Kept`: the part of a group is the same before and after. `Spares.kept` says that it
  is where nothing is written to it.
* `unset_kept`: a group that a call leaves unset keeps its part. Of requests and limits, the list that
  is left unset is emptied when the other one is set.
* `not_kept_beside`: so requests may be lost by a call that sets limits, and limits by one that sets
  requests.
-/

namespace Workflow

/-! ## Parts of a node and its entity -/

namespace Node

/-- The quantities that a node asks for. -/
def requests (node : Node) : List ResourceEntry := (node.resources.map (·.requests)).getD []

/-- The quantities that a node is limited to. -/
def limits (node : Node) : List ResourceEntry := (node.resources.map (·.limits)).getD []

end Node

/-- A setting is the same before and after, in the metadata of a node and in that of the instances of
its entity. -/
def SameSetting {α : Type} (setting : NodeMetadata → α) (node node' : Node) (e e' : RunEntity) :
    Prop :=
  setting node'.metadata = setting node.metadata ∧
    setting e'.subNodeMetadata = setting e.subNodeMetadata

/-- The part that a group of fields controls is the same before and after. -/
def Overrides.Group.Kept (k : Group) (node node' : Node) (e e' : RunEntity) : Prop :=
  match k with
  | .nodeName => node'.id = node.id
  | .aliases => node'.aliases = node.aliases
  | .resources => node'.resources = node.resources
  | .timeout => SameSetting (·.timeout) node node' e e'
  | .retries => SameSetting (·.retries) node node' e e'
  | .interruptible => SameSetting (·.interruptible) node node' e e'
  | .name => SameSetting (·.name) node node' e e'
  | .taskConfig => e'.taskConfig = e.taskConfig
  | .containerImage => node'.containerImage = node.containerImage
  | .accelerator => node'.extendedResources.accelerator = node.extendedResources.accelerator
  | .cache => SameSetting (·.cacheable) node node' e e' ∧
    SameSetting (·.cacheVersion) node node' e e' ∧ SameSetting (·.cacheSerializable) node node' e e'
  | .sharedMemory => node'.extendedResources.sharedMemory = node.extendedResources.sharedMemory
  | .podTemplate => node'.podTemplate = node.podTemplate

namespace NodeUpdate

variable {u : NodeUpdate} {node : Node} {e : RunEntity} {isArrayMap : Bool}

/-- A setting that the metadata writes leave alone is left alone on whichever side they go to. -/
theorem sameSetting {α : Type} {setting : NodeMetadata → α}
    (h : ∀ m, setting (u.metadata.apply m) = setting m) :
    SameSetting setting node (u.applyToNode isArrayMap node) e (u.applyToEntity e) := by
  unfold SameSetting applyToNode applyToEntity
  refine ⟨?_, ?_⟩
  · simp only
    split
    · rfl
    · exact h _
  · simp only
    split
    · exact h _
    · rfl

/-- **Where nothing is written** everything is kept. -/
theorem Spares.kept {k : Overrides.Group} (h : u.Spares k) :
    k.Kept node (u.applyToNode isArrayMap node) e (u.applyToEntity e) := by
  -- a write that is left out gives way to what was there
  cases k with
  | nodeName => exact congrArg (·.getD node.id) h
  | aliases => exact congrArg (·.getD node.aliases) h
  | resources => exact congrArg (·.or node.resources) h
  | timeout => exact sameSetting fun m => congrArg (·.or m.timeout) h
  | retries => exact sameSetting fun m => congrArg (RetryStrategy.mk <| ·.getD m.retries.retries) h
  | interruptible => exact sameSetting fun m => congrArg (·.or m.interruptible) h
  | name => exact sameSetting fun m => congrArg (·.getD m.name) h
  | taskConfig => exact congrArg (·.or e.taskConfig) h
  | containerImage => exact congrArg (·.or node.containerImage) h
  | accelerator => exact congrArg (·.or node.extendedResources.accelerator) h
  | cache =>
    refine ⟨sameSetting fun m => ?_, sameSetting fun m => ?_, sameSetting fun m => ?_⟩
    · exact congrArg (fun c => c.cacheable.getD m.cacheable) h
    · exact congrArg (fun c => c.cacheVersion.or m.cacheVersion) h
    · exact congrArg (fun c => c.cacheSerializable.getD m.cacheSerializable) h
  | sharedMemory => exact congrArg (·.or node.extendedResources.sharedMemory) h
  | podTemplate => exact congrArg (·.or node.podTemplate) h

end NodeUpdate

/-! ## Requests and limits -/

namespace Overrides

variable {o : Overrides} {present : Option TaskConfig} {u : NodeUpdate} {node : Node}
  {isArrayMap : Bool}

/-- Requests and limits that are given one by one are written together, and one that is left unset is
written as an empty list. -/
theorem checkResources_beside {written : Option ResourceRequirements} (hr : o.resources = none)
    (hset : o.requests ≠ none ∨ o.limits ≠ none) (h : o.checkResources = .ok written) :
    ∃ r, written = some r ∧ (o.requests = none → r.requests = []) ∧
      (o.limits = none → r.limits = []) := by
  unfold checkResources at h
  rw [hr] at h
  simp only at h
  split at h
  · rename_i hnone
    simp only [Bool.and_eq_true, Option.isNone_iff_eq_none] at hnone
    exact absurd hset (by simp [hnone])
  · obtain ⟨requests, hrequests, h⟩ := Outcome.bind_eq_ok.1 h
    obtain ⟨limits, hlimits, h⟩ := Outcome.bind_eq_ok.1 h
    refine ⟨⟨requests, limits⟩, (Outcome.pure_eq_ok.1 h).symm, fun hunset => ?_, fun hunset => ?_⟩
    · rw [hunset] at hrequests
      cases hrequests
      rfl
    · rw [hunset] at hlimits
      cases hlimits
      rfl

namespace Checked

/-- **Requests that are left unset** are kept unless limits are set, and then there are none. -/
theorem requests_eq (h : o.Checked present u) (hr : o.resources = none) (hunset : o.requests = none) :
    (u.applyToNode isArrayMap node).requests = if o.limits = none then node.requests else [] := by
  unfold Node.requests NodeUpdate.applyToNode
  by_cases hlimits : o.limits = none
  · rw [if_pos hlimits]
    have hnone : u.resources = none := h.spares (k := .resources) ⟨hr, hunset, hlimits⟩
    simp only [hnone, Option.none_or]
  · rw [if_neg hlimits]
    obtain ⟨r, hwritten, hempty, -⟩ := checkResources_beside hr (.inr hlimits) h.resources
    simp only [hwritten, Option.some_or, Option.map_some, Option.getD_some, hempty hunset]

/-- **Limits that are left unset** are kept unless requests are set, and then there are none. -/
theorem limits_eq (h : o.Checked present u) (hr : o.resources = none) (hunset : o.limits = none) :
    (u.applyToNode isArrayMap node).limits = if o.requests = none then node.limits else [] := by
  unfold Node.limits NodeUpdate.applyToNode
  by_cases hrequests : o.requests = none
  · rw [if_pos hrequests]
    have hnone : u.resources = none := h.spares (k := .resources) ⟨hr, hrequests, hunset⟩
    simp only [hnone, Option.none_or]
  · rw [if_neg hrequests]
    obtain ⟨r, hwritten, -, hempty⟩ := checkResources_beside hr (.inl hrequests) h.resources
    simp only [hwritten, Option.some_or, Option.map_some, Option.getD_some, hempty hunset]

end Checked

end Overrides

/-! ## Calls on a workspace -/

namespace Workspace

variable {w w' : Workspace} {i : Nat} {h : Handle} {node : Node} {o : Overrides} {u : NodeUpdate}

/-- Writes to the node of a handle, and to the entity at place `k` of the table, which it runs. -/
def write (w : Workspace) (i : Nat) (h : Handle) (k : Nat) (u : NodeUpdate) : Workspace where
  entities := w.entities.set k (u.applyToEntity (w.entity k))
  graphs := w.graphs.set i ⟨(w.graph i).nodes.modify (Graph.position h)
    (u.applyToNode (w.entity k).isArrayMap), (w.graph i).edges⟩

/-- **An override** is its check, and then its writes. -/
theorem override_eq (hnode : (w.graph i).node? h = some node) (o : Overrides) :
    w.override i h o =
      (o.check (w.entity node.entity).taskConfig).map (w.write i h node.entity) := by
  unfold override
  simp only [hnode]
  cases o.check (w.entity node.entity).taskConfig <;> rfl

theorem override_eq_ok_iff (hnode : (w.graph i).node? h = some node) :
    w.override i h o = .ok w' ↔ ∃ u, o.check (w.entity node.entity).taskConfig = .ok u ∧
      w.write i h node.entity u = w' := by
  rw [override_eq hnode, Outcome.map_eq_ok]

theorem graph_write (hnode : (w.graph i).node? h = some node) (k : Nat) (u : NodeUpdate) :
    (w.write i h k u).graph i = ⟨(w.graph i).nodes.modify (Graph.position h)
      (u.applyToNode (w.entity k).isArrayMap), (w.graph i).edges⟩ := by
  rw [graph_of_set (i := i) rfl, if_pos ⟨rfl, graph_lt_of_node? hnode⟩]

theorem node?_write (hnode : (w.graph i).node? h = some node) (k : Nat) (u : NodeUpdate) :
    ((w.write i h k u).graph i).node? h =
      some (u.applyToNode (w.entity k).isArrayMap node) := by
  rw [graph_write hnode, Graph.node?, List.getElem?_modify_eq,
    show (w.graph i).nodes[Graph.position h]? = some node from hnode]
  rfl

theorem entity_write (hcheck : o.check (w.entity node.entity).taskConfig = .ok u) :
    (w.write i h node.entity u).entity node.entity = u.applyToEntity (w.entity node.entity) := by
  rw [entity_override hcheck rfl, if_pos rfl]

/-- **What a call leaves unset keeps its value**, group by group, whatever else the call sets. Of
requests and limits each can be set without the other one, and the one that is left unset is emptied:
it is kept when the other one is unset as well, or when there was nothing in it. -/
theorem unset_kept (hnode : (w.graph i).node? h = some node) (hok : w.override i h o = .ok w') :
    ∃ node', (w'.graph i).node? h = some node' ∧ node'.entity = node.entity ∧
      (∀ k : Overrides.Group, k.Unset o →
        k.Kept node node' (w.entity node.entity) (w'.entity node.entity)) ∧
      (o.resources = none → o.requests = none →
        (node'.requests = node.requests ↔ o.limits = none ∨ node.requests = [])) ∧
      (o.resources = none → o.limits = none →
        (node'.limits = node.limits ↔ o.requests = none ∨ node.limits = [])) := by
  obtain ⟨u, hcheck, rfl⟩ := (override_eq_ok_iff hnode).1 hok
  have hchecked := Overrides.check_eq_ok_iff.1 hcheck
  refine ⟨_, node?_write hnode _ u, rfl, fun k hunset => ?_, fun hr hunset => ?_,
    fun hr hunset => ?_⟩
  · rw [entity_write hcheck]
    exact (hchecked.spares hunset).kept
  · rw [hchecked.requests_eq hr hunset]
    split
    · rename_i hlimits
      exact iff_of_true rfl (.inl hlimits)
    · rename_i hlimits
      rw [or_iff_right hlimits, eq_comm]
  · rw [hchecked.limits_eq hr hunset]
    split
    · rename_i hrequests
      exact iff_of_true rfl (.inl hrequests)
    · rename_i hrequests
      rw [or_iff_right hrequests, eq_comm]

/-- A workspace with a node that has a deadline, asks for one processor and is limited to two. -/
def boundedNode : Workspace :=
  (ofEntities [.ofName .task "train"]).run [.add 0 none 0 [],
    .override 0 0
      { timeout := some (.seconds 90), requests := some { cpu := some (.single (.value "1")) },
        limits := some { cpu := some (.single (.value "2")) } }]

/-- A call that sets limits and no requests. -/
def limitsAlone : Overrides := { limits := some { cpu := some (.single (.value "4")) } }

/-- A call that sets requests and no limits. -/
def requestsAlone : Overrides := { requests := some { cpu := some (.single (.value "3")) } }

theorem unset_kept_limits : ∃ node w' node', (boundedNode.graph 0).node? 0 = some node ∧
    boundedNode.override 0 0 limitsAlone = .ok w' ∧ (w'.graph 0).node? 0 = some node' ∧
    Overrides.Group.timeout.Unset limitsAlone ∧
    node.metadata.timeout = some (.ofSeconds 90) ∧ node'.metadata.timeout = node.metadata.timeout ∧
    node.requests = [⟨.cpu, "1"⟩] ∧ node'.requests ≠ node.requests := by
  obtain ⟨node, hnode⟩ : ∃ node, (boundedNode.graph 0).node? 0 = some node :=
    Option.isSome_iff_exists.1 (by decide +kernel)
  obtain ⟨w', hok⟩ : ∃ w', boundedNode.override 0 0 limitsAlone = .ok w' := ⟨_, rfl⟩
  have htimeout : ((boundedNode.graph 0).node? 0).map (·.metadata.timeout) =
      some (some (.ofSeconds 90)) := by decide +kernel
  have hrequests : ((boundedNode.graph 0).node? 0).map (·.requests) =
      some [⟨.cpu, "1"⟩] := by decide +kernel
  rw [hnode] at htimeout hrequests
  have hasked : node.requests = [⟨.cpu, "1"⟩] := Option.some.inj hrequests
  obtain ⟨node', hnode', -, hkept, hlost, -⟩ := unset_kept hnode hok
  refine ⟨node, w', node', hnode, hok, hnode', rfl, Option.some.inj htimeout,
    (hkept .timeout rfl).1, hasked, fun hsame => ?_⟩
  rcases (hlost rfl rfl).1 hsame with hunset | hempty
  · cases hunset
  · rw [hasked] at hempty
    cases hempty

/-- **Requests are lost** by a call that sets limits and leaves them unset, and **limits** by a call
that sets requests. -/
theorem not_kept_beside : ∃ node w₁ node₁ w₂ node₂, (boundedNode.graph 0).node? 0 = some node ∧
    node.requests = [⟨.cpu, "1"⟩] ∧ node.limits = [⟨.cpu, "2"⟩] ∧
    (limitsAlone.requests = none ∧ limitsAlone.resources = none ∧
      boundedNode.override 0 0 limitsAlone = .ok w₁ ∧ (w₁.graph 0).node? 0 = some node₁ ∧
      node₁.requests = []) ∧
    requestsAlone.limits = none ∧ requestsAlone.resources = none ∧
      boundedNode.override 0 0 requestsAlone = .ok w₂ ∧ (w₂.graph 0).node? 0 = some node₂ ∧
      node₂.limits = [] :=
  ⟨_, _, _, _, _, rfl, rfl, rfl, ⟨rfl, rfl, rfl, rfl, rfl⟩, rfl, rfl, rfl, rfl, rfl⟩

end Workspace

end Workflow
