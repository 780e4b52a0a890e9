import Workflow.Proofs.Graph.Frame

/-!
# Two ways to turn the cache on

A call turns the cache on with a switch, and gives the version and the flag for serialization beside
it, or with a policy that brings both. The check of a policy ends where the check of a switch goes
on to the fields beside it.

* `Overrides.withSwitch`, `Overrides.withPolicy`: a call with either in place of its cache fields.
* `check_eq_of_agree`: a call is checked by what the checks of its groups give, so that calls which
  agree outside of the cache, and whose cache checks give the same, cannot be told apart.
* `cache_spellings_agree`: so the two ways are refused alike, or leave the same workspace.
-/

namespace Workflow

/-- The cache is on, with a version and a flag for serialization. -/
structure NodeMetadata.Caches (m : NodeMetadata) (version : String) (serialize : Bool) : Prop where
  cacheable : m.cacheable = true
  cacheVersion : m.cacheVersion = some version
  cacheSerializable : m.cacheSerializable = serialize

/-- Writes that turn the cache on. -/
def MetadataUpdate.caching (version : String) (serialize : Bool) : MetadataUpdate where
  cacheable := some true
  cacheVersion := some version
  cacheSerializable := some serialize

/-- The writes to the cache settings decide how these are afterwards, whatever else is written. -/
theorem MetadataUpdate.caches_apply {u : MetadataUpdate} {version : String} {serialize : Bool}
    (h : u.cachePart = caching version serialize) (m : NodeMetadata) :
    (u.apply m).Caches version serialize where
  cacheable := congrArg (fun c => c.cacheable.getD m.cacheable) h
  cacheVersion := congrArg (fun c => c.cacheVersion.or m.cacheVersion) h
  cacheSerializable := congrArg (fun c => c.cacheSerializable.getD m.cacheSerializable) h

namespace Overrides

variable {a b : Overrides}

/-! ## Calls that differ in the cache -/

/-- **Only the cache checks count** for two calls that agree in every other group. -/
theorem check_eq_of_agree (hagree : ∀ k : Group, k ≠ .cache → k.Agree a b)
    (hcache : a.checkCache = b.checkCache) (present : Option TaskConfig) :
    a.check present = b.check present := by
  have hretries : a.retries = b.retries := hagree .retries nofun
  have hinterruptible : a.interruptible = b.interruptible := hagree .interruptible nofun
  have hname : a.name = b.name := hagree .name nofun
  have hmetadata : a.checkMetadata = b.checkMetadata := by
    unfold checkMetadata
    rw [checkTimeout_reads.congr (hagree .timeout nofun), hretries, hinterruptible, hname, hcache]
  have haliases : a.aliases = b.aliases := hagree .aliases nofun
  have hcontainerImage : a.containerImage = b.containerImage := hagree .containerImage nofun
  have haccelerator : a.accelerator = b.accelerator := hagree .accelerator nofun
  have hsharedMemory : a.sharedMemory = b.sharedMemory := hagree .sharedMemory nofun
  have hpodTemplate : a.podTemplate = b.podTemplate := hagree .podTemplate nofun
  unfold check
  rw [checkNodeName_reads.congr (hagree .nodeName nofun),
    checkResources_reads.congr (hagree .resources nofun),
    (checkTaskConfig_reads present).congr (hagree .taskConfig nofun), hcontainerImage, haccelerator,
    hsharedMemory, hpodTemplate, haliases, hmetadata]

/-- The call with its cache fields replaced by a switch that is on, and what completes it. -/
def withSwitch (o : Overrides) (version : String) (serialize : Bool) : Overrides :=
  { o with
    cache := some (.value (.enabled true))
    cacheVersion := some (.value version)
    cacheSerialize := some (.value serialize) }

/-- The call with its cache fields replaced by a policy. -/
def withPolicy (o : Overrides) (version : String) (serialize : Bool) : Overrides :=
  { o with
    cache := some (.value (.policy ⟨some version, serialize⟩))
    cacheVersion := none
    cacheSerialize := none }

theorem checkCache_withSwitch (o : Overrides) (version : String) (serialize : Bool) :
    (o.withSwitch version serialize).checkCache = .ok (.caching version serialize) := rfl

theorem checkCache_withPolicy (o : Overrides) (version : String) (serialize : Bool) :
    (o.withPolicy version serialize).checkCache = .ok (.caching version serialize) := rfl

theorem agree_withSwitch_withPolicy (o : Overrides) (version : String) (serialize : Bool)
    {k : Group} (hk : k ≠ .cache) :
    k.Agree (o.withSwitch version serialize) (o.withPolicy version serialize) := by
  cases k with
  | cache => exact absurd rfl hk
  | resources => exact ⟨rfl, rfl, rfl⟩
  | _ => rfl

theorem check_withSwitch (o : Overrides) (version : String) (serialize : Bool)
    (present : Option TaskConfig) :
    (o.withSwitch version serialize).check present =
      (o.withPolicy version serialize).check present :=
  check_eq_of_agree (fun _ => agree_withSwitch_withPolicy o version serialize)
    ((checkCache_withSwitch o version serialize).trans
      (checkCache_withPolicy o version serialize).symm) present

/-- What a checked call writes to the cache settings when it brings a policy. -/
theorem cachePart_withPolicy {o : Overrides} {version : String} {serialize : Bool}
    {present : Option TaskConfig} {u : NodeUpdate}
    (h : (o.withPolicy version serialize).check present = .ok u) :
    u.metadata.cachePart = .caching version serialize := by
  have hmetadata := checkMetadata_eq_ok_iff.1 (check_eq_ok_iff.1 h).metadata
  exact Except.ok.inj (hmetadata.cache.symm.trans (checkCache_withPolicy o version serialize))

end Overrides

/-! ## Calls on a workspace -/

namespace Workspace

variable {w w' : Workspace} {i : Nat} {h : Handle} {node : Node}

/-- The metadata that the calls on a node write to: that of the instances if the node runs an array
map, and else its own. -/
def settingsOf (w : Workspace) (node : Node) : NodeMetadata :=
  if (w.entity node.entity).isArrayMap then (w.entity node.entity).subNodeMetadata
  else node.metadata

theorem settingsOf_write {o : Overrides} {u : NodeUpdate}
    (hcheck : o.check (w.entity node.entity).taskConfig = .ok u) :
    (w.write i h node.entity u).settingsOf
        (u.applyToNode (w.entity node.entity).isArrayMap node) =
      u.metadata.apply (w.settingsOf node) := by
  have hsame : (u.applyToNode (w.entity node.entity).isArrayMap node).entity = node.entity := rfl
  have hkind : (u.applyToEntity (w.entity node.entity)).isArrayMap =
      (w.entity node.entity).isArrayMap := rfl
  unfold settingsOf
  rw [hsame, entity_write hcheck, hkind]
  split
  · rename_i harray
    simp only [NodeUpdate.applyToEntity, harray, if_true]
  · rename_i harray
    simp only [NodeUpdate.applyToNode, harray, Bool.false_eq_true, if_false]

/-- **A switch and a policy are as good as each other.** With the same version and flag, and with
any other fields, a call on any node tells the author the same with either. Both are refused with
the same error and leave everything as it was, or both are accepted and leave the same workspace, in
which the cache of the node, or of the instances of its array map, is on with this version and
flag. -/
theorem cache_spellings_agree (w : Workspace) (i : Nat) (h : Handle) (o : Overrides)
    (version : String) (serialize : Bool) :
    let switch := o.withSwitch version serialize
    let policy := o.withPolicy version serialize
    w.notices i h switch = w.notices i h policy ∧
      ((∃ e, w.override i h switch = .error e ∧ w.override i h policy = .error e ∧
          w.perform (.override i h switch) = w ∧ w.perform (.override i h policy) = w) ∨
        ∃ w' node', w.override i h switch = .ok w' ∧ w.override i h policy = .ok w' ∧
          (w'.graph i).node? h = some node' ∧
          (w'.settingsOf node').Caches version serialize) := by
  intro switch policy
  have hrefused : ∀ e, w.override i h switch = .error e → w.override i h policy = .error e →
      w.perform (.override i h switch) = w ∧ w.perform (.override i h policy) = w := by
    intro e hs hp
    simp only [perform, hs, hp, orSame, and_self]
  refine ⟨rfl, ?_⟩
  cases hnode : (w.graph i).node? h with
  | none =>
    have hnone : ∀ o, w.override i h o = .error (.nodeNotFound h) := by
      intro o
      unfold override
      rw [hnode]
      rfl
    exact .inl ⟨_, hnone switch, hnone policy, hrefused _ (hnone switch) (hnone policy)⟩
  | some node =>
    have hsame : w.override i h switch = w.override i h policy := by
      rw [override_eq hnode, override_eq hnode, o.check_withSwitch]
    cases hok : w.override i h policy with
    | error e =>
      have hswitch := hsame.trans hok
      exact .inl ⟨e, hswitch, rfl, hrefused e hswitch hok⟩
    | ok w' =>
      obtain ⟨u, hcheck, rfl⟩ := (override_eq_ok_iff hnode).1 hok
      refine .inr ⟨_, _, hsame.trans hok, rfl, node?_write hnode node.entity u, ?_⟩
      rw [settingsOf_write hcheck]
      exact MetadataUpdate.caches_apply (Overrides.cachePart_withPolicy hcheck) _

end Workspace

end Workflow
