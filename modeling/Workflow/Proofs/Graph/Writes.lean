import Workflow.Graph.Overrides
import Workflow.Proofs.Outcome

/-!
# What a checked call writes

The fields of an override call fall into groups, and each check of a call reads the fields of one
group and gives the writes to one part of the node or of its entity.

* `Overrides.Checked`: the checks of a call, one by one. `check_eq_ok_iff` says that a call is
  accepted when each of them gives its part of the writes.
* `Overrides.Group`: the groups of fields. `Reads` says that a check reads one group, and what it
  gives for a call without it.
* `Checked.spares`: a call writes nothing to the part of a group that it leaves unset.
-/

namespace Workflow

/-- The writes to the cache settings alone. -/
def MetadataUpdate.cachePart (m : MetadataUpdate) : MetadataUpdate :=
  { cacheable := m.cacheable, cacheVersion := m.cacheVersion,
    cacheSerializable := m.cacheSerializable }

namespace Overrides

variable {o : Overrides} {present : Option TaskConfig} {u : NodeUpdate} {m : MetadataUpdate}

/-! ## The checks of a call -/

/-- What the checks of the metadata fields give. -/
structure MetadataChecked (o : Overrides) (m : MetadataUpdate) : Prop where
  name : m.name = o.name
  timeout : o.checkTimeout = .ok m.timeout
  retries : Param.known? "retries" o.retries = .ok m.retries
  interruptible : Param.known? "interruptible" o.interruptible = .ok m.interruptible
  cache : o.checkCache = .ok m.cachePart

/-- What the checks of a call give, on a node whose entity has the configuration `present`. -/
structure Checked (o : Overrides) (present : Option TaskConfig) (u : NodeUpdate) : Prop where
  id : o.checkNodeName = .ok u.id
  aliases : u.aliases = o.aliases.map Alias.ofDict
  resources : o.checkResources = .ok u.resources
  taskConfig : o.checkTaskConfig present = .ok u.taskConfig
  containerImage : Param.known? "container_image" o.containerImage = .ok u.containerImage
  accelerator : Param.known? "accelerator" o.accelerator = .ok u.accelerator
  sharedMemory : Param.known? "shared_memory" o.sharedMemory = .ok u.sharedMemory
  podTemplate : Param.known? "pod_template" o.podTemplate = .ok u.podTemplate
  metadata : o.checkMetadata = .ok u.metadata

/-- **What known cache fields write**: a switch, or none, leaves version and serialization to their
own fields, and is turned on with a version only. A policy brings both, and these fields are left
out. -/
theorem cacheUpdate_eq_ok {cache : Option Cache} {version : Option String} {serialize : Option Bool}
    (h : cacheUpdate cache version serialize = .ok m) :
    (∃ on : Option Bool, cache = on.map .enabled ∧ (on = some true → version.isSome) ∧
      m = { cacheable := on, cacheVersion := version, cacheSerializable := serialize }) ∨
    ∃ v s, cache = some (.policy ⟨some v, s⟩) ∧ version = none ∧ serialize = none ∧
      m = { cacheable := some true, cacheVersion := some v, cacheSerializable := some s } := by
  unfold cacheUpdate at h
  split at h
  · cases h
    exact .inl ⟨none, rfl, nofun, rfl⟩
  · rename_i on
    split at h
    · cases h
    · rename_i hversion
      cases h
      refine .inl ⟨some on, rfl, ?_, rfl⟩
      rintro ⟨⟩
      simpa [Option.isSome_iff_ne_none] using hversion
  · rename_i policy
    split at h
    · cases h
    · rename_i halone
      split at h
      · cases h
      · rename_i v hv
        cases h
        obtain ⟨hserialize, hversion⟩ : serialize = none ∧ version = none := by simpa using halone
        exact .inr ⟨v, policy.serialize, by rw [← hv], hversion, hserialize, rfl⟩

/-- The cache fields write to the cache settings only. -/
theorem cachePart_of_checkCache (h : o.checkCache = .ok m) : m.cachePart = m := by
  unfold checkCache at h
  obtain ⟨version, -, h⟩ := Outcome.bind_eq_ok.1 h
  obtain ⟨serialize, -, h⟩ := Outcome.bind_eq_ok.1 h
  obtain ⟨cache, -, h⟩ := Outcome.bind_eq_ok.1 h
  obtain ⟨_, -, -, rfl⟩ | ⟨_, _, -, -, -, rfl⟩ := cacheUpdate_eq_ok h
  · rfl
  · rfl

theorem checkMetadata_eq_ok_iff : o.checkMetadata = .ok m ↔ o.MetadataChecked m := by
  unfold checkMetadata
  constructor
  · intro h
    obtain ⟨timeout, htimeout, h⟩ := Outcome.bind_eq_ok.1 h
    obtain ⟨retries, hretries, h⟩ := Outcome.bind_eq_ok.1 h
    obtain ⟨interruptible, hinterruptible, h⟩ := Outcome.bind_eq_ok.1 h
    obtain ⟨cache, hcache, h⟩ := Outcome.bind_eq_ok.1 h
    obtain rfl := Outcome.pure_eq_ok.1 h
    refine ⟨rfl, htimeout, hretries, hinterruptible, hcache.trans ?_⟩
    exact congrArg Except.ok (cachePart_of_checkCache hcache).symm
  · intro h
    refine Outcome.bind_eq_ok.2 ⟨_, h.timeout, Outcome.bind_eq_ok.2 ⟨_, h.retries, ?_⟩⟩
    refine Outcome.bind_eq_ok.2 ⟨_, h.interruptible, Outcome.bind_eq_ok.2 ⟨_, h.cache, ?_⟩⟩
    rw [← h.name]
    rfl

/-- **A call is accepted** when each of its checks gives its part of the writes. -/
theorem check_eq_ok_iff : o.check present = .ok u ↔ o.Checked present u := by
  unfold check
  constructor
  · intro h
    obtain ⟨id, hid, h⟩ := Outcome.bind_eq_ok.1 h
    obtain ⟨resources, hresources, h⟩ := Outcome.bind_eq_ok.1 h
    obtain ⟨taskConfig, htaskConfig, h⟩ := Outcome.bind_eq_ok.1 h
    obtain ⟨containerImage, hcontainerImage, h⟩ := Outcome.bind_eq_ok.1 h
    obtain ⟨accelerator, haccelerator, h⟩ := Outcome.bind_eq_ok.1 h
    obtain ⟨sharedMemory, hsharedMemory, h⟩ := Outcome.bind_eq_ok.1 h
    obtain ⟨podTemplate, hpodTemplate, h⟩ := Outcome.bind_eq_ok.1 h
    obtain ⟨metadata, hmetadata, h⟩ := Outcome.bind_eq_ok.1 h
    obtain rfl := Outcome.pure_eq_ok.1 h
    exact ⟨hid, rfl, hresources, htaskConfig, hcontainerImage, haccelerator, hsharedMemory,
      hpodTemplate, hmetadata⟩
  · intro h
    refine Outcome.bind_eq_ok.2 ⟨_, h.id, Outcome.bind_eq_ok.2 ⟨_, h.resources, ?_⟩⟩
    refine Outcome.bind_eq_ok.2 ⟨_, h.taskConfig, Outcome.bind_eq_ok.2 ⟨_, h.containerImage, ?_⟩⟩
    refine Outcome.bind_eq_ok.2 ⟨_, h.accelerator, Outcome.bind_eq_ok.2 ⟨_, h.sharedMemory, ?_⟩⟩
    refine Outcome.bind_eq_ok.2 ⟨_, h.podTemplate, Outcome.bind_eq_ok.2 ⟨_, h.metadata, ?_⟩⟩
    rw [← h.aliases]
    rfl

/-! ## Groups of fields -/

/-- The groups of fields, each with a part of the node or of its entity to itself. -/
inductive Group where
  | nodeName
  | aliases
  /-- `resources` with `requests` and `limits`. -/
  | resources
  | timeout
  | retries
  | interruptible
  | name
  | taskConfig
  | containerImage
  | accelerator
  /-- `cache` with `cacheSerialize` and `cacheVersion`. -/
  | cache
  | sharedMemory
  | podTemplate
deriving DecidableEq

namespace Group

/-- Two calls have the same fields in a group. -/
def Agree : Group → Overrides → Overrides → Prop
  | .nodeName, a, b => a.nodeName = b.nodeName
  | .aliases, a, b => a.aliases = b.aliases
  | .resources, a, b => a.resources = b.resources ∧ a.requests = b.requests ∧ a.limits = b.limits
  | .timeout, a, b => a.timeout = b.timeout
  | .retries, a, b => a.retries = b.retries
  | .interruptible, a, b => a.interruptible = b.interruptible
  | .name, a, b => a.name = b.name
  | .taskConfig, a, b => a.taskConfig = b.taskConfig
  | .containerImage, a, b => a.containerImage = b.containerImage
  | .accelerator, a, b => a.accelerator = b.accelerator
  | .cache, a, b => a.cache = b.cache ∧ a.cacheSerialize = b.cacheSerialize ∧
    a.cacheVersion = b.cacheVersion
  | .sharedMemory, a, b => a.sharedMemory = b.sharedMemory
  | .podTemplate, a, b => a.podTemplate = b.podTemplate

/-- A call sets no field of a group. -/
def Unset (k : Group) (o : Overrides) : Prop := k.Agree o {}

variable {α : Type} {k : Group} {check : Overrides → Except GraphError α} {idle : α}

/-- A check reads the fields of one group only, and gives `idle` when none of them is set. -/
structure Reads (k : Group) (check : Overrides → Except GraphError α) (idle : α) : Prop where
  congr : ∀ {a b : Overrides}, k.Agree a b → check a = check b
  idle : check {} = .ok idle

theorem Reads.of_unset (h : k.Reads check idle) (ho : k.Unset o) : check o = .ok idle :=
  (h.congr ho).trans h.idle

/-- A field that may be promised is a group of its own. -/
theorem reads_known? {place : String} {field : Overrides → Option (Param α)}
    (hfield : ∀ a b, k.Agree a b → field a = field b) (hnone : field {} = none) :
    k.Reads (fun o => Param.known? place (field o)) none where
  congr hab := by rw [hfield _ _ hab]
  idle := by
    simp only [hnone]
    rfl

end Group

theorem checkNodeName_reads : Group.nodeName.Reads checkNodeName none where
  congr hab := by
    unfold checkNodeName
    rw [hab]
  idle := rfl

theorem checkResources_reads : Group.resources.Reads checkResources none where
  congr hab := by
    unfold checkResources
    rw [hab.1, hab.2.1, hab.2.2]
  idle := rfl

theorem checkTaskConfig_reads (present : Option TaskConfig) :
    Group.taskConfig.Reads (fun o => o.checkTaskConfig present) none where
  congr hab := by
    unfold checkTaskConfig
    rw [hab]
  idle := rfl

theorem checkTimeout_reads : Group.timeout.Reads checkTimeout none where
  congr hab := by
    unfold checkTimeout
    rw [hab]
  idle := rfl

theorem checkCache_reads : Group.cache.Reads checkCache {} where
  congr hab := by
    unfold checkCache
    rw [hab.1, hab.2.1, hab.2.2]
  idle := rfl

end Overrides

/-! ## Writes that are left out -/

/-- Nothing is written to the part that a group of fields controls. -/
def NodeUpdate.Spares (u : NodeUpdate) : Overrides.Group → Prop
  | .nodeName => u.id = none
  | .aliases => u.aliases = none
  | .resources => u.resources = none
  | .timeout => u.metadata.timeout = none
  | .retries => u.metadata.retries = none
  | .interruptible => u.metadata.interruptible = none
  | .name => u.metadata.name = none
  | .taskConfig => u.taskConfig = none
  | .containerImage => u.containerImage = none
  | .accelerator => u.accelerator = none
  | .cache => u.metadata.cachePart = {}
  | .sharedMemory => u.sharedMemory = none
  | .podTemplate => u.podTemplate = none

namespace Overrides.Checked

variable {o : Overrides} {present : Option TaskConfig} {u : NodeUpdate} {k : Group}

/-- **A group that is left unset** gives no writes. -/
theorem spares (h : o.Checked present u) (ho : k.Unset o) : u.Spares k := by
  have hmetadata := checkMetadata_eq_ok_iff.1 h.metadata
  -- a check gives one result, and on a group left unset it gives nothing
  have hnone : ∀ {α : Type} {check : Overrides → Except GraphError α} {idle r : α},
      k.Reads check idle → check o = .ok r → r = idle :=
    fun hreads hr => Except.ok.inj (hr.symm.trans (hreads.of_unset ho))
  cases k with
  | nodeName => exact hnone checkNodeName_reads h.id
  | aliases =>
    have haliases : o.aliases = none := ho
    rw [NodeUpdate.Spares, h.aliases, haliases]
    rfl
  | resources => exact hnone checkResources_reads h.resources
  | timeout => exact hnone checkTimeout_reads hmetadata.timeout
  | retries => exact hnone (Group.reads_known? (fun _ _ hab => hab) rfl) hmetadata.retries
  | interruptible => exact hnone (Group.reads_known? (fun _ _ hab => hab) rfl) hmetadata.interruptible
  | name => exact hmetadata.name.trans ho
  | taskConfig => exact hnone (checkTaskConfig_reads present) h.taskConfig
  | containerImage => exact hnone (Group.reads_known? (fun _ _ hab => hab) rfl) h.containerImage
  | accelerator => exact hnone (Group.reads_known? (fun _ _ hab => hab) rfl) h.accelerator
  | cache => exact hnone checkCache_reads hmetadata.cache
  | sharedMemory => exact hnone (Group.reads_known? (fun _ _ hab => hab) rfl) h.sharedMemory
  | podTemplate => exact hnone (Group.reads_known? (fun _ _ hab => hab) rfl) h.podTemplate

end Overrides.Checked

end Workflow
