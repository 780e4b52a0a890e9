import Workflow.Proofs.Graph.History
import Workflow.Proofs.Outcome
import Workflow.Proofs.Text.Label

/-!
# Which override calls are accepted

A call is accepted or refused as a whole, by conditions on its fields and on the configuration of
the entity.

* `Overrides.Admissible`: the conditions, one for each group of fields.
* `Decides`: a check that succeeds under a condition and fails for a stated reason. Chains of checks
  are decided by the conditions of their parts (`Decides.bind`, `Decides.mapM`).
* `Overrides.check_decides`: the whole check is decided by `Admissible`.
* `override_outcome`: an admissible call goes through, and any other leaves the workspace as it was.
-/

namespace Workflow

/-! ## Promises in fields -/

/-- A field that is set to a promise. -/
def Param.Promised {α : Type} (field : Option (Param α)) : Prop := ∃ p, field = some (.promise p)

/-- A quantity, or a side of a pair, that is a promise. -/
def ResourceValue.HasPromise : ResourceValue → Prop
  | .single quantity => ∃ p, quantity = .promise p
  | .bounded request limit => (∃ p, request = .promise p) ∨ ∃ p, limit = .promise p

/-- A pair of a request and a limit. -/
def ResourceValue.IsPair : ResourceValue → Prop
  | .single _ => False
  | .bounded _ _ => True

def Resources.HasPromise (r : Resources) : Prop :=
  ∃ name value, r.get name = some value ∧ value.HasPromise

/-- Quantities that are all single. -/
def Resources.IsSingle (r : Resources) : Prop :=
  ∀ name value, r.get name = some value → ¬ value.IsPair

/-- Some field of a call is a promise. -/
inductive Overrides.HasPromise (o : Overrides) : Prop where
  | nodeName (h : Param.Promised o.nodeName)
  | retries (h : Param.Promised o.retries)
  | interruptible (h : Param.Promised o.interruptible)
  | containerImage (h : Param.Promised o.containerImage)
  | accelerator (h : Param.Promised o.accelerator)
  | cache (h : Param.Promised o.cache)
  | cacheSerialize (h : Param.Promised o.cacheSerialize)
  | cacheVersion (h : Param.Promised o.cacheVersion)
  | sharedMemory (h : Param.Promised o.sharedMemory)
  | podTemplate (h : Param.Promised o.podTemplate)
  | resources (r : Resources) (h : o.resources = some r) (hr : r.HasPromise)
  | requests (r : Resources) (h : o.requests = some r) (hr : r.HasPromise)
  | limits (r : Resources) (h : o.limits = some r) (hr : r.HasPromise)

/-! ## Conditions -/

/-- A deadline that can be set. -/
def Timeout.Admissible : Timeout → Prop
  | .clear => True
  | .seconds count => 0 ≤ count.toInt
  | .duration value => 0 ≤ value.nanos
  | .text words => ∃ d, Duration.readChars? (Text.trim words.toList) = some d ∧ 0 ≤ d.nanos

/-- The conditions on a call, for an entity with the configuration `present`. -/
structure Overrides.Admissible (o : Overrides) (present : Option TaskConfig) : Prop where
  known : ¬ o.HasPromise
  nodeName : ∀ name, o.nodeName = some (.value name) → ∃ c ∈ name.toList, c.isAlphanum = true
  resourcesAlone : o.resources ≠ none → o.requests = none ∧ o.limits = none
  requestsSingle : ∀ r, o.requests = some r → r.IsSingle
  limitsSingle : ∀ r, o.limits = some r → r.IsSingle
  sameType : ∀ config, o.taskConfig = some config →
    ∃ current, present = some current ∧ current.typeName = config.typeName
  timeout : ∀ t, o.timeout = some t → t.Admissible
  switchVersion : o.cache = some (.value (.enabled true)) → o.cacheVersion ≠ none
  policy : ∀ policy, o.cache = some (.value (.policy policy)) →
    policy.version ≠ none ∧ o.cacheVersion = none ∧ o.cacheSerialize = none

/-! ## Checks and what decides them -/

/-- A check that succeeds when `accepted` holds. It fails with a value error, or with an assertion
where `promised` holds. -/
structure Decides {α : Type} (x : Except GraphError α) (accepted promised : Prop) : Prop where
  isOk : (∃ a, x = .ok a) ↔ accepted
  kind : ∀ e, x = .error e → e.kind = .invalidValue ∨ e.kind = .assertion ∧ promised

namespace Decides

variable {α β : Type} {x : Except GraphError α} {f : α → Except GraphError β}
  {P Q p q : Prop}

theorem pure (a : α) : Decides (.ok a) True p where
  isOk := by simp
  kind := by
    intro e he
    cases he

theorem invalid (text : String) :
    Decides (.error (.invalidValue text) : Except GraphError α) False p where
  isOk := by simp
  kind := by
    intro e he
    cases he
    exact .inl rfl

theorem congr (h : Decides x P p) (hPQ : P ↔ Q) : Decides x Q p where
  isOk := h.isOk.trans hPQ
  kind := h.kind

theorem mono (h : Decides x P p) (hpq : p → q) : Decides x P q where
  isOk := h.isOk
  kind := fun e he => (h.kind e he).imp id fun ⟨hkind, hp⟩ => ⟨hkind, hpq hp⟩

/-- **A chain** is decided by both of its parts. -/
theorem bind (hx : Decides x P p) (hf : ∀ a, x = .ok a → Decides (f a) Q p) :
    Decides (x >>= f) (P ∧ Q) p := by
  cases x with
  | error e =>
    have hP : ¬ P := by
      intro hP
      obtain ⟨a, ha⟩ := hx.isOk.2 hP
      cases ha
    refine ⟨iff_of_false ?_ fun h => hP h.1, ?_⟩
    · rintro ⟨b, hb⟩
      cases hb
    · intro e' he'
      cases he'
      exact hx.kind e rfl
  | ok a =>
    have hP : P := hx.isOk.1 ⟨a, rfl⟩
    exact (hf a rfl).congr ⟨fun hQ => ⟨hP, hQ⟩, And.right⟩

theorem map (hx : Decides x P p) (g : α → β) : Decides (x.map g) P p := by
  have hchain := hx.bind (f := fun a => .ok (g a)) fun a _ => pure (g a)
  have hmap : x.map g = x >>= fun a => .ok (g a) := by cases x <;> rfl
  rw [hmap]
  exact hchain.congr (by simp)

/-- **A check for each member** is decided by all members. -/
theorem mapM {P : α → Prop} {xs : List α} (h : ∀ x ∈ xs, Decides (f x) (P x) p) :
    Decides (xs.mapM f) (∀ x ∈ xs, P x) p := by
  induction xs with
  | nil => exact (Decides.pure []).congr (by simp)
  | cons x xs ih =>
    rw [List.mapM_cons]
    have hx := h x (by simp)
    have hxs := ih fun x hx => h x (by simp [hx])
    exact (hx.bind fun a _ => hxs.bind fun as _ => Decides.pure (a :: as)).congr (by simp)

end Decides

namespace Param

variable {α : Type} {p : Prop}

theorem known_decides (place : String) (x : Param α) :
    Decides (x.known place) (¬ ∃ p, x = .promise p) (∃ p, x = .promise p) := by
  cases x with
  | value v => exact (Decides.pure v).congr (by simp)
  | promise p => exact ⟨by simp [known], fun e he => by cases he; exact .inr ⟨rfl, p, rfl⟩⟩

theorem known?_decides (place : String) (x : Option (Param α)) :
    Decides (known? place x) (¬ Promised x) (Promised x) := by
  cases x with
  | none => exact (Decides.pure none).congr (by simp [Promised])
  | some x => simpa [Promised, known?] using (known_decides place x).map some

theorem known?_eq_ok {place : String} {x : Option (Param α)} {v : Option α}
    (h : known? place x = .ok v) : x = v.map .value := by
  cases x with
  | none => cases h; rfl
  | some x =>
    cases x with
    | value a => cases h; rfl
    | promise p => cases h

end Param

/-! ## Resources -/

namespace Resources

theorem mem_all (name : ResourceName) : name ∈ ResourceName.all := by
  cases name <;> decide

theorem entry_decides (place : String) (name : ResourceName) (value : Option ResourceValue) :
    Decides (entry place name value) (∀ v, value = some v → ¬ v.IsPair ∧ ¬ v.HasPromise)
      (∃ v, value = some v ∧ v.HasPromise) := by
  cases value with
  | none => exact (Decides.pure []).congr (by simp)
  | some v =>
    cases v with
    | single quantity =>
      have hknown := (Param.known_decides place quantity).bind fun q _ =>
        Decides.pure [ResourceEntry.mk name q]
      refine (hknown.mono fun h => ⟨_, rfl, h⟩).congr ?_
      simp [ResourceValue.IsPair, ResourceValue.HasPromise]
    | bounded request limit =>
      exact (Decides.invalid _).congr (by simp [ResourceValue.IsPair])

/-- A list that takes single quantities has no pair and no promise in it. -/
theorem entries_decides (place : String) (r : Resources) :
    Decides (r.entries place) (r.IsSingle ∧ ¬ r.HasPromise) r.HasPromise := by
  have heach : ∀ name ∈ ResourceName.all, Decides (entry place name (r.get name))
      (∀ v, r.get name = some v → ¬ v.IsPair ∧ ¬ v.HasPromise) r.HasPromise :=
    fun name _ => (entry_decides place name (r.get name)).mono fun ⟨v, hv, hp⟩ => ⟨name, v, hv, hp⟩
  refine ((Decides.mapM heach).bind fun entries _ => Decides.pure entries.flatten).congr ?_
  constructor
  · rintro ⟨h, -⟩
    refine ⟨fun name v hv => (h name (mem_all name) v hv).1, ?_⟩
    rintro ⟨name, v, hv, hp⟩
    exact (h name (mem_all name) v hv).2 hp
  · rintro ⟨hsingle, hknown⟩
    exact ⟨fun name _ v hv => ⟨hsingle name v hv, fun hp => hknown ⟨name, v, hv, hp⟩⟩, trivial⟩

theorem share_decides (name : ResourceName) (value : Option ResourceValue) :
    Decides (share name value) (∀ v, value = some v → ¬ v.HasPromise)
      (∃ v, value = some v ∧ v.HasPromise) := by
  cases value with
  | none => exact (Decides.pure _).congr (by simp)
  | some v =>
    cases v with
    | single request =>
      refine (((Param.known_decides _ request).bind fun q _ => Decides.pure _).mono
        fun h => ⟨_, rfl, h⟩).congr ?_
      simp [ResourceValue.HasPromise]
    | bounded request limit =>
      refine ((((Param.known_decides _ request).mono ?_).bind fun q _ =>
        ((Param.known_decides _ limit).mono ?_).bind fun l _ => Decides.pure _)).congr ?_
      · exact fun h => ⟨_, rfl, .inl h⟩
      · exact fun h => ⟨_, rfl, .inr h⟩
      · simp [ResourceValue.HasPromise]

/-- Quantities and pairs may be split unless there is a promise in them. -/
theorem split_decides (r : Resources) : Decides r.split (¬ r.HasPromise) r.HasPromise := by
  have heach : ∀ name ∈ ResourceName.all, Decides (share name (r.get name))
      (∀ v, r.get name = some v → ¬ v.HasPromise) r.HasPromise :=
    fun name _ => (share_decides name (r.get name)).mono fun ⟨v, hv, hp⟩ => ⟨name, v, hv, hp⟩
  refine ((Decides.mapM heach).bind fun shares _ => Decides.pure _).congr ?_
  constructor
  · rintro ⟨h, -⟩ ⟨name, v, hv, hp⟩
    exact h name (mem_all name) v hv hp
  · intro hknown
    exact ⟨fun name _ v hv hp => hknown ⟨name, v, hv, hp⟩, trivial⟩

end Resources

/-! ## The fields of a call -/

namespace Timeout

theorem nonnegative_decides {p : Prop} (d : Duration) :
    Decides (nonnegative d) (0 ≤ d.nanos) p := by
  unfold nonnegative Duration.isNegative
  by_cases h : d.nanos < 0
  · rw [if_pos (by simpa using h)]
    exact (Decides.invalid _).congr (iff_of_false not_false (by omega))
  · rw [if_neg (by simpa using h)]
    exact (Decides.pure d).congr (iff_of_true trivial (by omega))

theorem resolve_decides {p : Prop} (t : Timeout) : Decides t.resolve t.Admissible p := by
  cases t with
  | clear => exact Decides.pure _
  | seconds count =>
    refine (nonnegative_decides (Duration.ofSeconds count)).congr ?_
    simp only [Duration.ofSeconds, Duration.second, Admissible]
    omega
  | duration value => exact nonnegative_decides value
  | text words =>
    simp only [resolve, Admissible]
    cases Duration.readChars? (Text.trim words.toList) with
    | none =>
      refine Decides.congr (Decides.invalid _) ?_
      simp
    | some d =>
      refine (nonnegative_decides d).congr ?_
      simp

end Timeout

namespace Overrides

variable {o : Overrides} {present : Option TaskConfig}

theorem checkNodeName_decides (o : Overrides) : Decides o.checkNodeName
    (¬ Param.Promised o.nodeName ∧
      ∀ name, o.nodeName = some (.value name) → ∃ c ∈ name.toList, c.isAlphanum = true)
    o.HasPromise := by
  refine ((Param.known?_decides "node_name" o.nodeName).mono .nodeName).bind ?_
  intro name hname
  have hfield := Param.known?_eq_ok hname
  rw [hfield]
  cases name with
  | none => exact (Decides.pure none).congr (by simp)
  | some name =>
    have hempty := Label.ofName_isEmpty name
    simp only
    split
    · rename_i hlabel
      refine (Decides.invalid _).congr ?_
      simpa using hempty.1 hlabel
    · rename_i hlabel
      refine (Decides.pure _).congr ?_
      rw [hempty, not_not] at hlabel
      simpa using hlabel

theorem checkEntries_decides {p : Prop} (place : String) (field : Option Resources)
    (hp : ∀ r, field = some r → r.HasPromise → p) :
    Decides (checkEntries place field)
      (∀ r, field = some r → r.IsSingle ∧ ¬ r.HasPromise) p := by
  cases field with
  | none => exact (Decides.pure []).congr (by simp)
  | some r => exact ((r.entries_decides place).mono (hp r rfl)).congr (by simp)

/-- What `checkResources` asks for. -/
structure ResourcesAdmissible (o : Overrides) : Prop where
  alone : o.resources ≠ none → o.requests = none ∧ o.limits = none
  resources : ∀ r, o.resources = some r → ¬ r.HasPromise
  requests : ∀ r, o.requests = some r → r.IsSingle ∧ ¬ r.HasPromise
  limits : ∀ r, o.limits = some r → r.IsSingle ∧ ¬ r.HasPromise

theorem checkResources_decides (o : Overrides) :
    Decides o.checkResources o.ResourcesAdmissible o.HasPromise := by
  unfold checkResources
  cases hresources : o.resources with
  | some r =>
    simp only
    split
    · rename_i hmixed
      refine (Decides.invalid _).congr ?_
      refine iff_of_false not_false fun h => ?_
      have halone := h.alone (by simp [hresources])
      simp [halone] at hmixed
    · rename_i halone
      obtain ⟨hrequests, hlimits⟩ : o.requests = none ∧ o.limits = none := by simpa using halone
      have hsplit := (r.split_decides.map some).mono (HasPromise.resources r hresources)
      refine hsplit.congr ⟨fun h => ?_, fun h => ?_⟩
      · exact ⟨fun _ => ⟨hrequests, hlimits⟩, by simp [hresources, h], by simp [hrequests],
          by simp [hlimits]⟩
      · exact h.resources r hresources
  | none =>
    simp only
    split
    · rename_i hnone
      obtain ⟨hrequests, hlimits⟩ : o.requests = none ∧ o.limits = none := by simpa using hnone
      refine (Decides.pure none).congr (iff_of_true trivial ?_)
      exact ⟨by simp [hresources], by simp [hresources], by simp [hrequests], by simp [hlimits]⟩
    · refine ((checkEntries_decides _ o.requests fun r h hr => .requests r h hr).bind fun _ _ =>
        (checkEntries_decides _ o.limits fun r h hr => .limits r h hr).bind fun _ _ =>
          Decides.pure _).congr ⟨fun h => ?_, fun h => ?_⟩
      · exact ⟨by simp [hresources], by simp [hresources], h.1, h.2.1⟩
      · exact ⟨h.requests, h.limits, trivial⟩

theorem checkTaskConfig_decides {p : Prop} (o : Overrides) (present : Option TaskConfig) :
    Decides (o.checkTaskConfig present) (∀ config, o.taskConfig = some config →
      ∃ current, present = some current ∧ current.typeName = config.typeName) p := by
  unfold checkTaskConfig
  cases hconfig : o.taskConfig with
  | none => exact (Decides.pure none).congr (by simp)
  | some config =>
    have hsame : present.any config.sameType = true ↔
        ∃ current, present = some current ∧ current.typeName = config.typeName := by
      cases present with
      | none => simp
      | some current =>
        simp only [Option.any_some, TaskConfig.sameType, beq_iff_eq, Option.some.injEq,
          exists_eq_left']
        exact eq_comm
    simp only [Option.some.injEq, forall_eq']
    split
    · rename_i h
      exact (Decides.pure _).congr (iff_of_true trivial (hsame.1 h))
    · rename_i h
      exact (Decides.invalid _).congr (iff_of_false not_false (mt hsame.2 h))

/-- What the cache fields ask for, once they are known values. -/
structure CacheAdmissible (cache : Option Cache) (version : Option String)
    (serialize : Option Bool) : Prop where
  switchVersion : cache = some (.enabled true) → version ≠ none
  policy : ∀ policy, cache = some (.policy policy) →
    policy.version ≠ none ∧ version = none ∧ serialize = none

theorem cacheUpdate_decides {p : Prop} (cache : Option Cache) (version : Option String)
    (serialize : Option Bool) :
    Decides (cacheUpdate cache version serialize) (CacheAdmissible cache version serialize) p := by
  unfold cacheUpdate
  split
  · exact (Decides.pure _).congr (iff_of_true trivial ⟨by simp, by simp⟩)
  · rename_i on
    split
    · rename_i h
      refine (Decides.invalid _).congr (iff_of_false not_false fun hc => ?_)
      obtain ⟨rfl, hversion⟩ : on = true ∧ version = none := by simpa using h
      exact hc.switchVersion rfl hversion
    · rename_i h
      refine (Decides.pure _).congr (iff_of_true trivial ⟨?_, by simp⟩)
      rintro hon rfl
      cases hon
      exact h rfl
  · rename_i policy
    split
    · rename_i h
      refine (Decides.invalid _).congr (iff_of_false not_false fun hc => ?_)
      obtain ⟨-, hversion, hserialize⟩ := hc.policy policy rfl
      simp [hversion, hserialize] at h
    · rename_i h
      obtain ⟨hserialize, hversion⟩ : serialize = none ∧ version = none := by simpa using h
      split
      · rename_i hnone
        refine (Decides.invalid _).congr (iff_of_false not_false fun hc => ?_)
        exact (hc.policy policy rfl).1 hnone
      · rename_i v hsome
        refine (Decides.pure _).congr (iff_of_true trivial ⟨by simp, ?_⟩)
        rintro policy' heq
        cases heq
        exact ⟨by simp [hsome], hversion, hserialize⟩

theorem checkCache_decides (o : Overrides) : Decides o.checkCache
    (¬ Param.Promised o.cacheVersion ∧ ¬ Param.Promised o.cacheSerialize ∧
      ¬ Param.Promised o.cache ∧
      (o.cache = some (.value (.enabled true)) → o.cacheVersion ≠ none) ∧
      ∀ policy, o.cache = some (.value (.policy policy)) →
        policy.version ≠ none ∧ o.cacheVersion = none ∧ o.cacheSerialize = none)
    o.HasPromise := by
  refine ((Param.known?_decides _ o.cacheVersion).mono .cacheVersion).bind fun version hversion => ?_
  refine ((Param.known?_decides _ o.cacheSerialize).mono .cacheSerialize).bind
    fun serialize hserialize => ?_
  refine ((Param.known?_decides _ o.cache).mono .cache).bind fun cache hcache => ?_
  rw [Param.known?_eq_ok hversion, Param.known?_eq_ok hserialize, Param.known?_eq_ok hcache]
  refine (cacheUpdate_decides cache version serialize).congr ⟨fun h => ⟨?_, ?_⟩, fun h => ⟨?_, ?_⟩⟩
  · simpa using h.switchVersion
  · simpa using h.policy
  · simpa using h.1
  · simpa using h.2

theorem checkTimeout_decides {p : Prop} (o : Overrides) :
    Decides o.checkTimeout (∀ t, o.timeout = some t → t.Admissible) p := by
  unfold checkTimeout
  cases o.timeout with
  | none => exact (Decides.pure none).congr (by simp)
  | some t => exact (t.resolve_decides.map some).congr (by simp)

/-- **The check of a call** is decided by the conditions on its fields. -/
theorem check_decides (o : Overrides) (present : Option TaskConfig) :
    Decides (o.check present) (o.Admissible present) o.HasPromise := by
  have hmetadata := o.checkTimeout_decides.bind fun timeout _ =>
    ((Param.known?_decides "retries" o.retries).mono HasPromise.retries).bind fun retries _ =>
    ((Param.known?_decides "interruptible" o.interruptible).mono .interruptible).bind
      fun interruptible _ => o.checkCache_decides.bind fun cache _ =>
        Decides.pure (MetadataUpdate.mk o.name timeout retries interruptible cache.cacheable
          cache.cacheVersion cache.cacheSerializable)
  have hcheck := o.checkNodeName_decides.bind fun id _ => o.checkResources_decides.bind
    fun resources _ => (o.checkTaskConfig_decides present).bind fun taskConfig _ =>
    ((Param.known?_decides "container_image" o.containerImage).mono .containerImage).bind
      fun containerImage _ =>
    ((Param.known?_decides "accelerator" o.accelerator).mono .accelerator).bind
      fun accelerator _ =>
    ((Param.known?_decides "shared_memory" o.sharedMemory).mono .sharedMemory).bind
      fun sharedMemory _ =>
    ((Param.known?_decides "pod_template" o.podTemplate).mono .podTemplate).bind
      fun podTemplate _ => hmetadata.bind fun metadata _ =>
        Decides.pure (NodeUpdate.mk id (o.aliases.map Alias.ofDict) resources taskConfig
          containerImage accelerator sharedMemory podTemplate metadata)
  refine hcheck.congr ⟨?_, fun h => ?_⟩
  · rintro ⟨⟨hid, hname⟩, hresources, htype, himage, haccelerator, hshared, hpod,
      ⟨htimeout, hretries, hinterruptible, ⟨hversion, hserialize, hcache, hswitch, hpolicy⟩, -⟩, -⟩
    refine ⟨fun hp => ?_, hname, hresources.alone, fun r hr => (hresources.requests r hr).1,
      fun r hr => (hresources.limits r hr).1, htype, htimeout, hswitch, hpolicy⟩
    cases hp with
    | nodeName h => exact hid h
    | retries h => exact hretries h
    | interruptible h => exact hinterruptible h
    | containerImage h => exact himage h
    | accelerator h => exact haccelerator h
    | cache h => exact hcache h
    | cacheSerialize h => exact hserialize h
    | cacheVersion h => exact hversion h
    | sharedMemory h => exact hshared h
    | podTemplate h => exact hpod h
    | resources r h hr => exact hresources.resources r h hr
    | requests r h hr => exact (hresources.requests r h).2 hr
    | limits r h hr => exact (hresources.limits r h).2 hr
  · have hk := h.known
    have hresources : o.ResourcesAdmissible :=
      ⟨h.resourcesAlone, fun r hr hp => hk (.resources r hr hp),
        fun r hr => ⟨h.requestsSingle r hr, fun hp => hk (.requests r hr hp)⟩,
        fun r hr => ⟨h.limitsSingle r hr, fun hp => hk (.limits r hr hp)⟩⟩
    exact ⟨⟨fun hp => hk (.nodeName hp), h.nodeName⟩, hresources, h.sameType,
      fun hp => hk (.containerImage hp), fun hp => hk (.accelerator hp),
      fun hp => hk (.sharedMemory hp), fun hp => hk (.podTemplate hp),
      ⟨h.timeout, fun hp => hk (.retries hp), fun hp => hk (.interruptible hp),
        ⟨fun hp => hk (.cacheVersion hp), fun hp => hk (.cacheSerialize hp),
          fun hp => hk (.cache hp), h.switchVersion, h.policy⟩, trivial⟩, trivial⟩

end Overrides

/-! ## Calls on a workspace -/

namespace Workspace

variable {w : Workspace} {i : Nat} {h : Handle} {node : Node}

/-- **An override call** on a node goes through when it is admissible for the node's entity. Any
other call is refused with a value error, or an assertion if some field is a promise, and leaves
nodes, entities and graphs as they were. -/
theorem override_outcome (hnode : (w.graph i).node? h = some node) (o : Overrides) :
    ((∃ w', w.override i h o = .ok w') ↔ o.Admissible (w.entity node.entity).taskConfig) ∧
      ∀ e, w.override i h o = .error e →
        (e.kind = .invalidValue ∨ e.kind = .assertion ∧ o.HasPromise) ∧
          w.perform (.override i h o) = w := by
  have hcheck := o.check_decides (w.entity node.entity).taskConfig
  -- once the call is checked nothing can fail any more
  obtain ⟨written, hwritten⟩ : ∃ written : NodeUpdate → Workspace, w.override i h o =
      (o.check (w.entity node.entity).taskConfig >>= fun update => .ok (written update)) := by
    unfold override
    rw [hnode]
    exact ⟨_, rfl⟩
  have hdecides := hcheck.bind fun update _ => Decides.pure (written update)
  rw [← hwritten] at hdecides
  refine ⟨hdecides.isOk.trans (and_iff_left trivial), fun e he => ⟨hdecides.kind e he, ?_⟩⟩
  simp only [perform, he, orSame]

/-- A workspace with one node, of a task that has a configuration. -/
def oneNode : Workspace :=
  (ofEntities [{ RunEntity.ofName .task "train" with taskConfig := some ⟨"Spark", .null⟩ }]).run
    [.add 0 none 0 []]

/-- A call whose last condition fails: a policy does not go with a version beside it. -/
def mixedCache : Overrides :=
  { nodeName := some (.value "renamed"), timeout := some (.seconds 90),
    taskConfig := some ⟨"Spark", .bool true⟩,
    cache := some (.value (.policy ⟨some "v1", true⟩)), cacheVersion := some (.value "v2") }

theorem override_outcome_mixed : ∃ node, (oneNode.graph 0).node? 0 = some node ∧
    ¬ mixedCache.Admissible (oneNode.entity node.entity).taskConfig ∧
    (∃ w', oneNode.override 0 0 { mixedCache with cacheVersion := none } = .ok w') ∧
    oneNode.perform (.override 0 0 mixedCache) = oneNode := by
  obtain ⟨node, hnode⟩ : ∃ node, (oneNode.graph 0).node? 0 = some node :=
    Option.isSome_iff_exists.1 (by decide +kernel)
  obtain ⟨e, he⟩ : ∃ e, oneNode.override 0 0 mixedCache = .error e := ⟨_, rfl⟩
  have hmixed := override_outcome hnode mixedCache
  refine ⟨node, hnode, ?_, ⟨_, rfl⟩, (hmixed.2 e he).2⟩
  rw [← hmixed.1, he]
  rintro ⟨w', hw'⟩
  cases hw'

end Workspace

end Workflow
