import Workflow.Proofs.Graph.Journal

/-!
# Settings that stay sound

The metadata of a node is sound if its deadline is not negative and its cache, if it is on, has a
version. A call may set a version and no cache, or turn the cache off and leave the version, but it
never turns the cache on alone, and no write takes a version away.

* `NodeMetadata.Sound`, `MetadataUpdate.Sound`: sound metadata, and writes that keep it so
  (`MetadataUpdate.Sound.apply`).
* `metadataWrites_sound`: a call writes soundly, as its checks see to it.
* `history_sound`: the nodes of an entity and the instances of an array map have sound metadata
  after any history if the entity started with sound metadata.
-/

namespace Workflow

/-- Metadata with a deadline that is not negative, and with a version for a cache that is on. -/
structure NodeMetadata.Sound (m : NodeMetadata) : Prop where
  timeout : ∀ d ∈ m.timeout, 0 ≤ d.nanos
  cacheVersion : m.cacheable = true → m.cacheVersion.isSome

instance (m : NodeMetadata) : Decidable m.Sound :=
  decidable_of_iff ((∀ d ∈ m.timeout, 0 ≤ d.nanos) ∧ (m.cacheable = true → m.cacheVersion.isSome))
    ⟨fun h => ⟨h.1, h.2⟩, fun h => ⟨h.timeout, h.cacheVersion⟩⟩

namespace MetadataUpdate

/-- Writes of a deadline that is not negative, and of a version along with a cache that is turned
on. -/
structure Sound (u : MetadataUpdate) : Prop where
  timeout : ∀ d ∈ u.timeout, 0 ≤ d.nanos
  cacheVersion : u.cacheable = some true → u.cacheVersion.isSome

variable {u : MetadataUpdate} {m : NodeMetadata}

/-- **Sound writes** keep metadata sound. -/
theorem Sound.apply (hu : u.Sound) (hm : m.Sound) : (u.apply m).Sound where
  timeout d hd := by
    rcases Option.or_eq_some_iff.1 hd with hwritten | ⟨-, hkept⟩
    · exact hu.timeout d hwritten
    · exact hm.timeout d hkept
  cacheVersion hon := by
    -- the cache is on by this write or was on before, and either brought a version
    change (u.cacheVersion.or m.cacheVersion).isSome
    rw [Option.isSome_or, Bool.or_eq_true]
    cases hcacheable : u.cacheable with
    | none =>
      have hkept : m.cacheable = true := by simpa [MetadataUpdate.apply, hcacheable] using hon
      exact .inr (hm.cacheVersion hkept)
    | some on =>
      have hwritten : on = true := by simpa [MetadataUpdate.apply, hcacheable] using hon
      exact .inl (hu.cacheVersion (hwritten ▸ hcacheable))

theorem sound_idle : Sound {} where
  timeout d hd := absurd hd (Option.not_mem_none d)
  cacheVersion hon := nomatch hon

end MetadataUpdate

/-! ## What a call writes -/

namespace Timeout

variable {t : Timeout} {d d' : Duration}

theorem nonneg_of_nonnegative (h : nonnegative d = .ok d') : 0 ≤ d'.nanos := by
  unfold nonnegative at h
  split at h
  · cases h
  · rename_i hsign
    cases h
    simpa [Duration.isNegative] using hsign

/-- **No deadline is negative**, in whichever way it is given. -/
theorem nonneg_of_resolve (h : t.resolve = .ok d) : 0 ≤ d.nanos := by
  cases t with
  | clear =>
    cases h
    decide
  | seconds count => exact nonneg_of_nonnegative h
  | duration value => exact nonneg_of_nonnegative h
  | text words =>
    unfold resolve at h
    simp only at h
    split at h
    · exact nonneg_of_nonnegative h
    · cases h

end Timeout

namespace Overrides

variable {o : Overrides} {m : MetadataUpdate} {calls : List Overrides}

/-- **A cache is turned on** with a version only: a switch needs the version beside it, and a policy
brings its own. -/
theorem cacheVersion_of_checkCache (h : o.checkCache = .ok m) (hon : m.cacheable = some true) :
    m.cacheVersion.isSome := by
  unfold checkCache at h
  obtain ⟨version, -, h⟩ := Outcome.bind_eq_ok.1 h
  obtain ⟨serialize, -, h⟩ := Outcome.bind_eq_ok.1 h
  obtain ⟨cache, -, h⟩ := Outcome.bind_eq_ok.1 h
  obtain ⟨_, -, hversion, rfl⟩ | ⟨_, _, -, -, -, rfl⟩ := cacheUpdate_eq_ok h
  · exact hversion hon
  · rfl

theorem nonneg_of_checkTimeout {timeout : Option Duration} (h : o.checkTimeout = .ok timeout) :
    ∀ d ∈ timeout, 0 ≤ d.nanos := by
  unfold checkTimeout at h
  split at h
  · cases h
    exact fun d hd => absurd hd (Option.not_mem_none d)
  · obtain ⟨d, hresolve, rfl⟩ := Outcome.map_eq_ok.1 h
    rintro _ ⟨⟩
    exact Timeout.nonneg_of_resolve hresolve

theorem MetadataChecked.sound (h : o.MetadataChecked m) : m.Sound where
  timeout := nonneg_of_checkTimeout h.timeout
  cacheVersion hon := cacheVersion_of_checkCache (m := m.cachePart) h.cache hon

/-- **A call writes soundly**, or nothing if it is refused. -/
theorem metadataWrites_sound (o : Overrides) : o.metadataWrites.Sound := by
  unfold metadataWrites
  split
  · rename_i hcheck
    exact (checkMetadata_eq_ok_iff.1 hcheck).sound
  · exact MetadataUpdate.sound_idle

/-- Any calls keep metadata sound. -/
theorem writeAll_sound : ∀ {m : NodeMetadata}, m.Sound → (writeAll calls m).Sound := by
  induction calls with
  | nil => exact fun hm => hm
  | cons o calls ih => exact fun hm => ih (o.metadataWrites_sound.apply hm)

end Overrides

/-! ## Histories -/

namespace Workspace

/-- **Sound settings stay sound.** If an entity starts with sound metadata for its nodes and for its
instances, then after any calls, on whichever of its nodes, refused ones among them, all of its
nodes in all graphs and its instances have sound metadata. -/
theorem history_sound (entities : List RunEntity) (edits : List Edit) (k : Nat) :
    let first := (ofEntities entities).entity k
    let w := (ofEntities entities).run edits
    first.metadata.Sound → first.subNodeMetadata.Sound →
      (w.entity k).subNodeMetadata.Sound ∧
        ∀ i, ∀ node ∈ (w.graph i).nodes, node.entity = k → node.metadata.Sound := by
  intro first w hmetadata hsub
  refine ⟨?_, ?_⟩
  · rw [(follows_run (ofEntities entities) edits k).subNodeMetadata]
    split
    · exact Overrides.writeAll_sound hsub
    · exact hsub
  · rintro i node hnode rfl
    obtain ⟨n, hn⟩ := List.mem_iff_getElem?.1 hnode
    rw [(tells_run entities edits i).metadata n node hn]
    split
    · exact hmetadata
    · exact Overrides.writeAll_sound hmetadata

/-- Cache and deadline calls on an array map and a task, through a graph and through its clone. A
version is set before the cache is turned on, the cache is turned off and, without a version, on
again, which is refused; so is a negative deadline. -/
def cacheEdits : List Edit :=
  [.add 0 none 0 [], .add 0 none 1 [], .clone 0,
    .override 0 0 { cacheVersion := some (.value "v1") },
    .override 1 0 { cache := some (.value (.enabled true)) },
    .override 1 0 { cache := some (.value (.policy ⟨some "v2", true⟩)), timeout := some (.text "2m") },
    .override 0 0 { timeout := some (.seconds (-5)) },
    .override 0 1 { cache := some (.value (.enabled true)), cacheVersion := some (.value "v3") },
    .override 0 1 { cache := some (.value (.enabled false)) },
    .override 0 1 { cache := some (.value (.enabled true)) },
    .override 1 1 { timeout := some .clear }]

theorem history_sound_cached :
    let each := RunEntity.ofName .arrayMap "each"
    let sum := RunEntity.ofName .task "sum"
    let w := (ofEntities [each, sum]).run cacheEdits
    (∀ e ∈ [each, sum], e.metadata.Sound ∧ e.subNodeMetadata.Sound) ∧
      (w.entity 0).subNodeMetadata.Sound ∧
      (w.entity 0).subNodeMetadata =
        { name := "each", timeout := some (.ofSeconds 120), cacheable := true,
          cacheVersion := some "v2", cacheSerializable := true } ∧
      (∀ node ∈ (w.graph 0).nodes, node.entity = 1 → node.metadata.Sound) ∧
      (w.graph 0).nodes.map (·.metadata.cacheVersion) = [none, some "v3"] := by
  intro each sum w
  have hsound : ∀ e ∈ [each, sum], e.metadata.Sound ∧ e.subNodeMetadata.Sound := by decide
  obtain ⟨heach, hinstances⟩ := hsound each (by simp)
  obtain ⟨hsum, hnone⟩ := hsound sum (by simp)
  exact ⟨hsound, (history_sound [each, sum] cacheEdits 0 heach hinstances).1, by decide +kernel,
    (history_sound [each, sum] cacheEdits 1 hsum hnone).2 0, by decide +kernel⟩

end Workspace

end Workflow
