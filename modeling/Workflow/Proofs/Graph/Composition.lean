import Workflow.Proofs.Graph.Frame

/-!
# Override calls put together

Two calls that set no common group of fields are as good as one call with the fields of both.

* `Overrides.merge`: two calls as one. `NodeUpdate.andThen`: the writes of two calls as one.
* `Splits`: a check succeeds when two others do, with what they give put together. Chains of checks
  split as their parts do (`Splits.bind`).
* `check_splits`: the check of a merged call splits into those of the two calls.
* `override_after`: a second call is judged as if it were the first.
* `overrides_compose`: the merged call, and the two calls in either order, are accepted together and
  leave the same workspace.
-/

namespace Workflow

/-! ## Writes one after the other -/

/-- Writes, and then further ones. -/
def MetadataUpdate.andThen (m m' : MetadataUpdate) : MetadataUpdate where
  name := m'.name.or m.name
  timeout := m'.timeout.or m.timeout
  retries := m'.retries.or m.retries
  interruptible := m'.interruptible.or m.interruptible
  cacheable := m'.cacheable.or m.cacheable
  cacheVersion := m'.cacheVersion.or m.cacheVersion
  cacheSerializable := m'.cacheSerializable.or m.cacheSerializable

/-- Writes, and then further ones. -/
def NodeUpdate.andThen (u v : NodeUpdate) : NodeUpdate where
  id := v.id.or u.id
  aliases := v.aliases.or u.aliases
  resources := v.resources.or u.resources
  taskConfig := v.taskConfig.or u.taskConfig
  containerImage := v.containerImage.or u.containerImage
  accelerator := v.accelerator.or u.accelerator
  sharedMemory := v.sharedMemory.or u.sharedMemory
  podTemplate := v.podTemplate.or u.podTemplate
  metadata := u.metadata.andThen v.metadata

namespace MetadataUpdate

theorem apply_andThen (m m' : MetadataUpdate) (x : NodeMetadata) :
    (m.andThen m').apply x = m'.apply (m.apply x) := by
  simp only [apply, andThen, Option.getD_or, Option.or_assoc]

theorem andThen_idle (m : MetadataUpdate) : m.andThen {} = m := rfl

theorem idle_andThen (m : MetadataUpdate) : andThen {} m = m := by
  simp only [andThen, Option.or_none]

end MetadataUpdate

namespace NodeUpdate

theorem applyToNode_andThen (u v : NodeUpdate) (isArrayMap : Bool) (node : Node) :
    (u.andThen v).applyToNode isArrayMap node =
      v.applyToNode isArrayMap (u.applyToNode isArrayMap node) := by
  simp only [applyToNode, andThen, Option.getD_or, Option.or_assoc, MetadataUpdate.apply_andThen]
  split <;> rfl

theorem applyToEntity_andThen (u v : NodeUpdate) (e : RunEntity) :
    (u.andThen v).applyToEntity e = v.applyToEntity (u.applyToEntity e) := by
  have hkind : (u.applyToEntity e).isArrayMap = e.isArrayMap := rfl
  unfold applyToEntity at hkind ⊢
  simp only [hkind, andThen, Option.or_assoc, MetadataUpdate.apply_andThen]
  split <;> rfl

end NodeUpdate

/-! ## Calls as one -/

namespace Overrides

variable {a b o : Overrides} {present present' : Option TaskConfig}

/-- One call with the fields of two; where both set a field, the second one counts. -/
def merge (a b : Overrides) : Overrides where
  nodeName := b.nodeName.or a.nodeName
  aliases := b.aliases.or a.aliases
  requests := b.requests.or a.requests
  limits := b.limits.or a.limits
  resources := b.resources.or a.resources
  timeout := b.timeout.or a.timeout
  retries := b.retries.or a.retries
  interruptible := b.interruptible.or a.interruptible
  name := b.name.or a.name
  taskConfig := b.taskConfig.or a.taskConfig
  containerImage := b.containerImage.or a.containerImage
  accelerator := b.accelerator.or a.accelerator
  cache := b.cache.or a.cache
  cacheSerialize := b.cacheSerialize.or a.cacheSerialize
  cacheVersion := b.cacheVersion.or a.cacheVersion
  sharedMemory := b.sharedMemory.or a.sharedMemory
  podTemplate := b.podTemplate.or a.podTemplate

/-- Two calls set no common group of fields. -/
def Apart (a b : Overrides) : Prop := ∀ k : Group, k.Unset a ∨ k.Unset b

theorem Apart.symm (h : a.Apart b) : b.Apart a := fun k => (h k).symm

namespace Group

variable {k : Group}

theorem agree_merge_left (hb : k.Unset b) : k.Agree (a.merge b) a := by
  cases k <;> simp_all [Unset, Agree, merge]

theorem agree_merge_right (ha : k.Unset a) : k.Agree (a.merge b) b := by
  cases k <;> simp_all [Unset, Agree, merge]

theorem Agree.symm (h : k.Agree a b) : k.Agree b a := by
  cases k <;> simp_all [Agree]

theorem Agree.trans (hab : k.Agree a b) (hbo : k.Agree b o) : k.Agree a o := by
  cases k <;> simp_all [Agree]

end Group

/-- The groups hold all fields of a call. -/
theorem eq_of_agree (h : ∀ k : Group, k.Agree a b) : a = b := by
  have hresources := h .resources
  have hcache := h .cache
  cases a
  cases b
  simp only [mk.injEq]
  exact ⟨h .nodeName, h .aliases, hresources.2.1, hresources.2.2, hresources.1, h .timeout,
    h .retries, h .interruptible, h .name, h .taskConfig, h .containerImage, h .accelerator,
    hcache.1, hcache.2.1, hcache.2.2, h .sharedMemory, h .podTemplate⟩

/-- Which of two calls comes first does not count when they are apart. -/
theorem Apart.merge_comm (h : a.Apart b) : a.merge b = b.merge a := by
  refine eq_of_agree fun k => ?_
  rcases h k with ha | hb
  · exact (Group.agree_merge_right ha).trans (Group.agree_merge_left ha).symm
  · exact (Group.agree_merge_left hb).trans (Group.agree_merge_right hb).symm

end Overrides

/-! ## Checks that split -/

/-- A check succeeds when two others do, with what they give put together. -/
def Splits {α : Type} (x y z : Except GraphError α) (join : α → α → α) : Prop :=
  ∀ r, x = .ok r ↔ ∃ s t, y = .ok s ∧ z = .ok t ∧ join s t = r

namespace Splits

variable {α β : Type} {x y z : Except GraphError α} {f g h : α → Except GraphError β}
  {join : α → α → α} {join' : β → β → β}

theorem pure {r s t : α} (hjoin : join s t = r) :
    Splits (Pure.pure r) (Pure.pure s) (Pure.pure t) join := by
  intro r'
  simp only [Outcome.pure_eq_ok]
  constructor
  · rintro rfl
    exact ⟨s, t, rfl, rfl, hjoin⟩
  · rintro ⟨_, _, rfl, rfl, rfl⟩
    exact hjoin.symm

/-- **A chain splits** as its parts do. -/
theorem bind (hx : Splits x y z join)
    (hf : ∀ s t, Splits (f (join s t)) (g s) (h t) join') :
    Splits (x >>= f) (y >>= g) (z >>= h) join' := by
  intro r
  simp only [Outcome.bind_eq_ok]
  constructor
  · rintro ⟨_, hok, hr⟩
    obtain ⟨s, t, hs, ht, rfl⟩ := (hx _).1 hok
    obtain ⟨s', t', hs', ht', rfl⟩ := (hf s t r).1 hr
    exact ⟨s', t', ⟨s, hs, hs'⟩, ⟨t, ht, ht'⟩, rfl⟩
  · rintro ⟨s', t', ⟨s, hs, hs'⟩, ⟨t, ht, ht'⟩, hr⟩
    exact ⟨join s t, (hx _).2 ⟨s, t, hs, ht, rfl⟩, (hf s t r).2 ⟨s', t', hs', ht', hr⟩⟩

end Splits

namespace Overrides

variable {a b o : Overrides} {present present' : Option TaskConfig} {u v : NodeUpdate}

/-- **The check of one group** splits: on one of two calls that are apart it is idle. -/
theorem Group.Reads.splits {α : Type} {k : Group} {check : Overrides → Except GraphError α}
    {idle : α} {join : α → α → α} (h : k.Reads check idle) (hapart : a.Apart b)
    (hleft : ∀ s, join s idle = s) (hright : ∀ t, join idle t = t) :
    Splits (check (a.merge b)) (check a) (check b) join := by
  intro r
  rcases hapart k with ha | hb
  · rw [h.congr (agree_merge_right ha), h.of_unset ha]
    constructor
    · exact fun hr => ⟨idle, r, rfl, hr, hright r⟩
    · rintro ⟨_, t, ⟨⟩, ht, rfl⟩
      rw [ht, hright]
  · rw [h.congr (agree_merge_left hb), h.of_unset hb]
    constructor
    · exact fun hr => ⟨r, idle, hr, rfl, hleft r⟩
    · rintro ⟨s, _, hs, ⟨⟩, rfl⟩
      rw [hs, hleft]

/-- The check of a group that may write one thing. -/
theorem Group.Reads.splits_or {α : Type} {k : Group}
    {check : Overrides → Except GraphError (Option α)} (h : k.Reads check none)
    (hapart : a.Apart b) :
    Splits (check (a.merge b)) (check a) (check b) fun s t => t.or s :=
  h.splits hapart (fun _ => Option.none_or) fun _ => Option.or_none

theorem known?_splits {α : Type} {k : Group} {place : String}
    {field : Overrides → Option (Param α)} (hfield : ∀ a b, k.Agree a b → field a = field b)
    (hnone : field {} = none) (hapart : a.Apart b) :
    Splits (Param.known? place (field (a.merge b))) (Param.known? place (field a))
      (Param.known? place (field b)) fun s t => t.or s :=
  (Group.reads_known? hfield hnone).splits_or hapart

theorem checkMetadata_splits (h : a.Apart b) :
    Splits (a.merge b).checkMetadata a.checkMetadata b.checkMetadata MetadataUpdate.andThen := by
  unfold checkMetadata
  refine (checkTimeout_reads.splits_or h).bind fun _ _ => ?_
  refine (known?_splits (k := .retries) (fun _ _ hab => hab) rfl h).bind fun _ _ => ?_
  refine (known?_splits (k := .interruptible) (fun _ _ hab => hab) rfl h).bind fun _ _ => ?_
  refine (checkCache_reads.splits h MetadataUpdate.andThen_idle MetadataUpdate.idle_andThen).bind
    fun _ _ => ?_
  exact .pure rfl

/-- **The check of two calls as one** splits into the checks of the two, if they are apart. -/
theorem check_splits (h : a.Apart b) (present : Option TaskConfig) :
    Splits ((a.merge b).check present) (a.check present) (b.check present) NodeUpdate.andThen := by
  unfold check
  refine (checkNodeName_reads.splits_or h).bind fun _ _ => ?_
  refine (checkResources_reads.splits_or h).bind fun _ _ => ?_
  refine ((checkTaskConfig_reads present).splits_or h).bind fun _ _ => ?_
  refine (known?_splits (k := .containerImage) (fun _ _ hab => hab) rfl h).bind fun _ _ => ?_
  refine (known?_splits (k := .accelerator) (fun _ _ hab => hab) rfl h).bind fun _ _ => ?_
  refine (known?_splits (k := .sharedMemory) (fun _ _ hab => hab) rfl h).bind fun _ _ => ?_
  refine (known?_splits (k := .podTemplate) (fun _ _ hab => hab) rfl h).bind fun _ _ => ?_
  refine (checkMetadata_splits h).bind fun _ _ => .pure ?_
  simp only [NodeUpdate.andThen, merge, Option.map_or]

/-- The writes of two calls that are apart do not depend on which comes first. -/
theorem Apart.andThen_comm (h : a.Apart b) (ha : a.check present = .ok u)
    (hb : b.check present = .ok v) : u.andThen v = v.andThen u := by
  have hab : (a.merge b).check present = .ok (u.andThen v) :=
    (check_splits h present _).2 ⟨u, v, ha, hb, rfl⟩
  have hba : (b.merge a).check present = .ok (v.andThen u) :=
    (check_splits h.symm present _).2 ⟨v, u, hb, ha, rfl⟩
  rw [h.merge_comm, hba] at hab
  exact (Except.ok.inj hab).symm

/-! ## Calls on an entity that has been written to -/

/-- Of the present configuration only the type counts. -/
theorem check_congr (o : Overrides) (h : present.map (·.typeName) = present'.map (·.typeName)) :
    o.check present = o.check present' := by
  have hconfig : o.checkTaskConfig present = o.checkTaskConfig present' := by
    unfold checkTaskConfig TaskConfig.sameType typeNameOf
    cases present <;> cases present' <;> simp_all
  unfold check
  rw [hconfig]

/-- A checked call leaves the type of the configuration. -/
theorem typeName_applyToEntity {e : RunEntity} (h : o.check e.taskConfig = .ok u) :
    (u.applyToEntity e).taskConfig.map (·.typeName) = e.taskConfig.map (·.typeName) :=
  ((RunEntity.Follows.refl e).applyToEntity h).typeName

end Overrides

namespace Workspace

variable {w : Workspace} {i : Nat} {h : Handle} {node : Node} {a b : Overrides} {u v : NodeUpdate}

/-- **Writing twice** is writing both at once. -/
theorem write_write (hnode : (w.graph i).node? h = some node)
    (hcheck : a.check (w.entity node.entity).taskConfig = .ok u) (v : NodeUpdate) :
    (w.write i h node.entity u).write i h node.entity v =
      w.write i h node.entity (u.andThen v) := by
  have hentity := entity_write (i := i) (h := h) hcheck
  have hentities : ((w.write i h node.entity u).write i h node.entity v).entities =
      (w.write i h node.entity (u.andThen v)).entities := by
    unfold write at hentity ⊢
    simp only [hentity, List.set_set, NodeUpdate.applyToEntity_andThen]
  have hgraphs : ((w.write i h node.entity u).write i h node.entity v).graphs =
      (w.write i h node.entity (u.andThen v)).graphs := by
    have hgraph := graph_write hnode node.entity u
    have hkind : (u.applyToEntity (w.entity node.entity)).isArrayMap =
        (w.entity node.entity).isArrayMap := rfl
    have hfun : (u.andThen v).applyToNode (w.entity node.entity).isArrayMap =
        v.applyToNode (w.entity node.entity).isArrayMap ∘
          u.applyToNode (w.entity node.entity).isArrayMap :=
      funext fun node => u.applyToNode_andThen v _ node
    unfold write at hentity hgraph ⊢
    simp only [hentity, hgraph, hkind, hfun, List.set_set, List.modify_modify_eq]
  exact congrArg₂ Workspace.mk hentities hgraphs

/-- **A second call** is judged as if it were the first, and adds its writes to the writes of that
one. -/
theorem override_after (hnode : (w.graph i).node? h = some node)
    (hcheck : a.check (w.entity node.entity).taskConfig = .ok u) (b : Overrides) :
    (w.write i h node.entity u).override i h b =
      (b.check (w.entity node.entity).taskConfig).map
        fun v => w.write i h node.entity (u.andThen v) := by
  have hwrites : (w.write i h node.entity u).write i h node.entity =
      fun v => w.write i h node.entity (u.andThen v) := funext (write_write hnode hcheck)
  have hconfig : b.check ((w.write i h node.entity u).entity node.entity).taskConfig =
      b.check (w.entity node.entity).taskConfig := by
    rw [entity_write hcheck]
    exact b.check_congr (Overrides.typeName_applyToEntity hcheck)
  rw [override_eq (node?_write hnode node.entity u)]
  show (b.check ((w.write i h node.entity u).entity node.entity).taskConfig).map
    ((w.write i h node.entity u).write i h node.entity) = _
  rw [hconfig, hwrites]

/-- **Calls that set no common group of fields compose.** One call with the fields of both is
accepted exactly when both are; then it leaves what they leave one after the other, in either order.
An accepted call does not change whether the other one is accepted. -/
theorem overrides_compose (hnode : (w.graph i).node? h = some node) (hapart : a.Apart b) :
    ((∃ w', w.override i h (a.merge b) = .ok w') ↔
      (∃ wa, w.override i h a = .ok wa) ∧ ∃ wb, w.override i h b = .ok wb) ∧
    (∀ wa wb, w.override i h a = .ok wa → w.override i h b = .ok wb →
      ∃ w', w.override i h (a.merge b) = .ok w' ∧ wa.override i h b = .ok w' ∧
        wb.override i h a = .ok w') ∧
    ∀ wa, w.override i h a = .ok wa →
      ((∃ w', wa.override i h b = .ok w') ↔ ∃ wb, w.override i h b = .ok wb) := by
  have hsplits := Overrides.check_splits hapart (w.entity node.entity).taskConfig
  have hboth : ∀ wa wb, w.override i h a = .ok wa → w.override i h b = .ok wb →
      ∃ w', w.override i h (a.merge b) = .ok w' ∧ wa.override i h b = .ok w' ∧
        wb.override i h a = .ok w' := by
    intro wa wb ha hb
    obtain ⟨u, hu, rfl⟩ := (override_eq_ok_iff hnode).1 ha
    obtain ⟨v, hv, rfl⟩ := (override_eq_ok_iff hnode).1 hb
    refine ⟨w.write i h node.entity (u.andThen v), ?_, ?_, ?_⟩
    · exact (override_eq_ok_iff hnode).2 ⟨_, (hsplits _).2 ⟨u, v, hu, hv, rfl⟩, rfl⟩
    · rw [override_after hnode hu, hv]
      rfl
    · rw [override_after hnode hv, hu, hapart.andThen_comm hu hv]
      rfl
  refine ⟨⟨?_, ?_⟩, hboth, ?_⟩
  · rintro ⟨w', hok⟩
    obtain ⟨r, hcheck, -⟩ := (override_eq_ok_iff hnode).1 hok
    obtain ⟨u, v, hu, hv, -⟩ := (hsplits r).1 hcheck
    exact ⟨⟨_, (override_eq_ok_iff hnode).2 ⟨u, hu, rfl⟩⟩,
      _, (override_eq_ok_iff hnode).2 ⟨v, hv, rfl⟩⟩
  · rintro ⟨⟨wa, ha⟩, wb, hb⟩
    obtain ⟨w', hok, -⟩ := hboth wa wb ha hb
    exact ⟨w', hok⟩
  · intro wa ha
    obtain ⟨u, hu, rfl⟩ := (override_eq_ok_iff hnode).1 ha
    constructor
    · rintro ⟨w', hok⟩
      rw [override_after hnode hu] at hok
      obtain ⟨v, hv, -⟩ := Outcome.map_eq_ok.1 hok
      exact ⟨_, (override_eq_ok_iff hnode).2 ⟨v, hv, rfl⟩⟩
    · rintro ⟨wb, hb⟩
      obtain ⟨w', -, hok, -⟩ := hboth _ wb ha hb
      exact ⟨w', hok⟩

/-- A node of an array map with a configuration. -/
def configuredFan : Workspace :=
  (ofEntities [{ RunEntity.ofName .arrayMap "each" with taskConfig := some ⟨"spark", .null⟩ }]).run
    [.add 0 none 0 []]

/-- A new configuration and a deadline. -/
def configAndDeadline : Overrides :=
  { taskConfig := some ⟨"spark", .bool true⟩, timeout := some (.seconds 60) }

/-- The cache with its version, and requests. -/
def cacheAndRequests : Overrides :=
  { cache := some (.value (.enabled true)), cacheVersion := some (.value "v1"),
    requests := some { cpu := some (.single (.value "2")) } }

theorem overrides_compose_configured : ∃ node w',
    (configuredFan.graph 0).node? 0 = some node ∧ configAndDeadline.Apart cacheAndRequests ∧
      configuredFan.override 0 0 (configAndDeadline.merge cacheAndRequests) = .ok w' ∧
      (∃ wa, configuredFan.override 0 0 configAndDeadline = .ok wa ∧
        wa.override 0 0 cacheAndRequests = .ok w') ∧
      (∃ wb, configuredFan.override 0 0 cacheAndRequests = .ok wb ∧
        wb.override 0 0 configAndDeadline = .ok w') ∧
      (w'.entity 0).subNodeMetadata =
        { name := "each", timeout := some (.ofSeconds 60), cacheable := true,
          cacheVersion := some "v1" } := by
  obtain ⟨node, hnode⟩ : ∃ node, (configuredFan.graph 0).node? 0 = some node :=
    Option.isSome_iff_exists.1 (by decide +kernel)
  have hapart : configAndDeadline.Apart cacheAndRequests := by
    intro k
    cases k <;> simp [Overrides.Group.Unset, Overrides.Group.Agree, configAndDeadline,
      cacheAndRequests]
  obtain ⟨wa, ha⟩ : ∃ wa, configuredFan.override 0 0 configAndDeadline = .ok wa := ⟨_, rfl⟩
  obtain ⟨wb, hb⟩ : ∃ wb, configuredFan.override 0 0 cacheAndRequests = .ok wb := ⟨_, rfl⟩
  obtain ⟨-, hboth, -⟩ := overrides_compose hnode hapart
  obtain ⟨w', hmerged, hab, hba⟩ := hboth wa wb ha hb
  have hsub : (configuredFan.override 0 0 (configAndDeadline.merge cacheAndRequests)).map
      (fun w => (w.entity 0).subNodeMetadata) = .ok
        { name := "each", timeout := some (.ofSeconds 60), cacheable := true,
          cacheVersion := some "v1" } := rfl
  rw [hmerged] at hsub
  exact ⟨node, w', hnode, hapart, hmerged, ⟨wa, ha, hab⟩, ⟨wb, hb, hba⟩, Except.ok.inj hsub⟩

end Workspace

end Workflow
