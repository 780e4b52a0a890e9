import Workflow.Graph.Wire
import Workflow.Proofs.Graph.Inputs

/-!
# Rendered graphs are read back

Every type of the wire form is read back from what is written for it, from the settings of a node up to
the graph. `toJson_eq` says which slots a record is written from; a slot is empty where a field is left
out, and then reading gives the default, which is the value that was left out.

* `BindingTree.ofJson?_toJson`: the inputs, by induction on the tree, where numbers are finite.
* `NodeSpec.ofJson?_toJson`: the nodes.
* `WorkflowSpec.ofJson?_toJson_of_sound`: the graphs, and those in particular that graphs of an author
  are rendered as.
-/

namespace Workflow

open Json (optional withDefault)

/-! ## Settings -/

namespace RetryStrategy

theorem toJson_eq (r : RetryStrategy) :
    r.toJson = Json.record [("retries", some (.int r.retries.toNat))] := rfl

@[simp] theorem ofJson?_toJson (r : RetryStrategy) : ofJson? r.toJson = some r := by
  have hretries : Json.asNat? UInt32.size (.int r.retries.toNat) = some r.retries.toNat :=
    Json.asNat?_natCast r.retries.toNat_lt_size
  rw [toJson_eq, ofJson?, Json.fields?_record]
  case hnames => rfl
  case hnodup => decide
  -- one equation at a time: to unfold the reader would be to count up to the size of a word
  rw [Option.bind_eq_bind, Option.bind_some, List.map_cons, Json.slot_zero, Json.required_some,
    hretries, Option.bind_eq_bind, Option.bind_some, UInt32.ofNat_toNat, Option.pure_def]

end RetryStrategy

namespace NodeMetadata

theorem toJson_eq (m : NodeMetadata) : m.toJson = Json.record [("name", some (.str m.name)),
    ("timeout", m.timeout.map Duration.toJson), ("retries", some m.retries.toJson),
    ("interruptible", m.interruptible.map .bool), ("cacheable", some (.bool m.cacheable)),
    ("cache_version", m.cacheVersion.map .str),
    ("cache_serializable", some (.bool m.cacheSerializable))] := by
  simp only [toJson, Json.record, List.flatMap_cons, List.flatMap_nil, Json.field?_map,
    List.append_assoc, List.append_nil]
  rfl

@[simp] theorem ofJson?_toJson (m : NodeMetadata) : ofJson? m.toJson = some m := by
  have htimeout : optional Duration.ofJson? (m.timeout.map Duration.toJson) = some m.timeout :=
    Json.optional_map (fun _ => Json.noConfusion) fun d _ => d.ofJson?_toJson
  rw [toJson_eq, ofJson?, Json.fields?_record]
  case hnames => rfl
  case hnodup => decide
  simp [htimeout]

end NodeMetadata

namespace Alias

theorem toJson_eq (a : Alias) :
    a.toJson = Json.record [("var", some (.str a.var)), ("alias", some (.str a.name))] := rfl

@[simp] theorem ofJson?_toJson (a : Alias) : ofJson? a.toJson = some a := by
  rw [toJson_eq, ofJson?, Json.fields?_record]
  case hnames => rfl
  case hnodup => decide
  simp

end Alias

/-! ## Resources -/

@[simp] theorem ResourceName.ofJson?_toJson (n : ResourceName) :
    ResourceName.ofJson? n.toJson = some n := by
  refine Json.readNamed?_str ?_
  cases n <;> rfl

namespace ResourceEntry

theorem toJson_eq (e : ResourceEntry) :
    e.toJson = Json.record [("name", some e.name.toJson), ("value", some (.str e.value))] := rfl

@[simp] theorem ofJson?_toJson (e : ResourceEntry) : ofJson? e.toJson = some e := by
  rw [toJson_eq, ofJson?, Json.fields?_record]
  case hnames => rfl
  case hnodup => decide
  simp

end ResourceEntry

namespace ResourceRequirements

theorem toJson_eq (r : ResourceRequirements) : r.toJson = Json.record
    [("requests", some (.arr (r.requests.map ResourceEntry.toJson))),
      ("limits", some (.arr (r.limits.map ResourceEntry.toJson)))] := rfl

@[simp] theorem ofJson?_toJson (r : ResourceRequirements) : ofJson? r.toJson = some r := by
  have hentries : ∀ entries : List ResourceEntry,
      Json.asListOf? ResourceEntry.ofJson? (.arr (entries.map ResourceEntry.toJson)) = some entries :=
    fun _ => Json.asListOf?_map fun e _ => e.ofJson?_toJson
  rw [toJson_eq, ofJson?, Json.fields?_record]
  case hnames => rfl
  case hnodup => decide
  simp [hentries]

end ResourceRequirements

namespace Accelerator

theorem toJson_eq (a : Accelerator) : a.toJson = Json.record [("device", some (.str a.device)),
    ("partition_size", a.partitionSize.map .str)] := by
  simp only [toJson, Json.record, List.flatMap_cons, List.flatMap_nil, Json.field?_map,
    List.append_nil]
  rfl

@[simp] theorem ofJson?_toJson (a : Accelerator) : ofJson? a.toJson = some a := by
  rw [toJson_eq, ofJson?, Json.fields?_record]
  case hnames => rfl
  case hnodup => decide
  simp

end Accelerator

namespace SharedMemory

@[simp] theorem ofJson?_toJson (m : SharedMemory) : ofJson? m.toJson = some m := by
  cases m <;> rfl

theorem toJson_ne_null (m : SharedMemory) : m.toJson ≠ .null := by
  cases m <;> exact Json.noConfusion

end SharedMemory

namespace ExtendedResources

theorem toJson_eq (r : ExtendedResources) : r.toJson = Json.record
    [("gpu_accelerator", r.accelerator.map Accelerator.toJson),
      ("shared_memory", r.sharedMemory.map SharedMemory.toJson)] := by
  simp only [toJson, Json.record, List.flatMap_cons, List.flatMap_nil, Json.field?_map,
    List.append_nil]

@[simp] theorem ofJson?_toJson (r : ExtendedResources) : ofJson? r.toJson = some r := by
  have haccelerator : optional Accelerator.ofJson? (r.accelerator.map Accelerator.toJson) =
      some r.accelerator :=
    Json.optional_map (fun _ => Json.noConfusion) fun a _ => a.ofJson?_toJson
  have hmemory : optional SharedMemory.ofJson? (r.sharedMemory.map SharedMemory.toJson) =
      some r.sharedMemory :=
    Json.optional_map SharedMemory.toJson_ne_null fun m _ => m.ofJson?_toJson
  rw [toJson_eq, ofJson?, Json.fields?_record]
  case hnames => rfl
  case hnodup => decide
  simp [haccelerator, hmemory]

end ExtendedResources

namespace NodeOverridesSpec

theorem toJson_eq (o : NodeOverridesSpec) : o.toJson = Json.record
    [("resources", some o.resources.toJson),
      ("extended_resources", o.extendedResources.map ExtendedResources.toJson)] := by
  simp only [toJson, Json.record, List.flatMap_cons, List.flatMap_nil, Json.field?_map,
    List.append_nil]
  rfl

@[simp] theorem ofJson?_toJson (o : NodeOverridesSpec) : ofJson? o.toJson = some o := by
  have hextended : optional ExtendedResources.ofJson?
      (o.extendedResources.map ExtendedResources.toJson) = some o.extendedResources :=
    Json.optional_map (fun _ => Json.noConfusion) fun r _ => r.ofJson?_toJson
  rw [toJson_eq, ofJson?, Json.fields?_record]
  case hnames => rfl
  case hnodup => decide
  simp [hextended]

end NodeOverridesSpec

/-! ## Pod templates -/

theorem Document.ofJson_value (d : Document) : Document.ofJson d.value = d := by
  obtain ⟨value, hcanonical⟩ := d
  simp only [Document.ofJson, hcanonical]

theorem Document.isPlain_value (d : Document) : d.value.isPlain = true := by
  rw [← d.canonical]
  exact Json.isPlain_canonical _

namespace PodTemplate

theorem dictMember_eq (name : String) (d : Dict) :
    dictMember name d = Json.field? name id (if d.isEmpty then none else some (Json.ofDict d)) := by
  unfold dictMember
  split_ifs <;> rfl

theorem toJson_eq (t : PodTemplate) : t.toJson = Json.record
    [("primary_container_name", some (.str t.primaryContainerName)),
      ("labels", if t.labels.isEmpty then none else some (Json.ofDict t.labels)),
      ("annotations", if t.annotations.isEmpty then none else some (Json.ofDict t.annotations)),
      ("pod_spec", some t.podSpec.value)] := by
  simp only [toJson, Json.record, List.flatMap_cons, List.flatMap_nil, dictMember_eq,
    List.append_assoc, List.append_nil]
  rfl

@[simp] theorem ofJson?_toJson (t : PodTemplate) : ofJson? t.toJson = some t := by
  have hdict : ∀ d : Dict, withDefault .empty Json.asDict?
      (if d.isEmpty = true then none else some (Json.ofDict d)) = some d := by
    intro d
    -- what is left out is the map without entries, which is the default
    refine Json.withDefault_ite (fun hempty => ?_) (Json.asDict?_ofDict d)
    obtain ⟨entries, hsorted⟩ := d
    obtain rfl : entries = [] := List.isEmpty_iff.1 hempty
    rfl
  have hspec : t.podSpec.value.asPlain? = some t.podSpec.value := if_pos t.podSpec.isPlain_value
  rw [toJson_eq, ofJson?, Json.fields?_record]
  case hnames => rfl
  case hnodup => decide
  simp [hdict, hspec, Document.ofJson_value]

end PodTemplate

/-! ## Inputs -/

namespace OutputReference

theorem toJson_eq (r : OutputReference) :
    r.toJson = Json.record [("node_id", some (.str r.nodeId)), ("var", some (.str r.var))] := rfl

@[simp] theorem ofJson?_toJson (r : OutputReference) : ofJson? r.toJson = some r := by
  rw [toJson_eq, ofJson?, Json.fields?_record]
  case hnames => rfl
  case hnodup => decide
  simp

end OutputReference

namespace BindingTree

mutual

/-- **A tree is read back** when its literals are. -/
theorem ofJson?_toJson : ∀ {t : BindingTree OutputReference}, t.KeysSorted →
    (∀ l ∈ t.literals, l.isFinite = true) → ofJson? t.toJson = some t
  | .scalar value, hsorted, hfinite => by
    have hvalue := hfinite value (List.mem_singleton.2 rfl)
    simp only [toJson, ofJson?, if_true, Literal.ofJson?_toJson hsorted, hvalue, Option.map_some]
  | .reference target, _, _ => by
    simp only [toJson, ofJson?, String.reduceEq, if_true, if_false,
      OutputReference.ofJson?_toJson, Option.map_some]
  | .collection items, hsorted, hfinite => by
    simp only [toJson, ofJson?, String.reduceEq, if_true, if_false, readItems?,
      readAll?_itemsToJson hsorted hfinite, Option.map_some]
  | .map entries, hsorted, hfinite => by
    simp only [toJson, ofJson?, String.reduceEq, if_true, if_false, readEntries?,
      readEach?_entriesToJson hsorted.2 hfinite, sortKeys_of_sortedKeys hsorted.1, Option.map_some]

theorem readAll?_itemsToJson : ∀ {items : List (BindingTree OutputReference)}, KeysSortedItems items →
    (∀ l ∈ literalsOfItems items, l.isFinite = true) → readAll? (itemsToJson items) = some items
  | [], _, _ => rfl
  | item :: items, hsorted, hfinite => by
    obtain ⟨hitem, hitems⟩ := List.forall_mem_append.1 hfinite
    simp only [itemsToJson, readAll?, ofJson?_toJson hsorted.1 hitem,
      readAll?_itemsToJson hsorted.2 hitems, Option.bind_eq_bind, Option.bind_some, Option.pure_def]

theorem readEach?_entriesToJson : ∀ {entries : List (String × BindingTree OutputReference)},
    KeysSortedEntries entries → (∀ l ∈ literalsOfEntries entries, l.isFinite = true) →
      readEach? (entriesToJson entries) = some entries
  | [], _, _ => rfl
  | (key, value) :: entries, hsorted, hfinite => by
    obtain ⟨hvalue, hentries⟩ := List.forall_mem_append.1 hfinite
    simp only [entriesToJson, readEach?, ofJson?_toJson hsorted.1 hvalue,
      readEach?_entriesToJson hsorted.2 hentries, Option.bind_eq_bind, Option.bind_some,
      Option.pure_def]

end

end BindingTree

namespace Binding

theorem toJson_eq (b : Binding OutputReference) :
    b.toJson = Json.record [("var", some (.str b.var)), ("binding", some b.data.toJson)] := rfl

theorem ofJson?_toJson {b : Binding OutputReference} (h : b.Sound) : ofJson? b.toJson = some b := by
  rw [toJson_eq, ofJson?, Json.fields?_record]
  case hnames => rfl
  case hnodup => decide
  simp [BindingTree.ofJson?_toJson h.keysSorted h.finite]

end Binding

/-! ## Nodes -/

namespace NodeSpec

theorem aliasesMember_eq (aliases : List Alias) :
    aliasesMember aliases = Json.field? "aliases" (fun value => value)
      (if aliases = [] then none else some (.arr (aliases.map Alias.toJson))) := by
  cases aliases <;> rfl

theorem toJson_eq (n : NodeSpec) : n.toJson = Json.record
    [("id", some (.str n.id)), ("metadata", some n.metadata.toJson),
      ("upstream_node_ids", some (.arr (n.dependencyIds.map .str))),
      ("bindings", some (.arr (n.bindings.map Binding.toJson))),
      ("overrides", some n.overrides.toJson), ("container_image", n.containerImage.map .str),
      ("pod_template", n.podTemplate.map PodTemplate.toJson),
      ("aliases", if n.aliases = [] then none else some (.arr (n.aliases.map Alias.toJson))),
      ("sub_node_metadata", n.subNodeMetadata.map NodeMetadata.toJson)] := by
  simp only [toJson, Json.record, List.flatMap_cons, List.flatMap_nil, Json.field?_map,
    aliasesMember_eq, List.append_assoc, List.append_nil]
  rfl

theorem ofJson?_toJson {n : NodeSpec} (h : ∀ b ∈ n.bindings, b.Sound) :
    ofJson? n.toJson = some n := by
  have hids : Json.asListOf? Json.asString? (.arr (n.dependencyIds.map .str)) = some n.dependencyIds :=
    Json.asListOf?_map fun _ _ => rfl
  have hbindings : Json.asListOf? Binding.ofJson? (.arr (n.bindings.map Binding.toJson)) =
      some n.bindings :=
    Json.asListOf?_map fun b hb => Binding.ofJson?_toJson (h b hb)
  have htemplate : optional PodTemplate.ofJson? (n.podTemplate.map PodTemplate.toJson) =
      some n.podTemplate :=
    Json.optional_map (fun _ => Json.noConfusion) fun t _ => t.ofJson?_toJson
  have haliases : withDefault [] (Json.asListOf? Alias.ofJson?)
      (if n.aliases = [] then none else some (.arr (n.aliases.map Alias.toJson))) = some n.aliases :=
    Json.withDefault_ite (fun hempty => hempty) (Json.asListOf?_map fun a _ => a.ofJson?_toJson)
  have hsub : optional NodeMetadata.ofJson? (n.subNodeMetadata.map NodeMetadata.toJson) =
      some n.subNodeMetadata :=
    Json.optional_map (fun _ => Json.noConfusion) fun m _ => m.ofJson?_toJson
  rw [toJson_eq, ofJson?, Json.fields?_record]
  case hnames => rfl
  case hnodup => decide
  simp [hids, hbindings, htemplate, haliases, hsub]

end NodeSpec

/-! ## Graphs -/

namespace WorkflowSpec

theorem toJson_eq (spec : WorkflowSpec) :
    spec.toJson = Json.record [("nodes", some (.arr (spec.nodes.map NodeSpec.toJson)))] := rfl

theorem ofJson?_toJson {spec : WorkflowSpec} (h : ∀ b ∈ spec.bindings, b.Sound) :
    ofJson? spec.toJson = some spec := by
  have hnodes : Json.asListOf? NodeSpec.ofJson? (.arr (spec.nodes.map NodeSpec.toJson)) =
      some spec.nodes :=
    Json.asListOf?_map fun n hn => NodeSpec.ofJson?_toJson fun b hb =>
      h b (List.mem_flatMap.2 ⟨n, hn, hb⟩)
  rw [toJson_eq, ofJson?, Json.fields?_record]
  case hnames => rfl
  case hnodup => decide
  simp [hnodes]

end WorkflowSpec

/-- **The wire form of a rendered graph** leads back to it, if the floating numbers in its inputs are
finite. In particular it does for what any graph with such inputs is rendered as. -/
theorem WorkflowSpec.ofJson?_toJson_of_sound :
    (∀ spec : WorkflowSpec, (∀ b ∈ spec.bindings, b.Sound) →
      WorkflowSpec.ofJson? spec.toJson = some spec) ∧
      ∀ (g : Graph) (entityOf : Nat → RunEntity) (spec : WorkflowSpec),
        (∀ b ∈ g.bindings, b.Sound) → g.toSpec entityOf = .ok spec →
          WorkflowSpec.ofJson? spec.toJson = some spec :=
  ⟨fun _ => WorkflowSpec.ofJson?_toJson,
    fun _ _ _ h hspec => WorkflowSpec.ofJson?_toJson (Graph.sound_of_toSpec hspec h)⟩

/-- A node with every field set, and some of them to values that are empty. -/
def NodeSpec.full : NodeSpec where
  id := "use"
  metadata := ⟨"use", some .zero, ⟨3⟩, some false, true, some "v1", true⟩
  dependencyIds := ["make"]
  bindings := [⟨"x", .map [("a", .reference ⟨"make", "o"⟩),
    ("b", .collection [.scalar (.ofPrimitive (.float ⟨0x3ff8000000000000⟩)), .map []])]⟩]
  overrides := ⟨⟨[⟨.cpu, "1"⟩], []⟩, some {}⟩
  containerImage := some ""
  podTemplate := some ⟨"main", .empty, Dict.empty.insert "team" "a", .ofJson .null⟩
  aliases := [⟨"o", "result"⟩]
  subNodeMetadata := some ⟨"part", none, ⟨0⟩, none, false, none, false⟩

/-- A graph of one node with an input. -/
def Graph.single : Graph :=
  ⟨[.ofBindings 0 "only" 0 default [⟨"x", .scalar (.ofPrimitive (.float ⟨0⟩))⟩]], []⟩

theorem WorkflowSpec.ofJson?_toJson_of_sound_full :
    (∀ b ∈ WorkflowSpec.bindings ⟨[.full]⟩, b.Sound) ∧
      WorkflowSpec.ofJson? (WorkflowSpec.toJson ⟨[.full]⟩) = some ⟨[.full]⟩ ∧
      (∀ b ∈ Graph.single.bindings, b.Sound) ∧
      ∃ spec, Graph.single.toSpec (fun _ => default) = .ok spec ∧
        WorkflowSpec.ofJson? spec.toJson = some spec := by
  have hfull : ∀ b ∈ WorkflowSpec.bindings ⟨[.full]⟩, b.Sound := by
    intro b hb
    obtain rfl := List.mem_singleton.1 hb
    have hkeys : ["a", "b"].Pairwise (· < ·) := List.pairwise_pair.2 (by decide)
    exact ⟨⟨hkeys, trivial, ⟨trivial, ⟨List.Pairwise.nil, trivial⟩, trivial⟩, trivial⟩, by decide⟩
  have hsingle : ∀ b ∈ Graph.single.bindings, b.Sound := by
    intro b hb
    obtain rfl := List.mem_singleton.1 hb
    exact ⟨trivial, by decide⟩
  obtain ⟨spec, hspec⟩ : ∃ spec, Graph.single.toSpec (fun _ => default) = .ok spec := ⟨_, rfl⟩
  exact ⟨hfull, WorkflowSpec.ofJson?_toJson_of_sound.1 _ hfull, hsingle, spec, hspec,
    WorkflowSpec.ofJson?_toJson_of_sound.2 _ _ _ hsingle hspec⟩

end Workflow
