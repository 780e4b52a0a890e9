import Workflow.Graph.Spec
import Workflow.Literal.Wire

/-!
# The wire form of rendered graphs

Each type has `toJson` and `ofJson?`. Fields that are absent or empty by default are left out when
written and may be left out when read; an empty value that was written stays apart from an absent
one.
-/

namespace Workflow

open Json (required optional withDefault slot)

namespace RetryStrategy

def toJson (r : RetryStrategy) : Json := .obj [("retries", .int r.retries.toNat)]

def ofJson? (document : Json) : Option RetryStrategy := do
  let slots ← document.fields? ["retries"]
  let retries ← required (Json.asNat? UInt32.size) (slot slots 0)
  return ⟨UInt32.ofNat retries⟩

end RetryStrategy

namespace NodeMetadata

def toJson (m : NodeMetadata) : Json :=
  .obj ([("name", .str m.name)] ++ Json.field? "timeout" Duration.toJson m.timeout ++
    [("retries", m.retries.toJson)] ++ Json.field? "interruptible" .bool m.interruptible ++
    [("cacheable", .bool m.cacheable)] ++ Json.field? "cache_version" .str m.cacheVersion ++
    [("cache_serializable", .bool m.cacheSerializable)])

def ofJson? (document : Json) : Option NodeMetadata := do
  let slots ← document.fields? ["name", "timeout", "retries", "interruptible", "cacheable",
    "cache_version", "cache_serializable"]
  let name ← required Json.asString? (slot slots 0)
  let timeout ← optional Duration.ofJson? (slot slots 1)
  let retries ← withDefault ⟨0⟩ RetryStrategy.ofJson? (slot slots 2)
  let interruptible ← optional Json.asBool? (slot slots 3)
  let cacheable ← withDefault false Json.asBool? (slot slots 4)
  let cacheVersion ← optional Json.asString? (slot slots 5)
  let cacheSerializable ← withDefault false Json.asBool? (slot slots 6)
  return ⟨name, timeout, retries, interruptible, cacheable, cacheVersion, cacheSerializable⟩

end NodeMetadata

namespace Alias

def toJson (a : Alias) : Json := .obj [("var", .str a.var), ("alias", .str a.name)]

def ofJson? (document : Json) : Option Alias := do
  let slots ← document.fields? ["var", "alias"]
  let var ← required Json.asString? (slot slots 0)
  let name ← required Json.asString? (slot slots 1)
  return ⟨var, name⟩

end Alias

namespace RunEntityKind

def toJson (k : RunEntityKind) : Json := .str k.name

def ofJson? : Json → Option RunEntityKind := Json.readNamed? all name Json.isNull

end RunEntityKind

namespace ResourceName

def toJson (n : ResourceName) : Json := .str n.name

def ofJson? : Json → Option ResourceName := Json.readNamed? all name Json.isNull

end ResourceName

namespace ResourceEntry

def toJson (e : ResourceEntry) : Json := .obj [("name", e.name.toJson), ("value", .str e.value)]

def ofJson? (document : Json) : Option ResourceEntry := do
  let slots ← document.fields? ["name", "value"]
  let name ← required ResourceName.ofJson? (slot slots 0)
  let value ← required Json.asString? (slot slots 1)
  return ⟨name, value⟩

end ResourceEntry

namespace ResourceRequirements

def toJson (r : ResourceRequirements) : Json :=
  .obj [("requests", .arr (r.requests.map ResourceEntry.toJson)),
    ("limits", .arr (r.limits.map ResourceEntry.toJson))]

def ofJson? (document : Json) : Option ResourceRequirements := do
  let slots ← document.fields? ["requests", "limits"]
  let requests ← required (Json.asListOf? ResourceEntry.ofJson?) (slot slots 0)
  let limits ← required (Json.asListOf? ResourceEntry.ofJson?) (slot slots 1)
  return ⟨requests, limits⟩

end ResourceRequirements

namespace Accelerator

def toJson (a : Accelerator) : Json :=
  .obj (("device", .str a.device) :: Json.field? "partition_size" .str a.partitionSize)

def ofJson? (document : Json) : Option Accelerator := do
  let slots ← document.fields? ["device", "partition_size"]
  let device ← required Json.asString? (slot slots 0)
  let partitionSize ← optional Json.asString? (slot slots 1)
  return ⟨device, partitionSize⟩

end Accelerator

namespace SharedMemory

def toJson : SharedMemory → Json
  | .platform => .str "default"
  | .size quantity => .obj [("size", .str quantity)]

def ofJson? : Json → Option SharedMemory
  | .str tag => if tag = "default" then some .platform else none
  | .obj [(tag, payload)] =>
    if tag = "size" then payload.asString?.map .size
    else if tag = "default" ∧ payload.isNull then some .platform
    else none
  | _ => none

end SharedMemory

namespace ExtendedResources

def toJson (r : ExtendedResources) : Json :=
  .obj (Json.field? "gpu_accelerator" Accelerator.toJson r.accelerator ++
    Json.field? "shared_memory" SharedMemory.toJson r.sharedMemory)

def ofJson? (document : Json) : Option ExtendedResources := do
  let slots ← document.fields? ["gpu_accelerator", "shared_memory"]
  let accelerator ← optional Accelerator.ofJson? (slot slots 0)
  let sharedMemory ← optional SharedMemory.ofJson? (slot slots 1)
  return ⟨accelerator, sharedMemory⟩

end ExtendedResources

namespace PodTemplate

/-- A map as a member that is written only when it has entries. -/
def dictMember (name : String) (d : Dict) : List (String × Json) :=
  if d.isEmpty then [] else [(name, Json.ofDict d)]

def toJson (t : PodTemplate) : Json :=
  .obj ([("primary_container_name", .str t.primaryContainerName)] ++ dictMember "labels" t.labels ++
    dictMember "annotations" t.annotations ++ [("pod_spec", t.podSpec.value)])

def ofJson? (document : Json) : Option PodTemplate := do
  let slots ← document.fields? ["primary_container_name", "labels", "annotations", "pod_spec"]
  let primaryContainerName ← required Json.asString? (slot slots 0)
  let labels ← withDefault .empty Json.asDict? (slot slots 1)
  let annotations ← withDefault .empty Json.asDict? (slot slots 2)
  let podSpec ← withDefault .null Json.asPlain? (slot slots 3)
  return ⟨primaryContainerName, labels, annotations, Document.ofJson podSpec⟩

end PodTemplate

namespace OutputReference

def toJson (r : OutputReference) : Json := .obj [("node_id", .str r.nodeId), ("var", .str r.var)]

def ofJson? (document : Json) : Option OutputReference := do
  let slots ← document.fields? ["node_id", "var"]
  let nodeId ← required Json.asString? (slot slots 0)
  let var ← required Json.asString? (slot slots 1)
  return ⟨nodeId, var⟩

end OutputReference

namespace BindingTree

mutual

def toJson : BindingTree OutputReference → Json
  | .scalar value => .obj [("scalar", value.toJson)]
  | .reference target => .obj [("promise", target.toJson)]
  | .collection items => .obj [("collection", .arr (itemsToJson items))]
  | .map entries => .obj [("map", .obj (entriesToJson entries))]

/-- Every item of a list. -/
def itemsToJson : List (BindingTree OutputReference) → List Json
  | [] => []
  | item :: items => toJson item :: itemsToJson items

/-- Every entry of a map. -/
def entriesToJson : List (String × BindingTree OutputReference) → List (String × Json)
  | [] => []
  | (key, value) :: entries => (key, toJson value) :: entriesToJson entries

end

mutual

def ofJson? : Json → Option (BindingTree OutputReference)
  | .obj [(tag, payload)] =>
    if tag = "scalar" then (Literal.ofJson? payload).map .scalar
    else if tag = "promise" then (OutputReference.ofJson? payload).map .reference
    else if tag = "collection" then (readItems? payload).map .collection
    else if tag = "map" then (readEntries? payload).map .map
    else none
  | _ => none

/-- Reads an array of trees. -/
def readItems? : Json → Option (List (BindingTree OutputReference))
  | .arr items => readAll? items
  | _ => none

/-- Reads every one of a list of trees. -/
def readAll? : List Json → Option (List (BindingTree OutputReference))
  | [] => some []
  | item :: items => do
    let item ← ofJson? item
    let items ← readAll? items
    return item :: items

/-- Reads an object of trees; of equal keys the last one stays. -/
def readEntries? : Json → Option (List (String × BindingTree OutputReference))
  | .obj members => (readEach? members).map sortKeys
  | _ => none

/-- Reads the value of every member. -/
def readEach? : List (String × Json) → Option (List (String × BindingTree OutputReference))
  | [] => some []
  | (key, value) :: members => do
    let value ← ofJson? value
    let entries ← readEach? members
    return (key, value) :: entries

end

end BindingTree

namespace Binding

def toJson (b : Binding OutputReference) : Json :=
  .obj [("var", .str b.var), ("binding", b.data.toJson)]

def ofJson? (document : Json) : Option (Binding OutputReference) := do
  let slots ← document.fields? ["var", "binding"]
  let var ← required Json.asString? (slot slots 0)
  let data ← required BindingTree.ofJson? (slot slots 1)
  return ⟨var, data⟩

end Binding

namespace NodeOverridesSpec

def toJson (o : NodeOverridesSpec) : Json :=
  .obj (("resources", o.resources.toJson) ::
    Json.field? "extended_resources" ExtendedResources.toJson o.extendedResources)

def ofJson? (document : Json) : Option NodeOverridesSpec := do
  let slots ← document.fields? ["resources", "extended_resources"]
  let resources ← required ResourceRequirements.ofJson? (slot slots 0)
  let extendedResources ← optional ExtendedResources.ofJson? (slot slots 1)
  return ⟨resources, extendedResources⟩

end NodeOverridesSpec

namespace NodeSpec

/-- Aliases as a member that is written only when there are any. -/
def aliasesMember (aliases : List Alias) : List (String × Json) :=
  if aliases.isEmpty then [] else [("aliases", .arr (aliases.map Alias.toJson))]

def toJson (n : NodeSpec) : Json :=
  .obj ([("id", .str n.id), ("metadata", n.metadata.toJson),
    ("upstream_node_ids", .arr (n.dependencyIds.map .str)),
    ("bindings", .arr (n.bindings.map Binding.toJson)), ("overrides", n.overrides.toJson)] ++
    Json.field? "container_image" .str n.containerImage ++
    Json.field? "pod_template" PodTemplate.toJson n.podTemplate ++ aliasesMember n.aliases ++
    Json.field? "sub_node_metadata" NodeMetadata.toJson n.subNodeMetadata)

def ofJson? (document : Json) : Option NodeSpec := do
  let slots ← document.fields? ["id", "metadata", "upstream_node_ids", "bindings", "overrides",
    "container_image", "pod_template", "aliases", "sub_node_metadata"]
  let id ← required Json.asString? (slot slots 0)
  let metadata ← required NodeMetadata.ofJson? (slot slots 1)
  let dependencyIds ← required (Json.asListOf? Json.asString?) (slot slots 2)
  let bindings ← required (Json.asListOf? Binding.ofJson?) (slot slots 3)
  let overrides ← required NodeOverridesSpec.ofJson? (slot slots 4)
  let containerImage ← optional Json.asString? (slot slots 5)
  let podTemplate ← optional PodTemplate.ofJson? (slot slots 6)
  let aliases ← withDefault [] (Json.asListOf? Alias.ofJson?) (slot slots 7)
  let subNodeMetadata ← optional NodeMetadata.ofJson? (slot slots 8)
  return ⟨id, metadata, dependencyIds, bindings, overrides, containerImage, podTemplate, aliases,
    subNodeMetadata⟩

end NodeSpec

namespace WorkflowSpec

def toJson (spec : WorkflowSpec) : Json := .obj [("nodes", .arr (spec.nodes.map NodeSpec.toJson))]

def ofJson? (document : Json) : Option WorkflowSpec := do
  let slots ← document.fields? ["nodes"]
  let nodes ← required (Json.asListOf? NodeSpec.ofJson?) (slot slots 0)
  return ⟨nodes⟩

end WorkflowSpec

end Workflow
