import Workflow.Graph.Node
import Workflow.Text.Blank
import Workflow.Text.Label
import Workflow.Time.DurationText

/-!
# Overrides

A node may be changed after it was declared. A call lists fields to change; it is checked as a whole
and then written as a whole, so a refused call changes nothing.

* `Overrides` is a call, a field that is none leaves its part of the node alone.
* `Overrides.check` gives the writes of a call, a `NodeUpdate`, or the first error.
* `Overrides.warnings` are the notices of a call, given even if it is refused later on.
* `NodeUpdate.applyToNode` and `NodeUpdate.applyToEntity` write. Metadata of an array map goes to
  its entity, any other metadata to the node.
-/

namespace Workflow

/-- A new deadline. -/
inductive Timeout where
  /-- No deadline. -/
  | clear
  | seconds (count : Int64)
  | duration (value : Duration)
  /-- A duration in words, white space around it allowed. -/
  | text (words : String)
deriving Inhabited

namespace Timeout

/-- A deadline that is not negative. -/
def nonnegative (d : Duration) : Except GraphError Duration :=
  if d.isNegative then .error (.invalidValue s!"timeout cannot be negative, got {d.render}")
  else .ok d

/-- The duration of a deadline. -/
def resolve : Timeout → Except GraphError Duration
  | .clear => .ok Duration.zero
  | .seconds count => nonnegative (Duration.ofSeconds count)
  | .duration value => nonnegative value
  | .text words =>
    match Duration.readChars? (Text.trim words.toList) with
    | some d => nonnegative d
    | none =>
      .error (.invalidValue s!"timeout should be a duration or integer seconds, got `{words}`")

end Timeout

/-- A caching policy. -/
structure CachePolicy where
  version : Option String
  serialize : Bool
deriving DecidableEq, Inhabited

/-- A cache setting: a switch or a policy. -/
inductive Cache where
  | enabled (on : Bool)
  | policy (policy : CachePolicy)
deriving DecidableEq, Inhabited

/-- The fields of an override call. `cacheSerialize` and `cacheVersion` complete a switch and do not
go with a policy. -/
structure Overrides where
  nodeName : Option (Param String) := none
  aliases : Option Dict := none
  requests : Option Resources := none
  limits : Option Resources := none
  /-- Requests and limits in one. -/
  resources : Option Resources := none
  timeout : Option Timeout := none
  retries : Option (Param UInt32) := none
  interruptible : Option (Param Bool) := none
  /-- The display name. -/
  name : Option String := none
  taskConfig : Option TaskConfig := none
  containerImage : Option (Param String) := none
  accelerator : Option (Param Accelerator) := none
  cache : Option (Param Cache) := none
  cacheSerialize : Option (Param Bool) := none
  cacheVersion : Option (Param String) := none
  sharedMemory : Option (Param SharedMemory) := none
  podTemplate : Option (Param PodTemplate) := none
deriving Inhabited

/-- The writes of a checked call. -/
structure NodeUpdate where
  id : Option String
  aliases : Option (List Alias)
  resources : Option ResourceRequirements
  taskConfig : Option TaskConfig
  containerImage : Option String
  accelerator : Option Accelerator
  sharedMemory : Option SharedMemory
  podTemplate : Option PodTemplate
  metadata : MetadataUpdate
deriving Inhabited

/-- What the author should know of an accepted or refused call. -/
inductive Notice where
  /-- Requests were set and limits were not. -/
  | requestsWithoutLimits (nodeId nodeName : String)
  /-- A task configuration was set. -/
  | taskConfigIsBeta (nodeId : String)
deriving DecidableEq, Inhabited

namespace Notice

/-- The text of a notice. -/
def message : Notice → String
  | .requestsWithoutLimits _ _ =>
    "Requests overridden without specifying limits, requests are clamped to the original limits"
  | .taskConfigIsBeta _ => "Task config override is beta and may change"

end Notice

namespace Overrides

/-- The node's new id: the label of its new name. -/
def checkNodeName (o : Overrides) : Except GraphError (Option String) := do
  match ← Param.known? "node_name" o.nodeName with
  | none => return none
  | some name =>
    if (Label.ofName name).isEmpty then
      throw (.invalidValue s!"node name `{name}` has no characters usable in a node id")
    else return some (Label.ofName name)

/-- The entries of a list that may be left out. -/
def checkEntries (place : String) : Option Resources → Except GraphError (List ResourceEntry)
  | none => .ok []
  | some r => r.entries place

/-- The node's new requirements; `resources` does not go with `requests` or `limits`. -/
def checkResources (o : Overrides) : Except GraphError (Option ResourceRequirements) :=
  match o.resources with
  | some r =>
    if o.requests.isSome || o.limits.isSome then
      .error (.invalidValue ("resources cannot be used together with requests or limits, " ++
        "set only resources"))
    else r.split.map some
  | none =>
    if o.requests.isNone && o.limits.isNone then .ok none
    else do
      let requests ← checkEntries "resources.requests" o.requests
      let limits ← checkEntries "resources.limits" o.limits
      return some ⟨requests, limits⟩

/-- The name of a configuration's type, if there is a configuration. -/
def typeNameOf (config : Option TaskConfig) : String :=
  match config with
  | some c => c.typeName
  | none => "none"

/-- The new task configuration, which must have the type of the present one. -/
def checkTaskConfig (o : Overrides) (present : Option TaskConfig) :
    Except GraphError (Option TaskConfig) :=
  match o.taskConfig with
  | none => .ok none
  | some config =>
    if present.any config.sameType then .ok (some config)
    else
      .error (.invalidValue ("cannot change the type of the task config from " ++
        s!"{typeNameOf present} to {config.typeName}"))

/-- The cache part of the metadata, once the three cache fields are known values. -/
def cacheUpdate (cache : Option Cache) (version : Option String) (serialize : Option Bool) :
    Except GraphError MetadataUpdate :=
  match cache with
  | none => .ok { cacheVersion := version, cacheSerializable := serialize }
  | some (.enabled on) =>
    if on && version.isNone then
      .error (.invalidValue "must specify a cache version when enabling the cache in an override")
    else .ok { cacheable := some on, cacheVersion := version, cacheSerializable := serialize }
  | some (.policy policy) =>
    if serialize.isSome || version.isSome then
      .error (.invalidValue ("cache_serialize and cache_version cannot be combined with a cache " ++
        "policy, set them on the policy instead"))
    else
      match policy.version with
      | none =>
        .error (.invalidValue "must specify a cache version when overriding the cache policy")
      | some v =>
        .ok { cacheable := some true, cacheVersion := some v,
              cacheSerializable := some policy.serialize }

/-- The cache part of the metadata. -/
def checkCache (o : Overrides) : Except GraphError MetadataUpdate := do
  let version ← Param.known? "cache_version" o.cacheVersion
  let serialize ← Param.known? "cache_serialize" o.cacheSerialize
  let cache ← Param.known? "cache" o.cache
  cacheUpdate cache version serialize

/-- The new deadline. -/
def checkTimeout (o : Overrides) : Except GraphError (Option Duration) :=
  match o.timeout with
  | none => .ok none
  | some t => t.resolve.map some

/-- The metadata part of a call. -/
def checkMetadata (o : Overrides) : Except GraphError MetadataUpdate := do
  let timeout ← o.checkTimeout
  let retries ← Param.known? "retries" o.retries
  let interruptible ← Param.known? "interruptible" o.interruptible
  let cache ← o.checkCache
  return { cache with name := o.name, timeout, retries, interruptible }

/-- The writes of a call on a node whose entity has the configuration `present`. -/
def check (o : Overrides) (present : Option TaskConfig) : Except GraphError NodeUpdate := do
  let id ← o.checkNodeName
  let resources ← o.checkResources
  let taskConfig ← o.checkTaskConfig present
  let containerImage ← Param.known? "container_image" o.containerImage
  let accelerator ← Param.known? "accelerator" o.accelerator
  let sharedMemory ← Param.known? "shared_memory" o.sharedMemory
  let podTemplate ← Param.known? "pod_template" o.podTemplate
  let metadata ← o.checkMetadata
  return { id, aliases := o.aliases.map Alias.ofDict, resources, taskConfig, containerImage,
           accelerator, sharedMemory, podTemplate, metadata }

/-- The notices of a call on a node: those of the checks up to the first error. -/
def notices (o : Overrides) (node : Node) : List Notice :=
  match o.checkNodeName, o.checkResources with
  | .ok _, .ok resources =>
    let withoutLimits := match resources with
      | some r =>
        if r.limits.isEmpty then [.requestsWithoutLimits node.id node.metadata.name] else []
      | none => []
    let beta := if o.taskConfig.isSome then [.taskConfigIsBeta node.id] else []
    withoutLimits ++ beta
  | _, _ => []

end Overrides

namespace NodeUpdate

/-- Writes to the node. The metadata of an array map's node stays. -/
def applyToNode (u : NodeUpdate) (isArrayMap : Bool) (node : Node) : Node :=
  { node with
    id := u.id.getD node.id
    aliases := u.aliases.getD node.aliases
    resources := u.resources.or node.resources
    containerImage := u.containerImage.or node.containerImage
    extendedResources :=
      ⟨u.accelerator.or node.extendedResources.accelerator,
        u.sharedMemory.or node.extendedResources.sharedMemory⟩
    podTemplate := u.podTemplate.or node.podTemplate
    metadata := if isArrayMap then node.metadata else u.metadata.apply node.metadata }

/-- Writes to the entity that the node runs. -/
def applyToEntity (u : NodeUpdate) (entity : RunEntity) : RunEntity :=
  { entity with
    taskConfig := u.taskConfig.or entity.taskConfig
    subNodeMetadata :=
      if entity.isArrayMap then u.metadata.apply entity.subNodeMetadata
      else entity.subNodeMetadata }

end NodeUpdate

end Workflow
