import Workflow.Graph.Error
import Workflow.Json.Basic

/-!
# Compute resources

A node asks for quantities of resources and may be limited to others; both lists are kept in the
order of `ResourceName.all`.

* `Resources` is what an author writes: a quantity, or a request with a limit, for each resource.
* `Resources.entries` turns single quantities into a list.
* `Resources.split` turns quantities and pairs into requests and limits.
-/

namespace Workflow

/-- The kinds of resources. -/
inductive ResourceName where
  | cpu
  | memory
  | gpu
  | ephemeralStorage
deriving DecidableEq, Inhabited

namespace ResourceName

/-- Every resource, in the order of resource lists. -/
def all : List ResourceName := [.cpu, .memory, .gpu, .ephemeralStorage]

def name : ResourceName → String
  | .cpu => "CPU"
  | .memory => "MEMORY"
  | .gpu => "GPU"
  | .ephemeralStorage => "EPHEMERAL_STORAGE"

end ResourceName

/-- A quantity of one resource. -/
structure ResourceEntry where
  name : ResourceName
  value : String
deriving DecidableEq, Inhabited

/-- What a node asks for and what it is limited to. -/
structure ResourceRequirements where
  requests : List ResourceEntry
  limits : List ResourceEntry
deriving DecidableEq, Inhabited

namespace ResourceRequirements

def empty : ResourceRequirements := ⟨[], []⟩

end ResourceRequirements

/-- A quantity, or a request with its limit. -/
inductive ResourceValue where
  | single (quantity : Param String)
  | bounded (request limit : Param String)
deriving DecidableEq, Inhabited

/-- The quantities an author writes. -/
structure Resources where
  cpu : Option ResourceValue := none
  memory : Option ResourceValue := none
  gpu : Option ResourceValue := none
  ephemeralStorage : Option ResourceValue := none
deriving DecidableEq, Inhabited

namespace Resources

/-- What is written for one resource. -/
def get (r : Resources) : ResourceName → Option ResourceValue
  | .cpu => r.cpu
  | .memory => r.memory
  | .gpu => r.gpu
  | .ephemeralStorage => r.ephemeralStorage

/-- The entry of one resource in a list that takes single quantities; `place` names the list. -/
def entry (place : String) (name : ResourceName) : Option ResourceValue →
    Except GraphError (List ResourceEntry)
  | none => .ok []
  | some (.single quantity) => do return [⟨name, ← quantity.known place⟩]
  | some (.bounded _ _) =>
    .error (.invalidValue (s!"{place} takes single quantities; a (request, limit) pair for " ++
      s!"{name.name} is only accepted in resources"))

/-- The entries of a list that takes single quantities. -/
def entries (place : String) (r : Resources) : Except GraphError (List ResourceEntry) := do
  return (← ResourceName.all.mapM fun name => entry place name (r.get name)).flatten

/-- What one resource adds to requests and limits. -/
def share (name : ResourceName) : Option ResourceValue → Except GraphError ResourceRequirements
  | none => .ok .empty
  | some (.single request) => do
    return ⟨[⟨name, ← request.known "resources.requests"⟩], []⟩
  | some (.bounded request limit) => do
    let request ← request.known "resources.requests"
    let limit ← limit.known "resources.limits"
    return ⟨[⟨name, request⟩], [⟨name, limit⟩]⟩

/-- Requests and limits: a single quantity is a request, a pair adds to both. -/
def split (r : Resources) : Except GraphError ResourceRequirements := do
  let shares ← ResourceName.all.mapM fun name => share name (r.get name)
  return ⟨shares.flatMap (·.requests), shares.flatMap (·.limits)⟩

end Resources

/-- A device, of which a part may suffice. -/
structure Accelerator where
  device : String
  partitionSize : Option String
deriving DecidableEq, Inhabited

/-- Memory shared inside a container. -/
inductive SharedMemory where
  /-- As much as the platform gives. -/
  | platform
  | size (quantity : String)
deriving DecidableEq, Inhabited

/-- Resources beyond the quantities. -/
structure ExtendedResources where
  accelerator : Option Accelerator := none
  sharedMemory : Option SharedMemory := none
deriving DecidableEq, Inhabited

namespace ExtendedResources

def isEmpty (r : ExtendedResources) : Bool := r.accelerator.isNone && r.sharedMemory.isNone

end ExtendedResources

/-- A pod definition for a node's container. The pod document is passed on as it is. -/
structure PodTemplate where
  primaryContainerName : String
  labels : Dict
  annotations : Dict
  podSpec : Document
deriving Inhabited

end Workflow
