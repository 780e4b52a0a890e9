import Workflow.Keyed
import Workflow.Time.Duration

/-!
# What the engine reads for every execution of a node

* `NodeMetadata` holds name, deadline, retries and cache settings.
* `MetadataUpdate` is a set of writes to it; `apply` performs them. Fields not set stay.
-/

namespace Workflow

/-- A fixed number of retries on failure. -/
structure RetryStrategy where
  retries : UInt32
deriving DecidableEq, Inhabited

/-- The settings of one execution. A deadline of zero or none means no deadline. -/
structure NodeMetadata where
  name : String
  timeout : Option Duration := none
  retries : RetryStrategy := ⟨0⟩
  interruptible : Option Bool := none
  cacheable : Bool := false
  cacheVersion : Option String := none
  cacheSerializable : Bool := false
deriving DecidableEq, Inhabited

/-- Writes to metadata; a field that is none is left alone. -/
structure MetadataUpdate where
  name : Option String := none
  timeout : Option Duration := none
  retries : Option UInt32 := none
  interruptible : Option Bool := none
  cacheable : Option Bool := none
  cacheVersion : Option String := none
  cacheSerializable : Option Bool := none
deriving DecidableEq, Inhabited

namespace MetadataUpdate

/-- Performs the writes. -/
def apply (update : MetadataUpdate) (metadata : NodeMetadata) : NodeMetadata where
  name := update.name.getD metadata.name
  timeout := update.timeout.or metadata.timeout
  retries := ⟨update.retries.getD metadata.retries.retries⟩
  interruptible := update.interruptible.or metadata.interruptible
  cacheable := update.cacheable.getD metadata.cacheable
  cacheVersion := update.cacheVersion.or metadata.cacheVersion
  cacheSerializable := update.cacheSerializable.getD metadata.cacheSerializable

end MetadataUpdate

end Workflow
