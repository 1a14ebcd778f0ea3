import FederatedStorage.Placement.Tags
import FederatedStorage.Time.Timestamp

/-!
# Volumes, snapshots and requests

The resources that arrays hold, the requests that create and change them, and the record of which
cluster owns which resource.
-/

namespace FederatedStorage

open Time

/-- The two kinds of resources. -/
inductive ResourceKind
  | volume
  | snapshot
deriving DecidableEq, Repr

/-- The name of a kind. -/
def ResourceKind.name : ResourceKind → String
  | .volume => "volume"
  | .snapshot => "snapshot"

/-- A block volume, as its array reports it. The gateway stamps the owning cluster on it. -/
structure Volume where
  id : String
  name : String
  sizeBytes : UInt64
  sourceSnapshotId : Option String
  attachedHosts : List String
  labels : Keyed String
  createdAt : Timestamp
  clusterId : Option String
deriving DecidableEq

/-- A snapshot of a volume. -/
structure Snapshot where
  id : String
  name : String
  volumeId : String
  sizeBytes : UInt64
  createdAt : Timestamp
  clusterId : Option String
deriving DecidableEq

/-- Where a new volume's data comes from: nowhere, or a snapshot. -/
inductive VolumeSource
  | new
  | snapshot (snapshotId : String)
deriving DecidableEq, Repr

/-- A request for a new volume. -/
structure CreateVolume where
  name : String
  sizeBytes : UInt64
  source : VolumeSource
  affinityTags : Tags
  labels : Keyed String
deriving DecidableEq

/-- A request for a larger volume. -/
structure ResizeVolume where
  volumeId : String
  newSizeBytes : UInt64
deriving DecidableEq

/-- A volume and a host to attach it to, or to detach it from. -/
structure HostLink where
  volumeId : String
  host : String
deriving DecidableEq

/-- How a host reaches a volume. -/
structure Attachment where
  volumeId : String
  host : String
  connection : Keyed String
deriving DecidableEq

/-- A request for a snapshot of a volume. -/
structure CreateSnapshot where
  name : String
  volumeId : String
deriving DecidableEq

/-- The record of a resource's owner. -/
structure Resource where
  id : String
  clusterId : String
  kind : ResourceKind
deriving DecidableEq

end FederatedStorage
