import FederatedStorage.Failure
import FederatedStorage.Storage.Resource

/-!
# Calls on an array

What an array can be asked about a single resource, and the type of each answer. Listings and health
checks are no calls in this sense: they concern the whole array.
-/

namespace FederatedStorage

/-- **A call** about one resource. -/
inductive Call
  | getVolume (id : String)
  | createVolume (request : CreateVolume)
  | resizeVolume (request : ResizeVolume)
  | deleteVolume (id : String)
  | attachVolume (link : HostLink)
  | detachVolume (link : HostLink)
  | getSnapshot (id : String)
  | createSnapshot (request : CreateSnapshot)
  | deleteSnapshot (id : String)
deriving DecidableEq

namespace Call

/-- The type of a call's answer. -/
abbrev Answer : Call → Type
  | getVolume _ => Volume
  | createVolume _ => Volume
  | resizeVolume _ => Volume
  | deleteVolume _ => Unit
  | attachVolume _ => Attachment
  | detachVolume _ => Unit
  | getSnapshot _ => Snapshot
  | createSnapshot _ => Snapshot
  | deleteSnapshot _ => Unit

/-- The name of a call. -/
def operation : Call → String
  | getVolume _ => "get_volume"
  | createVolume _ => "create_volume"
  | resizeVolume _ => "resize_volume"
  | deleteVolume _ => "delete_volume"
  | attachVolume _ => "attach_volume"
  | detachVolume _ => "detach_volume"
  | getSnapshot _ => "get_snapshot"
  | createSnapshot _ => "create_snapshot"
  | deleteSnapshot _ => "delete_snapshot"

end Call

/-- The name of a listing. -/
def ResourceKind.listing : ResourceKind → String
  | .volume => "list_volumes"
  | .snapshot => "list_snapshots"

/-- The type of the resources of a kind. -/
abbrev ResourceKind.Item : ResourceKind → Type
  | .volume => Volume
  | .snapshot => Snapshot

/-- The failure of an array that does not have a volume. -/
def Failure.noVolume (id : String) : Failure := .resourceNotFound "Volume" id

/-- The failure of an array that does not have a snapshot. -/
def Failure.noSnapshot (id : String) : Failure := .resourceNotFound "Snapshot" id

end FederatedStorage
