import FederatedStorage.Ownership
import FederatedStorage.Storage.Wire

/-!
# Reports and answers of the gateway

What passes report, what a listing over all clusters answers, and the gateway's own views.
-/

namespace FederatedStorage

open Json Time

/-! ## Passes -/

/-- What became of the clusters in a pass. -/
structure ClusterSyncReport where
  /-- Clusters of the configuration, in its order. -/
  registered : List String
  /-- Clusters that left the configuration. -/
  removed : List String
  /-- Registered clusters without a client, in the order of the configuration. -/
  clientFailures : List String
deriving DecidableEq, Repr

/-- What became of the resources in a pass. -/
structure ResourceSyncReport where
  mapped : UInt64
  unmapped : UInt64
  fetchFailures : List String
  cancelled : Bool
deriving DecidableEq, Repr

/-- What became of a whole pass. -/
structure PassReport where
  clusters : ClusterSyncReport
  resources : ResourceSyncReport
  startedAt : Timestamp
  finishedAt : Timestamp

/-- The value of a report on clusters. -/
def ClusterSyncReport.toValue (r : ClusterSyncReport) : Value :=
  .object
    [("registered", .texts r.registered), ("removed", .texts r.removed),
      ("client_failures", .texts r.clientFailures)]

/-- The record of a report on resources. -/
def ResourceSyncReport.record : Record ResourceSyncReport where
  fields :=
    [.required "mapped" .size, .required "unmapped" .size,
      .required "fetch_failures" (.list .text), .defaulted "cancelled" .flag false]
  ofRow := fun (mapped, unmapped, failures, cancelled, ()) =>
    ⟨mapped, unmapped, failures, cancelled⟩
  toRow r := (r.mapped, r.unmapped, r.fetchFailures, r.cancelled, ())

/-- The value of a report on a whole pass. -/
def PassReport.toValue (r : PassReport) : Value :=
  .object
    [("clusters", r.clusters.toValue),
      ("resources", ResourceSyncReport.record.codec.write r.resources),
      ("started_at", Timestamp.codec.write r.startedAt),
      ("finished_at", Timestamp.codec.write r.finishedAt)]

/-! ## Single resources -/

/-- A request to take a resource for a cluster's, and to look whether it is there. -/
structure Resync where
  resourceId : String
  clusterId : String
  kind : ResourceKind
deriving DecidableEq

/-- The record of such a request. -/
def Resync.record : Record Resync where
  fields :=
    [.required "resource_id" .text, .required "cluster_id" .text,
      .required "resource_type" ResourceKind.codec]
  ofRow := fun (resource, cluster, kind, ()) => ⟨resource, cluster, kind⟩
  toRow r := (r.resourceId, r.clusterId, r.kind, ())

/-- The resource as the request records it. -/
def Resync.resource (r : Resync) : Resource := ⟨r.resourceId, r.clusterId, r.kind⟩

/-- Whether a resource was there. -/
structure ResyncAnswer where
  request : Resync
  present : Bool
deriving DecidableEq

/-- The value of the answer. -/
def ResyncAnswer.toValue (a : ResyncAnswer) : Value :=
  .object ((Resync.record.codec.write a.request).members ++ [("present", .bool a.present)])

/-! ## Listings -/

/-- A cluster that did not answer, and why. -/
structure ClusterFailure where
  clusterId : String
  error : String
deriving DecidableEq, Repr

/-- The value of a cluster's failure. -/
def ClusterFailure.toValue (f : ClusterFailure) : Value :=
  .object [("cluster_id", .string f.clusterId), ("error", .string f.error)]

/-- The items of all clusters that answered, and the clusters that did not. -/
structure Listing (α : Type) where
  items : List α
  failed : List ClusterFailure

/-- The value of a listing, under the name of its items. -/
def Listing.toValue {α : Type} (name : String) (codec : Codec α) (l : Listing α) : Value :=
  .object
    [(name, .array (l.items.map codec.write)),
      ("failed_clusters", .array (l.failed.map ClusterFailure.toValue))]

/-! ## Views -/

/-- The value of counts. -/
def ResourceCounts.toValue (c : ResourceCounts) : Value :=
  .object [("volumes", .natural c.volumes), ("snapshots", .natural c.snapshots)]

/-- A managed cluster, as it is administered. -/
structure ClusterSummary where
  clusterId : String
  vendor : String
  affinityTags : Tags
  hasClient : Bool
  registeredAt : Timestamp
  resources : ResourceCounts

/-- The value of a summary. -/
def ClusterSummary.toValue (s : ClusterSummary) : Value :=
  .object
    [("cluster_id", .string s.clusterId), ("vendor", .string s.vendor),
      ("affinity_tags", textTable.write s.affinityTags), ("has_client", .bool s.hasClient),
      ("registered_at", Timestamp.codec.write s.registeredAt),
      ("resources", s.resources.toValue)]

/-- The state of the gateway in numbers. -/
structure GatewayStatus where
  clusters : Nat
  resources : ResourceCounts
  lastReconcile : Option PassReport

/-- The value of the state. -/
def GatewayStatus.toValue (s : GatewayStatus) : Value :=
  .object
    [("clusters", .natural s.clusters), ("resources", s.resources.toValue),
      ("last_reconcile", (s.lastReconcile.map PassReport.toValue).getD .null)]

end FederatedStorage
