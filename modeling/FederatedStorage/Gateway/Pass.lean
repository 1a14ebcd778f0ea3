import FederatedStorage.Backend.Factory
import FederatedStorage.Gateway.State

/-!
# Passes

A pass brings the gateway in line with its configuration and its arrays. First it registers every
cluster of the configuration and removes every other. Then it asks all managed clusters for their
inventories; when all have answered or failed, it takes every reported resource for the reporting
cluster's, and drops the owners that nobody confirmed.

What can happen while the inventories are under way must not be lost, so the second part is cut into
`openPass`, which notes what was managed and owned before, and `closePass`.

## Main definitions

* `Gateway.syncClusters`, `Gateway.openPass`, `Gateway.closePass`, `Gateway.finishPass`.
-/

namespace FederatedStorage

open Time

namespace Gateway

/-! ## Clusters -/

/-- A gateway and the shelf of its arrays, with the report so far. -/
structure ClusterSync where
  clusters : ClusterRegistry
  shelf : Shelf
  report : ClusterSyncReport

/-- Registers one cluster, without a client if none can be made. -/
def ClusterSync.install (factory : Factory) (now : Timestamp) (s : ClusterSync)
    (d : ClusterDescriptor) : ClusterSync :=
  let registered := s.report.registered ++ [d.clusterId]
  match factory.create d s.shelf with
  | .ok (client, shelf) =>
    ⟨s.clusters.set d.clusterId (.ofDescriptor d now (some client)), shelf,
      { s.report with registered := registered }⟩
  | .error _ =>
    ⟨s.clusters.set d.clusterId (.ofDescriptor d now none), s.shelf,
      { s.report with
        registered := registered
        clientFailures := s.report.clientFailures ++ [d.clusterId] }⟩

/-- Removes one cluster. -/
def ClusterSync.remove (s : ClusterSync) (id : String) : ClusterSync :=
  match s.clusters.remove id with
  | .ok (_, clusters) =>
    { s with
      clusters := clusters
      report := { s.report with removed := s.report.removed ++ [id] } }
  | .error _ => s

/-- **Registers exactly the clusters of a configuration.** -/
def syncClusters (factory : Factory) (now : Timestamp) (ds : List ClusterDescriptor)
    (clusters : ClusterRegistry) (shelf : Shelf) : ClusterSync :=
  let installed := ds.foldl (ClusterSync.install factory now) ⟨clusters, shelf, ⟨[], [], []⟩⟩
  let configured := ds.map ClusterDescriptor.clusterId
  let leaving := installed.clusters.ids.filter fun id => !configured.contains id
  leaving.foldl ClusterSync.remove installed

/-! ## Resources -/

/-- What was managed and owned when a pass began to ask for inventories. -/
structure OpenPass where
  managed : List String
  knownBefore : List String
deriving DecidableEq, Repr

/-- **Notes what is managed and owned.** -/
def openPass (g : Gateway) : OpenPass := ⟨g.clusters.ids, g.resources.ids⟩

/-- What a cluster answered when it was asked for its inventory. -/
structure Inventory where
  clusterId : String
  result : Except Failure (List Resource)

/-- The resources of a cluster's listings. A resource listed as both kinds counts as a snapshot. -/
def inventoryOf (clusterId : String) (volumes : List Volume) (snapshots : List Snapshot) :
    List Resource :=
  volumes.map (fun v => ⟨v.id, clusterId, .volume⟩)
    ++ snapshots.map fun s => ⟨s.id, clusterId, .snapshot⟩

namespace Inventory

/-- Whether the asking was cancelled. -/
def wasCancelled (i : Inventory) : Bool :=
  match i.result with
  | .error (.cancelled _) => true
  | _ => false

/-- Whether the asking failed otherwise. -/
def hasFailed (i : Inventory) : Bool :=
  match i.result with
  | .error (.cancelled _) => false
  | .error _ => true
  | .ok _ => false

/-- The resources reported. -/
def resources (i : Inventory) : List Resource :=
  match i.result with
  | .ok rs => rs
  | .error _ => []

/-- Whether a resource was reported. -/
def reports (i : Inventory) (id : String) : Bool := i.resources.any fun r => r.id = id

end Inventory

/-- Whether a cluster reported a resource. -/
def isReported (inventories : List Inventory) (clusterId id : String) : Bool :=
  inventories.any fun i => i.clusterId = clusterId && i.reports id

/-- **Whether a pass drops an owner**: nobody manages it any more, or the cluster was asked, did not
report the resource, and the resource had an owner before. The clusters whose asking failed may be
spared. -/
def isStale (opened : OpenPass) (inventories : List Inventory) (preserve : Bool) (r : Resource) :
    Bool :=
  if !opened.managed.contains r.clusterId then true
  else if preserve && inventories.any fun i => i.clusterId = r.clusterId && i.hasFailed then false
  else
    !isReported inventories r.clusterId r.id && opened.knownBefore.contains r.id

/-- The owners once every reported resource is taken for the reporting cluster's, one inventory
after the other. -/
def takenOver (o : Ownership) (inventories : List Inventory) : Ownership :=
  inventories.foldl (fun o i => o.mapAll i.resources) o

/-- The records that a pass drops. -/
def staleRecords (opened : OpenPass) (inventories : List Inventory) (preserve : Bool)
    (o : Ownership) : List Resource :=
  o.all.filter (isStale opened inventories preserve)

/-- The number of resources reported. -/
def reportedCount (inventories : List Inventory) : UInt64 :=
  inventories.foldl (fun n i => n + UInt64.ofNat i.resources.length) 0

/-- The clusters whose asking failed. -/
def failedClusters (inventories : List Inventory) : List String :=
  (inventories.filter Inventory.hasFailed).map Inventory.clusterId

/-- **Takes over the inventories and drops stale owners.** A pass that was cancelled drops none. -/
def closePass (g : Gateway) (opened : OpenPass) (inventories : List Inventory)
    (cancelled preserve : Bool) : Gateway × ResourceSyncReport :=
  let mapped := reportedCount inventories
  let failures := failedClusters inventories
  let owned := takenOver g.resources inventories
  if cancelled || inventories.any Inventory.wasCancelled then
    ({ g with resources := owned }, ⟨mapped, 0, failures, true⟩)
  else
    let stale := staleRecords opened inventories preserve owned
    ({ g with resources := owned.unmapAll stale }, ⟨mapped, .ofNat stale.length, failures, false⟩)

/-- **Counts a whole pass** and keeps its report. -/
def finishPass (g : Gateway) (report : PassReport) : Gateway :=
  let counted : Gateway :=
    { g with metrics := g.metrics.recordPass report.resources.fetchFailures.length }
  { counted.refreshSizes with lastReport := some report }

end Gateway

end FederatedStorage
