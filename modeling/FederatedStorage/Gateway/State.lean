import FederatedStorage.Cluster.Registry
import FederatedStorage.Gateway.Report
import FederatedStorage.Metrics
import FederatedStorage.Placement.Allocate

/-!
# The gateway's state

The registered clusters, the owners of all resources, the draws that place new volumes, the metrics
and the report of the last whole pass.

## Main definitions

* `Gateway.route`, `Gateway.clusterFor`: where a call belongs.
* `Gateway.listClusters`, `Gateway.status`: the views.
-/

namespace FederatedStorage

open Placement Time

/-- **The gateway's state.** -/
structure Gateway where
  clusters : ClusterRegistry
  resources : Ownership
  draws : Draws
  metrics : Metrics
  lastReport : Option PassReport

namespace Gateway

/-- A gateway that knows nothing yet. -/
def new (seed : UInt64) : Gateway := ⟨.empty, .empty, .ofSeed seed, .empty, none⟩

/-- Counts a request by its result. -/
def observe {α : Type} (g : Gateway) (operation : String) (result : Except Failure α) : Gateway :=
  { g with metrics := g.metrics.recordRequest operation result }

/-- Sets the sizes of the registries among the metrics. -/
def refreshSizes (g : Gateway) : Gateway :=
  let counts := g.resources.counts
  { g with
    metrics :=
      g.metrics.setSizes (.ofNat g.clusters.size) (.ofNat counts.volumes)
        (.ofNat counts.snapshots) }

/-- Whether a whole pass has been completed. -/
def isReady (g : Gateway) : Bool := g.lastReport.isSome

/-! ## Where calls belong -/

/-- A cluster and its client. -/
structure Target where
  clusterId : String
  client : Client
deriving DecidableEq, Repr

/-- A cluster as a target. -/
def targetOf (g : Gateway) (clusterId : String) : Except Failure Target := do
  return ⟨clusterId, ← g.clusters.clientOf clusterId⟩

/-- The target of calls about an owned resource. -/
def route (g : Gateway) (resourceId : String) : Except Failure Target := do
  g.targetOf (← g.resources.owner resourceId)

/-- The failure of a request that names nothing. -/
def refuseEmpty (name what : String) : Except Failure Unit :=
  if name.isEmpty then .error (.invalidRequest s!"{what} must not be empty") else .ok ()

/-- The cluster of a new volume: that of its source snapshot, or one that carries the labels. -/
def clusterFor (g : Gateway) (r : CreateVolume) : Except Failure String × Gateway :=
  match r.source with
  | .snapshot id => (g.resources.owner id, g)
  | .new =>
    let (cluster, draws) := allocate g.draws g.clusters.labels r.affinityTags
    (cluster, { g with draws := draws })

/-- What is wrong with a request for a new volume, if anything. -/
def checkCreate (r : CreateVolume) : Except Failure Unit := do
  refuseEmpty r.name "volume name"
  if r.sizeBytes = 0 then .error (.invalidRequest "volume size must be positive") else .ok ()

/-- **Where a call goes**, if it goes anywhere. Only placing a volume changes the gateway. -/
def accept (g : Gateway) : Call → Except Failure Target × Gateway
  | .getVolume id => (g.route id, g)
  | .createVolume r =>
    match checkCreate r with
    | .error failure => (.error failure, g)
    | .ok () =>
      match g.clusterFor r with
      | (.error failure, g) => (.error failure, g)
      | (.ok clusterId, g) => (g.targetOf clusterId, g)
  | .resizeVolume r => (g.route r.volumeId, g)
  | .deleteVolume id => (g.route id, g)
  | .attachVolume l => (g.route l.volumeId, g)
  | .detachVolume l => (g.route l.volumeId, g)
  | .getSnapshot id => (g.route id, g)
  | .createSnapshot r =>
    match refuseEmpty r.name "snapshot name" with
    | .error failure => (.error failure, g)
    | .ok () => (g.route r.volumeId, g)
  | .deleteSnapshot id => (g.route id, g)

/-- Records an owner. -/
def own (g : Gateway) (r : Resource) : Gateway := { g with resources := g.resources.map r }

/-- Drops an owner. -/
def disown (g : Gateway) (id : String) : Gateway := { g with resources := g.resources.unmap id }

/-- A volume with its cluster stamped on it. -/
def stampVolume (clusterId : String) (v : Volume) : Volume := { v with clusterId := some clusterId }

/-- A snapshot with its cluster stamped on it. -/
def stampSnapshot (clusterId : String) (s : Snapshot) : Snapshot :=
  { s with clusterId := some clusterId }

/-- **What a success changes**: a created resource gets an owner, a deleted one loses it. Volumes
and snapshots come back with their cluster stamped on them. -/
def settle (g : Gateway) (clusterId : String) : (c : Call) → c.Answer → Gateway × c.Answer
  | .getVolume _, v => (g, stampVolume clusterId v)
  | .createVolume _, v => (g.own ⟨v.id, clusterId, .volume⟩, stampVolume clusterId v)
  | .resizeVolume _, v => (g, stampVolume clusterId v)
  | .deleteVolume id, () => (g.disown id, ())
  | .attachVolume _, a => (g, a)
  | .detachVolume _, () => (g, ())
  | .getSnapshot _, s => (g, stampSnapshot clusterId s)
  | .createSnapshot _, s => (g.own ⟨s.id, clusterId, .snapshot⟩, stampSnapshot clusterId s)
  | .deleteSnapshot id, () => (g.disown id, ())

/-- What an answer changes; a failure changes no owner. The request is counted. -/
def conclude (g : Gateway) (clusterId : String) (c : Call) (answer : Except Failure c.Answer) :
    Gateway × Except Failure c.Answer :=
  match answer with
  | .error failure =>
    (g.observe c.operation (.error failure : Except Failure Unit), .error failure)
  | .ok a =>
    let (g, a) := g.settle clusterId c a
    (g.observe c.operation (.ok a), .ok a)

/-! ## Listings over all clusters -/

/-- An item with its cluster stamped on it. -/
def stamp (clusterId : String) : (kind : ResourceKind) → kind.Item → kind.Item
  | .volume, v => stampVolume clusterId v
  | .snapshot, s => stampSnapshot clusterId s

/-- What one cluster contributes to a listing. -/
structure Contribution (α : Type) where
  clusterId : String
  result : Except Failure (List α)

/-- The items that clusters contribute. -/
def contributedItems (kind : ResourceKind) (cs : List (Contribution kind.Item)) : List kind.Item :=
  cs.flatMap fun c =>
    match c.result with
    | .ok items => items.map (stamp c.clusterId kind)
    | .error _ => []

/-- The failures that clusters contribute. -/
def contributedFailures {α : Type} (cs : List (Contribution α)) : List (String × Failure) :=
  cs.filterMap fun c =>
    match c.result with
    | .ok _ => none
    | .error failure => some (c.clusterId, failure)

/-- **The listing of all contributions**, in their order. It fails only if all of at least one did,
with the first failure. -/
def gather (kind : ResourceKind) (cs : List (Contribution kind.Item)) :
    Except Failure (Listing kind.Item) :=
  let failed := contributedFailures cs
  match failed with
  | (_, first) :: _ =>
    if failed.length = cs.length then .error first
    else .ok ⟨contributedItems kind cs, failed.map fun f => ⟨f.1, f.2.message⟩⟩
  | [] => .ok ⟨contributedItems kind cs, []⟩

/-! ## One resource of one cluster -/

/-- Takes a resource for a cluster's, before the cluster is asked. -/
def beginResync (g : Gateway) (r : Resync) : Except Failure (Target × Gateway) := do
  refuseEmpty r.resourceId "resource_id"
  let target ← g.targetOf r.clusterId
  return (target, g.own r.resource)

/-- **What the cluster's answer changes**: a resource that is not there loses its owner, if that is
still the cluster. -/
def endResync (g : Gateway) (r : Resync) (verified : Except Failure Unit) :
    Gateway × Except Failure ResyncAnswer :=
  match verified with
  | .ok () => (g, .ok ⟨r, true⟩)
  | .error failure =>
    if failure.isNotFound then
      let owned := (g.resources.record? r.resourceId).any fun x => x.clusterId = r.clusterId
      (if owned then g.disown r.resourceId else g, .ok ⟨r, false⟩)
    else (g, .error failure)

/-! ## Views -/

/-- The summary of a cluster. -/
def summary (counts : Keyed ResourceCounts) (c : Cluster) : ClusterSummary :=
  ⟨c.id, c.vendor, c.affinityTags, c.hasClient, c.registeredAt,
    (counts.get? c.id).getD .zero⟩

/-- **The managed clusters**, in ascending order of their IDs. -/
def listClusters (g : Gateway) : List ClusterSummary :=
  let counts := g.resources.countsByCluster
  g.clusters.clusters.values.map (summary counts)

/-- **The state in numbers**; looking at it refreshes the metrics. -/
def status (g : Gateway) : GatewayStatus × Gateway :=
  (⟨g.clusters.size, g.resources.counts, g.lastReport⟩, g.refreshSizes)

end Gateway

end FederatedStorage
