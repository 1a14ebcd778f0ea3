import FederatedStorage.Backend.Shelf
import FederatedStorage.Cluster.Descriptor

/-!
# Registered clusters

The clusters that are managed now, by ID. A cluster has a client unless none could be made for it.
-/

namespace FederatedStorage

open Text Time

/-- **A cluster**, as its descriptor says, and its client. -/
structure Cluster where
  id : String
  vendor : String
  affinityTags : Tags
  config : Json.Value
  registeredAt : Timestamp
  client : Option Client

namespace Cluster

/-- The cluster of a descriptor. -/
def ofDescriptor (d : ClusterDescriptor) (now : Timestamp) (client : Option Client) : Cluster :=
  ⟨d.clusterId, d.vendor, d.affinityTags, d.config, now, client⟩

/-- Whether there is a client. -/
def hasClient (c : Cluster) : Bool := c.client.isSome

/-- The client, or the failure of having none. -/
def usableClient (c : Cluster) : Except Failure Client :=
  match c.client with
  | some client => .ok client
  | none => .error (.clientUnavailable c.id)

/-- A cluster, as it is shown: without its configuration. -/
def shown (c : Cluster) : String :=
  showRecord "Cluster"
    [("id", "ClusterId(" ++ quote c.id ++ ")"), ("vendor", quote c.vendor),
      ("affinity_tags", quoteTable c.affinityTags.entries), ("has_client", toString c.hasClient)]

end Cluster

/-- **The registered clusters**, and how often one was set or removed. -/
structure ClusterRegistry where
  clusters : Keyed Cluster
  sets : Nat
  removals : Nat

namespace ClusterRegistry

/-- No cluster. -/
def empty : ClusterRegistry := ⟨.empty, 0, 0⟩

instance : Inhabited ClusterRegistry := ⟨empty⟩

/-- **Registers a cluster**, over an older one of the ID. -/
def set (r : ClusterRegistry) (id : String) (c : Cluster) : ClusterRegistry :=
  { r with clusters := r.clusters.insert id c, sets := r.sets + 1 }

/-- The cluster of an ID, or the failure of having none. -/
def find (r : ClusterRegistry) (id : String) : Except Failure Cluster :=
  match r.clusters.get? id with
  | some c => .ok c
  | none => .error (.clusterNotFound id)

/-- **Removes a cluster**; one that is not registered is a failure. -/
def remove (r : ClusterRegistry) (id : String) : Except Failure (Cluster × ClusterRegistry) :=
  match r.clusters.get? id with
  | some c => .ok (c, { r with clusters := r.clusters.erase id, removals := r.removals + 1 })
  | none => .error (.clusterNotFound id)

/-- The client of a registered cluster. -/
def clientOf (r : ClusterRegistry) (id : String) : Except Failure Client := do
  (← r.find id).usableClient

/-- Whether a cluster is registered. -/
def contains (r : ClusterRegistry) (id : String) : Bool := r.clusters.contains id

/-- The IDs of all clusters, ascending. -/
def ids (r : ClusterRegistry) : List String := r.clusters.keys

/-- The number of clusters. -/
def size (r : ClusterRegistry) : Nat := r.clusters.size

/-- The labels of all clusters. -/
def labels (r : ClusterRegistry) : Keyed Tags := r.clusters.map Cluster.affinityTags

end ClusterRegistry

end FederatedStorage
