import FederatedStorage.Cluster.Document

/-!
# Sources of the configuration

Where a gateway's clusters come from: a list that can be exchanged, or a document that lies
somewhere and is read anew every time. A source is read before every pass, and is good or bad as a
whole.
-/

namespace FederatedStorage

/-- **A source** as it is now. -/
inductive ClusterSource
  | list (descriptors : List ClusterDescriptor)
  /-- A document at a place, or why it cannot be read, and what the reader complains of if it is no
  document of clusters. -/
  | document (place : String) (content : Except String String) (complaint : String)

namespace ClusterSource

/-- **Reads the clusters**, if the source is good. -/
def load : ClusterSource → Except Failure (List ClusterDescriptor)
  | .list ds => (ClusterDescriptor.validate ds).map fun _ => ds
  | .document _ (.ok text) complaint => ClusterDescriptor.ofDocument complaint text
  | .document place (.error reason) _ => .error (.configuration s!"cannot read {place}: {reason}")

end ClusterSource

end FederatedStorage
