import FederatedStorage.Cluster.Descriptor
import FederatedStorage.Yaml.Value

/-!
# Clusters in a document

A configuration document is a YAML mapping whose `clusters` list the descriptors. Names that are not
known are skipped. Texts take any scalar as it is written; only a vendor's own configuration has
values of other types.

## Main definitions

* `ClusterDescriptor.ofDocument`: the descriptors of a document, if they are good.
-/

namespace FederatedStorage.ClusterDescriptor

open Yaml

/-- How many collections may be open at once in a document. -/
def openLimit : Nat := 128

/-- How many collections are open around a vendor's own configuration. -/
def openAround : Nat := 3

/-- The descriptor of a node. -/
def ofNode (d : Document) (n : Node) : Following ClusterDescriptor := do
  let fields ← d.fields ["cluster_id", "vendor", "affinity_tags", "config"] n
  let clusterId ← d.text (← liftM (fields.lookup "cluster_id"))
  let vendor ← d.text (← liftM (fields.lookup "vendor"))
  let affinityTags ← d.textTable ((fields.lookup "affinity_tags").getD .absent)
  let config ← d.value (openLimit - openAround) ((fields.lookup "config").getD .absent)
  return ⟨clusterId, vendor, affinityTags, config⟩

/-- The descriptors of a root. -/
def ofRoot (d : Document) (root : Node) : Following (List ClusterDescriptor) := do
  let fields ← d.fields ["clusters"] root
  (← d.items ((fields.lookup "clusters").getD .absent)).mapM (ofNode d)

/-- The descriptors of a text, if it is a document of the expected shape. -/
def ofText? (text : String) : Option (List ClusterDescriptor) := do
  let d ← Document.read? text
  match d.root with
  | some root => (ofRoot d root).run' 0
  | none => return []

/-- **The descriptors of a document**, if they are good. What the reader complains of is no document
of clusters. -/
def ofDocument (complaint text : String) : Except Failure (List ClusterDescriptor) :=
  match ofText? text with
  | some ds => (validate ds).map fun _ => ds
  | none => .error (.yamlText complaint)

end FederatedStorage.ClusterDescriptor
