import FederatedStorage.Failure
import FederatedStorage.Storage.Resource

/-!
# Ownership of resources

Which cluster owns which resource: at most one record per resource ID, under that ID.

## Main statements

* `record?_map`, `record?_unmap`: what a lookup finds after a change.
* `Ownership.key_eq`: every record stands under its own ID.
-/

namespace FederatedStorage

/-- The records of all owned resources, each under its resource's ID. -/
structure Ownership where
  records : Keyed Resource
  key_eq : ∀ e ∈ records.entries, e.2.id = e.1
deriving DecidableEq

/-- Numbers of resources of the two kinds. -/
structure ResourceCounts where
  volumes : Nat
  snapshots : Nat
deriving DecidableEq, Repr

namespace ResourceCounts

/-- Counts nothing. -/
def zero : ResourceCounts := ⟨0, 0⟩

/-- Counts one more resource. -/
def add (c : ResourceCounts) : ResourceKind → ResourceCounts
  | .volume => { c with volumes := c.volumes + 1 }
  | .snapshot => { c with snapshots := c.snapshots + 1 }

/-- Counts a list of resources. -/
def ofList (rs : List Resource) : ResourceCounts := rs.foldl (fun c r => c.add r.kind) zero

/-- All resources counted. -/
def total (c : ResourceCounts) : Nat := c.volumes + c.snapshots

end ResourceCounts

namespace Ownership

/-- No resource is owned. -/
def empty : Ownership := ⟨.empty, by simp [Keyed.empty]⟩

instance : Inhabited Ownership := ⟨empty⟩

/-- The record of a resource. -/
def record? (o : Ownership) (id : String) : Option Resource := o.records.get? id

/-- **Records an owner**, over an older record of the resource. -/
def map (o : Ownership) (r : Resource) : Ownership :=
  ⟨o.records.insert r.id r, fun e he => by
    rcases Keyed.mem_insertEntry he with rfl | he
    · rfl
    · exact o.key_eq e he⟩

/-- Records many owners, one after the other. -/
def mapAll (o : Ownership) (rs : List Resource) : Ownership := rs.foldl map o

/-- **Drops the record of a resource.** -/
def unmap (o : Ownership) (id : String) : Ownership :=
  ⟨o.records.erase id, fun e he => o.key_eq e ((List.mem_filter.1 he).1)⟩

/-- Drops the records of many resources. -/
def unmapAll (o : Ownership) (rs : List Resource) : Ownership := rs.foldl (fun o r => o.unmap r.id) o

/-- Records an owner, and gives the record back that it replaces. -/
def replace (o : Ownership) (r : Resource) : Ownership × Option Resource :=
  (o.map r, o.record? r.id)

/-- Records many owners, and counts what it was given. -/
def replaceAll (o : Ownership) (rs : List Resource) : Ownership × Nat :=
  rs.foldl (fun (o, n) r => (o.map r, n + 1)) (o, 0)

/-- Drops the record of a resource, and gives it back. -/
def withdraw (o : Ownership) (id : String) : Ownership × Option Resource :=
  (o.unmap id, o.record? id)

/-- The record of a resource, or the failure of having none. -/
def find (o : Ownership) (id : String) : Except Failure Resource :=
  match o.record? id with
  | some r => .ok r
  | none => .error (.resourceUnmapped id)

/-- The owner of a resource, or the failure of having none. -/
def owner (o : Ownership) (id : String) : Except Failure String := (·.clusterId) <$> o.find id

/-- Whether a resource has an owner. -/
def contains (o : Ownership) (id : String) : Bool := o.records.contains id

/-- All records, in ascending order of their IDs. -/
def all (o : Ownership) : List Resource := o.records.values

/-- The IDs of all owned resources. -/
def ids (o : Ownership) : List String := o.records.keys

/-- The number of owned resources. -/
def size (o : Ownership) : Nat := o.records.size

/-- The resources of one cluster. -/
def ofCluster (o : Ownership) (clusterId : String) : List Resource :=
  o.all.filter fun r => r.clusterId = clusterId

/-- Works a resource into its owner's item of a table; the first one starts the item. -/
def addToOwner {α : Type} (start : α) (add : α → Resource → α) (items : Keyed α) (r : Resource) :
    Keyed α :=
  items.insert r.clusterId (add ((items.get? r.clusterId).getD start) r)

/-- **All resources, grouped by their owners.** -/
def byCluster (o : Ownership) : Keyed (List Resource) :=
  o.all.foldl (addToOwner [] fun group r => group ++ [r]) .empty

/-- The numbers of all resources. -/
def counts (o : Ownership) : ResourceCounts := .ofList o.all

/-- The numbers of each owner's resources. -/
def countsByCluster (o : Ownership) : Keyed ResourceCounts :=
  o.all.foldl (addToOwner .zero fun counts r => counts.add r.kind) .empty

/-- **A lookup after recording an owner.** -/
@[simp] theorem record?_map (o : Ownership) (r : Resource) (id : String) :
    (o.map r).record? id = if id = r.id then some r else o.record? id :=
  Keyed.get?_insert o.records r.id id r

/-- **A lookup after dropping a record.** -/
@[simp] theorem record?_unmap (o : Ownership) (dropped id : String) :
    (o.unmap dropped).record? id = if id = dropped then none else o.record? id :=
  Keyed.get?_erase o.records dropped id

/-- A record found under an ID has that ID. -/
theorem id_of_record? {o : Ownership} {id : String} {r : Resource} (h : o.record? id = some r) :
    r.id = id := o.key_eq _ (Keyed.get?_eq_some_iff.1 h)

end Ownership

end FederatedStorage
