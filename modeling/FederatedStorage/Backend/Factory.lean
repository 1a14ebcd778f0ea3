import FederatedStorage.Backend.Shelf
import FederatedStorage.Cluster.Descriptor
import FederatedStorage.Text.Casing

/-!
# Making clients

A factory knows a constructor for each vendor name, in lower case. A constructor makes a client from
a cluster's descriptor, or fails; a failure leaves the shelf as it was.
-/

namespace FederatedStorage

open Json Text

/-- Makes a client of a descriptor's array, and puts the array on the shelf if it is new. -/
abbrev Constructor := ClusterDescriptor → Shelf → Except Failure (Client × Shelf)

/-- **The constructors**, by vendor name. -/
structure Factory where
  constructors : Keyed Constructor

/-- A name in lower case. -/
def lowerName (name : String) : String := String.ofList (lower name.toList)

/-- The configuration of a loopback array; `null` configures nothing. -/
def ClusterDescriptor.loopbackConfig (d : ClusterDescriptor) : Except Failure LoopbackConfig :=
  if d.config.isNull then .ok .default
  else
    match LoopbackConfig.record.codec.ofValue? d.config with
    | some config => .ok config
    | none => .error (.configuration s!"invalid memory config for cluster {d.clusterId}")

/-- The configuration of a remote array. -/
def ClusterDescriptor.remoteConfig (d : ClusterDescriptor) : Except Failure RemoteConfig :=
  match RemoteConfig.record.codec.ofValue? d.config with
  | some config => .ok config
  | none => .error (.configuration s!"invalid rest config for cluster {d.clusterId}")

/-- Keeps one loopback array per cluster ID: the first that could be made. -/
def makeLoopback : Constructor := fun d shelf =>
  match shelf.kept.get? d.clusterId with
  | some client => .ok (client, shelf)
  | none => do
    let (client, shelf) := shelf.add (.loopback (.new d.clusterId (← d.loopbackConfig)))
    return (client, { shelf with kept := shelf.kept.insert d.clusterId client })

/-- Makes a remote array every time. -/
def makeRemote : Constructor := fun d shelf => do
  return shelf.add (.remote (← Remote.new d.clusterId (← d.remoteConfig)))

/-- Makes an empty loopback array every time, whose IDs begin with a name and the cluster's ID. -/
def makeNamed (name : String) : Constructor := fun d shelf =>
  .ok (shelf.add (.loopback (.new (name ++ "@" ++ d.clusterId) .default)))

/-- Hands out clients of arrays that are on the shelf already, by cluster ID. -/
def handOut (clients : Keyed Client) : Constructor := fun d shelf =>
  match clients.get? d.clusterId with
  | some client => .ok (client, shelf)
  | none => .error (.configuration s!"no array for cluster {d.clusterId}")

namespace Factory

/-- No vendor. -/
def empty : Factory := ⟨.empty⟩

/-- Registers a vendor's constructor, over an older one. -/
def register (f : Factory) (vendor : String) (c : Constructor) : Factory :=
  ⟨f.constructors.insert (lowerName vendor) c⟩

/-- **The built-in vendors.** -/
def standard : Factory :=
  (empty.register loopbackVendor makeLoopback).register remoteVendor makeRemote

/-- The names of all vendors. -/
def vendors (f : Factory) : List String := f.constructors.keys

/-- **Makes a client.** -/
def create (f : Factory) (d : ClusterDescriptor) (shelf : Shelf) :
    Except Failure (Client × Shelf) :=
  match f.constructors.get? (lowerName d.vendor) with
  | some make => make d shelf
  | none => .error (.unknownVendor d.vendor)

/-- A factory, as it is shown. -/
def shown (f : Factory) : String := showRecord "VendorFactory" [("vendors", quoteList f.vendors)]

end Factory

end FederatedStorage
