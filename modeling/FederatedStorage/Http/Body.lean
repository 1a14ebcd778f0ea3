import FederatedStorage.Capacity
import FederatedStorage.Failure
import FederatedStorage.Storage.Wire

/-!
# Bodies of requests

What callers send: a size may be given in bytes or as a capacity, but not as both.
-/

namespace FederatedStorage.Http

open Json

/-- A request for a new volume, as it is sent. -/
structure CreateVolumeBody where
  name : String
  sizeBytes : Option UInt64
  capacity : Option String
  source : VolumeSource
  affinityTags : Tags
  labels : Keyed String
deriving DecidableEq

/-- The record of a body for a new volume. -/
def CreateVolumeBody.record : Record CreateVolumeBody where
  fields :=
    [.required "name" .text, .optional "size_bytes" .size, .optional "capacity" .text,
      .defaulted "source" VolumeSource.codec .new, .defaulted "affinity_tags" textTable .empty,
      .defaulted "labels" textTable .empty]
  ofRow := fun (name, size, capacity, source, tags, labels, ()) =>
    ⟨name, size, capacity, source, tags, labels⟩
  toRow b := (b.name, b.sizeBytes, b.capacity, b.source, b.affinityTags, b.labels, ())

/-- A request for a larger volume, as it is sent. -/
structure ResizeVolumeBody where
  newSizeBytes : Option UInt64
  capacity : Option String
deriving DecidableEq

/-- The record of a body for a larger volume. -/
def ResizeVolumeBody.record : Record ResizeVolumeBody where
  fields := [.optional "new_size_bytes" .size, .optional "capacity" .text]
  ofRow := fun (size, capacity, ()) => ⟨size, capacity⟩
  toRow b := (b.newSizeBytes, b.capacity, ())

/-- The body that names a host. -/
structure HostBody where
  host : String
deriving DecidableEq

/-- The record of a body that names a host. -/
def HostBody.record : Record HostBody where
  fields := [.required "host" .text]
  ofRow := fun (host, ()) => ⟨host⟩
  toRow b := (b.host, ())

/-- **The size that a body asks for**, given exactly once. -/
def resolveSize (sizeBytes : Option UInt64) (capacity : Option String) :
    Except Failure UInt64 :=
  match sizeBytes, capacity with
  | some bytes, none => .ok bytes
  | none, some text => (Capacity.parse text).mapError fun fault => .invalidRequest fault.message
  | some _, some _ =>
    .error (.invalidRequest "specify either size in bytes or capacity, not both")
  | none, none => .error (.invalidRequest "a size or capacity is required")

/-- The request that a body stands for. -/
def CreateVolumeBody.toRequest (b : CreateVolumeBody) : Except Failure CreateVolume := do
  return ⟨b.name, ← resolveSize b.sizeBytes b.capacity, b.source, b.affinityTags, b.labels⟩

/-- The request that a body stands for, about a volume. -/
def ResizeVolumeBody.toRequest (b : ResizeVolumeBody) (volumeId : String) :
    Except Failure ResizeVolume := do
  return ⟨volumeId, ← resolveSize b.newSizeBytes b.capacity⟩

end FederatedStorage.Http
