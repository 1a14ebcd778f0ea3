import FederatedStorage.Backend.Call
import FederatedStorage.Json.Record
import FederatedStorage.Storage.Wire

/-!
# Loopback arrays

An array that lives inside the gateway itself. It numbers the resources it creates, refuses
sizes beyond its limit, never shrinks a volume, and keeps a volume as long as a host or a snapshot
needs it. A call that fails changes nothing.

## Main statements

* `Loopback.perform_offline`: an array that is switched off refuses every call.
* `Loopback.perform_error`: a call that fails leaves the array as it was.
-/

namespace FederatedStorage

open Json Time

/-- The vendor name of loopback arrays. -/
def loopbackVendor : String := "memory"

/-- What can be configured of a loopback array. -/
structure LoopbackConfig where
  /-- What the IDs of its resources begin with; the cluster's ID if not given. -/
  idStem : Option String
  /-- The largest size of a volume. -/
  maxVolumeBytes : Option UInt64
  /-- How long a listing takes. -/
  listLatencyMs : Option UInt64
deriving DecidableEq

namespace LoopbackConfig

/-- Nothing configured. -/
def default : LoopbackConfig := ⟨none, none, none⟩

/-- The record of a configuration. -/
def record : Record LoopbackConfig where
  fields :=
    [.optional "id_prefix" .text, .optional "max_volume_bytes" .size,
      .optional "list_latency_ms" .size]
  ofRow := fun (stem, most, latency, ()) => ⟨stem, most, latency⟩
  toRow c := (c.idStem, c.maxVolumeBytes, c.listLatencyMs, ())

end LoopbackConfig

/-- **A loopback array.** -/
structure Loopback where
  stem : String
  config : LoopbackConfig
  volumes : Keyed Volume
  snapshots : Keyed Snapshot
  nextNumber : UInt64
  available : Bool

namespace Loopback

/-- An empty array. A configured stem goes before the given one. -/
def new (stem : String) (config : LoopbackConfig) : Loopback :=
  ⟨config.idStem.getD stem, config, .empty, .empty, 1, true⟩

/-- The least number of digits of a resource's number. -/
def numberWidth : Nat := 6

/-- A number with leading zeros. -/
def paddedNumber (n : Nat) : String :=
  let s := toString n
  String.ofList (List.replicate (numberWidth - s.length) '0') ++ s

/-- **The ID of a resource**: the stem, the kind and the number. -/
def resourceId (stem kind : String) (n : Nat) : String :=
  stem ++ "-" ++ kind ++ "-" ++ paddedNumber n

/-- The short names of the kinds, in IDs. -/
def idKind : ResourceKind → String
  | .volume => "vol"
  | .snapshot => "snap"

/-- The ID of the next resource. -/
def nextId (a : Loopback) (kind : ResourceKind) : String :=
  resourceId a.stem (idKind kind) a.nextNumber.toNat

/-- A failure of this kind of array. -/
def refusal (operation reason : String) : Failure :=
  .operationFailed loopbackVendor operation reason

/-- Why the array does not answer at all, if it does not. -/
def outage? (a : Loopback) : Option Failure :=
  if a.available then none else some (.backendUnavailable (loopbackVendor ++ "/" ++ a.stem))

/-- Whether a size is positive and within the limit. -/
def checkSize (a : Loopback) (operation : String) (size : UInt64) : Except Failure Unit :=
  if size = 0 then .error (refusal operation "size must be greater than zero")
  else
    match a.config.maxVolumeBytes with
    | some most =>
      if most < size then
        .error (refusal operation s!"size {size} exceeds array limit {most}")
      else .ok ()
    | none => .ok ()

/-- The volume of an ID. -/
def findVolume (a : Loopback) (id : String) : Except Failure Volume :=
  match a.volumes.get? id with
  | some v => .ok v
  | none => .error (.noVolume id)

/-- The snapshot of an ID. -/
def findSnapshot (a : Loopback) (id : String) : Except Failure Snapshot :=
  match a.snapshots.get? id with
  | some s => .ok s
  | none => .error (.noSnapshot id)

/-- Puts a volume on the array. -/
def putVolume (a : Loopback) (v : Volume) : Loopback :=
  { a with volumes := a.volumes.insert v.id v }

/-- Puts a snapshot on the array. -/
def putSnapshot (a : Loopback) (s : Snapshot) : Loopback :=
  { a with snapshots := a.snapshots.insert s.id s }

/-- Takes a volume off the array. -/
def evictVolume (a : Loopback) (id : String) : Loopback :=
  { a with volumes := a.volumes.erase id }

/-- Counts a number as used. -/
def useNumber (a : Loopback) : Loopback := { a with nextNumber := a.nextNumber + 1 }

/-! ## The calls -/

/-- The size of a new volume, which is at least that of its source, and the source's ID. -/
def plannedSize (a : Loopback) (r : CreateVolume) : Except Failure (UInt64 × Option String) :=
  match r.source with
  | .new => .ok (r.sizeBytes, none)
  | .snapshot id => do
    let s ← a.findSnapshot id
    return (if r.sizeBytes < s.sizeBytes then s.sizeBytes else r.sizeBytes, some s.id)

/-- Creates a volume. -/
def createVolume (a : Loopback) (now : Timestamp) (r : CreateVolume) :
    Except Failure (Loopback × Volume) := do
  let (size, source) ← a.plannedSize r
  a.checkSize "create_volume" size
  let v : Volume := ⟨a.nextId .volume, r.name, size, source, [], r.labels, now, none⟩
  return (a.useNumber.putVolume v, v)

/-- Grows a volume. -/
def resizeVolume (a : Loopback) (r : ResizeVolume) : Except Failure (Loopback × Volume) := do
  a.checkSize "resize_volume" r.newSizeBytes
  let v ← a.findVolume r.volumeId
  if r.newSizeBytes < v.sizeBytes then
    .error (refusal "resize_volume"
      s!"cannot shrink volume from {v.sizeBytes} to {r.newSizeBytes} bytes")
  else
    let grown := { v with sizeBytes := r.newSizeBytes }
    return ({ a with volumes := a.volumes.insert r.volumeId grown }, grown)

/-- Deletes a volume that nothing needs any more. -/
def deleteVolume (a : Loopback) (id : String) : Except Failure (Loopback × Unit) := do
  let v ← a.findVolume id
  if !v.attachedHosts.isEmpty then
    .error (refusal "delete_volume"
      ("volume is attached to " ++ ",".intercalate v.attachedHosts))
  else if a.snapshots.values.any fun s => s.volumeId = id then
    .error (refusal "delete_volume" "volume has dependent snapshots")
  else return (a.evictVolume id, ())

/-- Attaches a volume to a host; a second time changes nothing. -/
def attachVolume (a : Loopback) (l : HostLink) : Except Failure (Loopback × Attachment) := do
  let v ← a.findVolume l.volumeId
  let hosts :=
    if v.attachedHosts.contains l.host then v.attachedHosts else v.attachedHosts ++ [l.host]
  let attached := { v with attachedHosts := hosts }
  let connection :=
    Keyed.ofList [("protocol", "loopback"), ("target", a.stem ++ ":" ++ v.id)]
  return ({ a with volumes := a.volumes.insert l.volumeId attached }, ⟨v.id, l.host, connection⟩)

/-- Detaches a volume from a host. -/
def detachVolume (a : Loopback) (l : HostLink) : Except Failure (Loopback × Unit) := do
  let v ← a.findVolume l.volumeId
  if v.attachedHosts.contains l.host then
    let left := { v with attachedHosts := v.attachedHosts.filter fun h => h ≠ l.host }
    return ({ a with volumes := a.volumes.insert l.volumeId left }, ())
  else .error (refusal "detach_volume" s!"volume is not attached to {l.host}")

/-- Takes a snapshot of a volume. -/
def createSnapshot (a : Loopback) (now : Timestamp) (r : CreateSnapshot) :
    Except Failure (Loopback × Snapshot) := do
  let v ← a.findVolume r.volumeId
  let s : Snapshot := ⟨a.nextId .snapshot, r.name, r.volumeId, v.sizeBytes, now, none⟩
  return (a.useNumber.putSnapshot s, s)

/-- Deletes a snapshot. -/
def deleteSnapshot (a : Loopback) (id : String) : Except Failure (Loopback × Unit) := do
  let _ ← a.findSnapshot id
  return ({ a with snapshots := a.snapshots.erase id }, ())

/-- An array and an unchanged copy of it. -/
def unchanged {α : Type} (a : Loopback) (answer : Except Failure α) :
    Except Failure (Loopback × α) := answer.map fun x => (a, x)

/-- What a call does to an array that answers. -/
def serve (a : Loopback) (now : Timestamp) : (c : Call) → Except Failure (Loopback × c.Answer)
  | .getVolume id => a.unchanged (a.findVolume id)
  | .createVolume r => a.createVolume now r
  | .resizeVolume r => a.resizeVolume r
  | .deleteVolume id => a.deleteVolume id
  | .attachVolume l => a.attachVolume l
  | .detachVolume l => a.detachVolume l
  | .getSnapshot id => a.unchanged (a.findSnapshot id)
  | .createSnapshot r => a.createSnapshot now r
  | .deleteSnapshot id => a.deleteSnapshot id

/-- **What a call does**: the array after it, and its answer. -/
def perform (a : Loopback) (now : Timestamp) (c : Call) : Loopback × Except Failure c.Answer :=
  match a.outage? with
  | some failure => (a, .error failure)
  | none =>
    match a.serve now c with
    | .ok (next, answer) => (next, .ok answer)
    | .error failure => (a, .error failure)

/-- **The resources of a kind**, in ascending order of their IDs. -/
def list (a : Loopback) (kind : ResourceKind) : Except Failure (List kind.Item) :=
  match a.outage? with
  | some failure => .error failure
  | none =>
    match kind with
    | .volume => .ok a.volumes.values
    | .snapshot => .ok a.snapshots.values

/-- Whether the array answers. -/
def isHealthy (a : Loopback) : Bool := a.available

/-! ## Small laws -/

/-- **An array that is switched off** refuses every call with its outage. -/
theorem perform_offline {a : Loopback} (h : a.available = false) (now : Timestamp) (c : Call) :
    a.perform now c = (a, .error (.backendUnavailable (loopbackVendor ++ "/" ++ a.stem))) := by
  simp [perform, outage?, h]

/-- **A call that fails** leaves the array as it was. -/
theorem perform_error {a : Loopback} {now : Timestamp} {c : Call} {failure : Failure}
    (h : (a.perform now c).2 = .error failure) : (a.perform now c).1 = a := by
  unfold perform at h ⊢
  cases ho : a.outage? with
  | some f => rfl
  | none =>
    cases hs : a.serve now c with
    | error f => rfl
    | ok r => simp [ho, hs] at h

end Loopback

end FederatedStorage
