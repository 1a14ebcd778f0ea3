import FederatedStorage.Json.Record
import FederatedStorage.Storage.Resource
import FederatedStorage.Time.Rfc3339

/-!
# Wire forms of resources and requests

Each type of `FederatedStorage.Storage.Resource` as a JSON record. The owning cluster and the source
snapshot are left out where there is none; labels, hosts and sources may be missing.

## Main definitions

* `ResourceKind.codec`, `VolumeSource.codec`: the two types that are no records.
* `Volume.record`, `Snapshot.record` and those of the requests.
-/

namespace FederatedStorage

open Json

/-- Timestamps stand as RFC 3339 texts. -/
def Time.Timestamp.codec : Codec Time.Timestamp := .ofText Time.Rfc3339.read? Time.Rfc3339.write

/-! ## Kinds -/

/-- The kind of a name. -/
def ResourceKind.ofName? : String → Option ResourceKind
  | "volume" => some .volume
  | "snapshot" => some .snapshot
  | _ => none

/-- A kind where only `null` may follow. -/
def ResourceKind.readUnit : Outline → Except Fault Unit
  | .null => .ok ()
  | o => .error o.refusal

/-- The kind that a text or key names. Where no text stands, no choice does. -/
def ResourceKind.readName (o : Outline) : Except Fault ResourceKind := do
  match ofName? (← o.readText.mapError fun _ => .malformed) with
  | some kind => .ok kind
  | none => .error .mismatch

/-- Reads a kind: its name, or an object with nothing but the name as a key and `null`. No other
value has the form of a choice at all. -/
def ResourceKind.read : Outline → Except Fault ResourceKind
  | .string s => readName (.string s)
  | .object ((key, value) :: rest) closed => do
    let kind ← readName key
    readUnit value
    if closed && rest.isEmpty then .ok kind else .error .malformed
  | _ => .error .malformed

/-- **The codec of kinds.** -/
def ResourceKind.codec : Codec ResourceKind where
  read _ o := read o
  write kind := .string kind.name

/-! ## Sources -/

namespace VolumeSource

/-- The two forms of a source. -/
inductive Form
  | new
  | snapshot

/-- The form that a text names. -/
def readForm (o : Outline) : Except Fault Form := do
  match ← o.readText with
  | "new" => .ok .new
  | "snapshot" => .ok .snapshot
  | _ => .error .mismatch

/-- The member that names the form. -/
def formKey : String := "type"

/-- The member that names the snapshot. -/
def snapshotKey : String := "snapshot_id"

/-- Reads the members of a source: the form, and all others as they come. A second form does not
fit. -/
def readMembers (depth : Nat) (form : Option Form) (others : List (String × Value)) :
    List (Outline × Outline) → Except Fault (Option Form × List (String × Value))
  | [] => .ok (form, others.reverse)
  | (k, v) :: rest => do
    let name ← k.readText.mapError fun _ => .malformed
    if name == formKey then
      if form.isSome then .error .mismatch
      else readMembers depth (some (← readForm v)) others rest
    else readMembers depth form ((name, ← v.toValue depth) :: others) rest

/-- The source of a form and its other members: a snapshot must be named exactly once. -/
def ofMembers? (form : Form) (others : List (String × Value)) : Option VolumeSource :=
  match form with
  | .new => some .new
  | .snapshot =>
    match others.filter fun m => m.1 == snapshotKey with
    | [(_, .string id)] => some (.snapshot id)
    | _ => none

/-- The source of a form and the items behind it. -/
def ofItems? (form : Form) (items : List Value) : Option VolumeSource :=
  match form, items with
  | .new, [] => some .new
  | .snapshot, [.string id] => some (.snapshot id)
  | _, _ => none

/-- What is not there does not fit. -/
def orMismatch {α : Type} : Option α → Except Fault α
  | some a => .ok a
  | none => .error .mismatch

/-- Reads a source: an object whose form may stand anywhere, or an array that begins with it. All is
read before the form decides what it means. -/
def read (depth : Nat) : Outline → Except Fault VolumeSource
  | .object members closed => do
    let (form, others) ← readMembers (depth - 1) none [] members
    if !closed then .error .malformed
    else orMismatch (ofMembers? (← orMismatch form) others)
  | .array (first :: rest) closed => do
    let form ← readForm first
    let items ← rest.mapM (Outline.toValue (depth - 1))
    if !closed then .error .malformed else orMismatch (ofItems? form items)
  | .array [] closed => .error (if closed then .mismatch else .malformed)
  | o => .error o.refusal

/-- The value of a source. -/
def write : VolumeSource → Value
  | .new => .object [(formKey, .string "new")]
  | .snapshot id => .object [(formKey, .string "snapshot"), (snapshotKey, .string id)]

/-- **The codec of sources.** -/
def codec : Codec VolumeSource := ⟨read, write⟩

end VolumeSource

/-! ## Records -/

/-- Labels and connection parameters. -/
def textTable : Codec (Keyed String) := .table .text

/-- The record of a volume. -/
def Volume.record : Record Volume where
  fields :=
    [.required "id" .text, .required "name" .text, .required "size_bytes" .size,
      .sparse "source_snapshot_id" .text, .defaulted "attached_hosts" (.list .text) [],
      .defaulted "labels" textTable .empty, .required "created_at" Time.Timestamp.codec,
      .sparse "cluster_id" .text]
  ofRow := fun (id, name, size, source, hosts, labels, created, cluster, ()) =>
    ⟨id, name, size, source, hosts, labels, created, cluster⟩
  toRow v :=
    (v.id, v.name, v.sizeBytes, v.sourceSnapshotId, v.attachedHosts, v.labels, v.createdAt,
      v.clusterId, ())

/-- The record of a snapshot. -/
def Snapshot.record : Record Snapshot where
  fields :=
    [.required "id" .text, .required "name" .text, .required "volume_id" .text,
      .required "size_bytes" .size, .required "created_at" Time.Timestamp.codec,
      .sparse "cluster_id" .text]
  ofRow := fun (id, name, volume, size, created, cluster, ()) =>
    ⟨id, name, volume, size, created, cluster⟩
  toRow s := (s.id, s.name, s.volumeId, s.sizeBytes, s.createdAt, s.clusterId, ())

/-- The record of a request for a volume. -/
def CreateVolume.record : Record CreateVolume where
  fields :=
    [.required "name" .text, .required "size_bytes" .size,
      .defaulted "source" VolumeSource.codec .new, .defaulted "affinity_tags" textTable .empty,
      .defaulted "labels" textTable .empty]
  ofRow := fun (name, size, source, tags, labels, ()) => ⟨name, size, source, tags, labels⟩
  toRow r := (r.name, r.sizeBytes, r.source, r.affinityTags, r.labels, ())

/-- The record of a request for a larger volume. -/
def ResizeVolume.record : Record ResizeVolume where
  fields := [.required "volume_id" .text, .required "new_size_bytes" .size]
  ofRow := fun (volume, size, ()) => ⟨volume, size⟩
  toRow r := (r.volumeId, r.newSizeBytes, ())

/-- The record of a volume and a host. -/
def HostLink.record : Record HostLink where
  fields := [.required "volume_id" .text, .required "host" .text]
  ofRow := fun (volume, host, ()) => ⟨volume, host⟩
  toRow r := (r.volumeId, r.host, ())

/-- The record of an attachment. -/
def Attachment.record : Record Attachment where
  fields :=
    [.required "volume_id" .text, .required "host" .text,
      .defaulted "connection" textTable .empty]
  ofRow := fun (volume, host, connection, ()) => ⟨volume, host, connection⟩
  toRow a := (a.volumeId, a.host, a.connection, ())

/-- The record of a request for a snapshot. -/
def CreateSnapshot.record : Record CreateSnapshot where
  fields := [.required "name" .text, .required "volume_id" .text]
  ofRow := fun (name, volume, ()) => ⟨name, volume⟩
  toRow r := (r.name, r.volumeId, ())

/-- The record of an owner. -/
def Resource.record : Record Resource where
  fields :=
    [.required "id" .text, .required "cluster_id" .text,
      .required "resource_type" ResourceKind.codec]
  ofRow := fun (id, cluster, kind, ()) => ⟨id, cluster, kind⟩
  toRow r := (r.id, r.clusterId, r.kind, ())

end FederatedStorage
