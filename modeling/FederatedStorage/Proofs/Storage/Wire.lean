import FederatedStorage.Backend.Loopback
import FederatedStorage.Backend.Remote
import FederatedStorage.Gateway.Report
import FederatedStorage.Http.Body
import FederatedStorage.Proofs.Json.Records
import FederatedStorage.Proofs.Time.Rfc3339

/-!
# Wire forms lose nothing

Every resource, request, report and configuration is read back from its JSON text, and from every
text that has the members in another order and unknown texts among them. Each type says of its
fields what they restore; a source finds its form wherever that stands.

## Main statements

* `VolumeSource.restores`: sources.
* `wire_forms_lossless`: all types.
-/

namespace FederatedStorage

open Json Time

/-! ## Contents of fields -/

/-- A timestamp whose year has four digits. -/
def Time.Timestamp.HasPlainYear (t : Timestamp) : Prop := 0 ≤ t.date.year ∧ t.date.year ≤ 9999

theorem timestamp_restores {t : Timestamp} (h : t.HasPlainYear) :
    Timestamp.codec.Restores .plain t :=
  Codec.ofText_restores (Rfc3339.read?_write_of_year h.1 h.2)

theorem kind_restores (kind : ResourceKind) : ResourceKind.codec.Restores .plain kind := by
  cases kind <;> exact Codec.restores_of_keeps rfl trivial fun _ => rfl

theorem texts_restores (texts : List String) : (Codec.list .text).Restores .plain texts :=
  Codec.list_restores fun s _ => Codec.text_restores s

theorem textTable_restores (t : Keyed String) : textTable.Restores .plain t :=
  Codec.table_restores fun e _ => Codec.text_restores e.2

/-! ## Sources -/

namespace VolumeSource

/-- A member that is not the form, and holds a text. -/
def IsOther (m : String × Value) : Prop := m.1 ≠ formKey ∧ ∃ s, m.2 = .string s

variable {depth : Nat} {form : Option Form} {ms others : List (String × Value)}

/-- **Other members are kept** as they come. -/
theorem readMembers_others (h : ∀ m ∈ ms, IsOther m) (rest : List (String × Value)) :
    readMembers depth form others (Outline.ofMembers (ms ++ rest)) =
      readMembers depth form (ms.reverse ++ others) (Outline.ofMembers rest) := by
  induction ms generalizing others with
  | nil => rfl
  | cons m ms ih =>
    obtain ⟨k, v⟩ := m
    obtain ⟨⟨hk, s, rfl⟩, hms⟩ := List.forall_mem_cons.mp h
    have hvalue : Outline.toValue depth (.string (some s)) = .ok (.string s) := by
      cases depth <;> rfl
    have hkey : ¬ (k == formKey) = true := fun heq => hk (beq_iff_eq.mp heq)
    rw [List.reverse_cons, List.append_assoc]
    refine Eq.trans ?_ (ih hms)
    refine (if_neg hkey).trans ?_
    show (do
      let v ← Outline.toValue depth (.string (some s))
      readMembers depth form ((k, v) :: others) (Outline.ofMembers (ms ++ rest))) = _
    rw [hvalue]
    rfl

/-- **The form may stand anywhere** among the other members. -/
theorem read_amid {pre post : List (String × Value)} {name : String} {f : Form}
    (hname : readForm (.string (some name)) = .ok f) (hpre : ∀ m ∈ pre, IsOther m)
    (hpost : ∀ m ∈ post, IsOther m) :
    read depth (.ofValue (.object (pre ++ (formKey, .string name) :: post))) =
      orMismatch (ofMembers? f (pre ++ post)) := by
  have hmembers : readMembers (depth - 1) none []
      (Outline.ofMembers (pre ++ (formKey, .string name) :: post)) = .ok (some f, pre ++ post) := by
    have hrest : readMembers (depth - 1) (some f) pre.reverse
        (Outline.ofMembers (post ++ [])) = _ := readMembers_others hpost []
    rw [List.append_nil] at hrest
    rw [readMembers_others hpre, List.append_nil]
    show (do
      let f ← readForm (Outline.string (some name))
      readMembers (depth - 1) (some f) pre.reverse (Outline.ofMembers post)) = _
    rw [hname]
    refine hrest.trans ?_
    show Except.ok (some f, (post.reverse ++ pre.reverse).reverse) = _
    rw [List.reverse_append, List.reverse_reverse, List.reverse_reverse]
  rw [Outline.ofValue, read, hmembers]
  rfl

/-- What a source says besides its form. -/
def details : VolumeSource → List (String × Value)
  | .new => []
  | .snapshot id => [(snapshotKey, .string id)]

/-- A source can be told from its form and its details, among unknown members. -/
theorem exists_form (source : VolumeSource) :
    ∃ name f, write source = .object ((formKey, .string name) :: details source) ∧
      readForm (.string (some name)) = .ok f ∧
        ∀ extras ms : List (String × Value), (∀ m ∈ extras, m.1 ∉ [formKey, snapshotKey]) →
          (details source ++ extras).Perm ms → ofMembers? f ms = some source := by
  cases source with
  | new => exact ⟨"new", .new, rfl, rfl, fun _ _ _ _ => rfl⟩
  | snapshot id =>
    refine ⟨"snapshot", .snapshot, rfl, rfl, fun extras ms hextras hperm => ?_⟩
    have hunknown : extras.filter (fun m => m.1 == snapshotKey) = [] := by
      refine List.filter_eq_nil_iff.mpr fun m hm heq => hextras m hm ?_
      rw [beq_iff_eq.mp heq]
      exact List.mem_cons_of_mem _ List.mem_cons_self
    have hnamed := hperm.filter fun m => m.1 == snapshotKey
    rw [List.filter_append, hunknown] at hnamed
    have hsingle : ms.filter (fun m => m.1 == snapshotKey) = [(snapshotKey, .string id)] :=
      List.perm_singleton.mp hnamed.symm
    unfold ofMembers?
    rw [hsingle]

/-- A source is a record that knows its form and its snapshot. -/
def shape : Shape := .record [formKey, snapshotKey] fun _ => .plain

/-- **A source is read from all its variants.** -/
theorem read_variant {source : VolumeSource} {w : Value} (hw : Variant shape (write source) w)
    (depth : Nat) : read depth (.ofValue w) = .ok source := by
  obtain ⟨name, f, hwrite, hname, hsource⟩ := exists_form source
  obtain ⟨ns, extras, ms, hns, hextras, hperm, rfl⟩ := hw
  rw [hwrite] at hns
  have hdetails : ∀ m ∈ details source, IsOther m := by
    cases source with
    | new => exact fun _ hm => absurd hm List.not_mem_nil
    | snapshot id =>
      have hkeys : snapshotKey ≠ formKey := by decide
      exact List.forall_mem_singleton.mpr ⟨hkeys, id, rfl⟩
  have hothers : ∀ m ∈ details source ++ extras, IsOther m := by
    intro m hm
    rcases List.mem_append.mp hm with hm | hm
    · exact hdetails m hm
    · obtain ⟨hknown, hs⟩ := hextras m hm
      exact ⟨fun heq => hknown (heq ▸ List.mem_cons_self), hs⟩
  -- the members of a source are texts, and so they are as they were
  have hsame : ns = (formKey, .string name) :: details source := by
    refine Alike.eq_of_isLeaf hns (List.forall_mem_cons.mpr ⟨rfl, fun m hm => ?_⟩)
    obtain ⟨-, s, hs⟩ := hdetails m hm
    rw [hs]
    rfl
  rw [hsame, List.cons_append] at hperm
  obtain ⟨pre, post, rfl⟩ := List.append_of_mem (hperm.mem_iff.mp List.mem_cons_self)
  have hrest : (details source ++ extras).Perm (pre ++ post) :=
    (hperm.trans List.perm_middle).cons_inv
  rw [read_amid hname (fun m hm => hothers m (hrest.mem_iff.mpr (List.mem_append_left _ hm)))
    (fun m hm => hothers m (hrest.mem_iff.mpr (List.mem_append_right _ hm))),
    hsource extras _ (fun m hm => (hextras m hm).1) hrest]
  rfl

/-- **A source is restored**, also inside of a record. -/
theorem restores (source : VolumeSource) : codec.Restores shape source where
  integral := by
    cases source with
    | new => exact ⟨trivial, trivial⟩
    | snapshot id => exact ⟨trivial, trivial, trivial⟩
  self := by
    obtain ⟨name, f, hwrite, -, -⟩ := exists_form source
    show Variant shape (write source) (write source)
    rw [hwrite]
    refine ⟨_, [], _, .refl fun m _ => .same m.2, ?_, .refl _, ?_⟩
    · exact fun _ hm => absurd hm List.not_mem_nil
    · rw [List.append_nil]
      rfl
  reads _ hw := read_variant hw

end VolumeSource

/-! ## Records -/

open Codec

/-- No field is a record. -/
def plainInside : String → Shape := fun _ => .plain

/-- The source is the only field that is a record. -/
def sourceInside : String → Shape
  | "source" => VolumeSource.shape
  | _ => .plain

theorem Volume.lossless {v : Volume} (h : v.createdAt.HasPlainYear) :
    Volume.record.Lossless plainInside v := by
  refine Record.lossless (by decide) ?_
  exact ⟨required_restores (text_restores _), required_restores (text_restores _),
    required_restores (size_restores _), sparse_restores (optionalText_restores _),
    defaulted_restores (texts_restores _), defaulted_restores (textTable_restores _),
    required_restores (timestamp_restores h), sparse_restores (optionalText_restores _), trivial⟩

theorem Snapshot.lossless {s : Snapshot} (h : s.createdAt.HasPlainYear) :
    Snapshot.record.Lossless plainInside s := by
  refine Record.lossless (by decide) ?_
  exact ⟨required_restores (text_restores _), required_restores (text_restores _),
    required_restores (text_restores _), required_restores (size_restores _),
    required_restores (timestamp_restores h), sparse_restores (optionalText_restores _), trivial⟩

theorem CreateVolume.lossless (r : CreateVolume) : CreateVolume.record.Lossless sourceInside r := by
  refine Record.lossless (by decide) ?_
  exact ⟨required_restores (text_restores _), required_restores (size_restores _),
    defaulted_restores (VolumeSource.restores _), defaulted_restores (textTable_restores _),
    defaulted_restores (textTable_restores _), trivial⟩

theorem ResizeVolume.lossless (r : ResizeVolume) : ResizeVolume.record.Lossless plainInside r := by
  refine Record.lossless (by decide) ?_
  exact ⟨required_restores (text_restores _), required_restores (size_restores _), trivial⟩

theorem HostLink.lossless (r : HostLink) : HostLink.record.Lossless plainInside r := by
  refine Record.lossless (by decide) ?_
  exact ⟨required_restores (text_restores _), required_restores (text_restores _), trivial⟩

theorem Attachment.lossless (a : Attachment) : Attachment.record.Lossless plainInside a := by
  refine Record.lossless (by decide) ?_
  exact ⟨required_restores (text_restores _), required_restores (text_restores _),
    defaulted_restores (textTable_restores _), trivial⟩

theorem CreateSnapshot.lossless (r : CreateSnapshot) :
    CreateSnapshot.record.Lossless plainInside r := by
  refine Record.lossless (by decide) ?_
  exact ⟨required_restores (text_restores _), required_restores (text_restores _), trivial⟩

theorem Resource.lossless (r : Resource) : Resource.record.Lossless plainInside r := by
  refine Record.lossless (by decide) ?_
  exact ⟨required_restores (text_restores _), required_restores (text_restores _),
    required_restores (kind_restores _), trivial⟩

theorem Resync.lossless (r : Resync) : Resync.record.Lossless plainInside r := by
  refine Record.lossless (by decide) ?_
  exact ⟨required_restores (text_restores _), required_restores (text_restores _),
    required_restores (kind_restores _), trivial⟩

theorem ResourceSyncReport.lossless (r : ResourceSyncReport) :
    ResourceSyncReport.record.Lossless plainInside r := by
  refine Record.lossless (by decide) ?_
  exact ⟨required_restores (size_restores _), required_restores (size_restores _),
    required_restores (texts_restores _), defaulted_restores (flag_restores _), trivial⟩

theorem Http.CreateVolumeBody.lossless (b : Http.CreateVolumeBody) :
    Http.CreateVolumeBody.record.Lossless sourceInside b := by
  refine Record.lossless (by decide) ?_
  exact ⟨required_restores (text_restores _), fieldOptional_restores (optionalSize_restores _),
    fieldOptional_restores (optionalText_restores _), defaulted_restores (VolumeSource.restores _),
    defaulted_restores (textTable_restores _), defaulted_restores (textTable_restores _), trivial⟩

theorem LoopbackConfig.lossless (c : LoopbackConfig) :
    LoopbackConfig.record.Lossless plainInside c := by
  refine Record.lossless (by decide) ?_
  exact ⟨fieldOptional_restores (optionalText_restores _),
    fieldOptional_restores (optionalSize_restores _),
    fieldOptional_restores (optionalSize_restores _), trivial⟩

theorem RemoteConfig.lossless (c : RemoteConfig) : RemoteConfig.record.Lossless plainInside c := by
  refine Record.lossless (by decide) ?_
  exact ⟨required_restores (texts_restores _), fieldOptional_restores (optionalText_restores _),
    defaulted_restores (size_restores _), defaulted_restores (shortCount_restores _),
    defaulted_restores (size_restores _), trivial⟩

/-- **Wire forms lose nothing.** Every value of these types is read back from its text, and from all
texts that have the members of objects in another order and unknown texts among the members of the
type itself and of its source. Timestamps have a year of four digits. -/
theorem wire_forms_lossless :
    (∀ v : Volume, v.createdAt.HasPlainYear → Volume.record.Lossless plainInside v) ∧
      (∀ s : Snapshot, s.createdAt.HasPlainYear → Snapshot.record.Lossless plainInside s) ∧
      (∀ s : VolumeSource, VolumeSource.codec.Lossless VolumeSource.shape s) ∧
      (∀ r : CreateVolume, CreateVolume.record.Lossless sourceInside r) ∧
      (∀ r : ResizeVolume, ResizeVolume.record.Lossless plainInside r) ∧
      (∀ r : HostLink, HostLink.record.Lossless plainInside r) ∧
      (∀ a : Attachment, Attachment.record.Lossless plainInside a) ∧
      (∀ r : CreateSnapshot, CreateSnapshot.record.Lossless plainInside r) ∧
      (∀ r : Resource, Resource.record.Lossless plainInside r) ∧
      (∀ r : Resync, Resync.record.Lossless plainInside r) ∧
      (∀ r : ResourceSyncReport, ResourceSyncReport.record.Lossless plainInside r) ∧
      (∀ b : Http.CreateVolumeBody, Http.CreateVolumeBody.record.Lossless sourceInside b) ∧
      (∀ c : LoopbackConfig, LoopbackConfig.record.Lossless plainInside c) ∧
      ∀ c : RemoteConfig, RemoteConfig.record.Lossless plainInside c :=
  ⟨fun _ => Volume.lossless, fun _ => Snapshot.lossless,
    fun s => (VolumeSource.restores s).lossless, CreateVolume.lossless, ResizeVolume.lossless,
    HostLink.lossless, Attachment.lossless, CreateSnapshot.lossless, Resource.lossless,
    Resync.lossless, ResourceSyncReport.lossless, Http.CreateVolumeBody.lossless,
    LoopbackConfig.lossless, RemoteConfig.lossless⟩

/-- A volume at the margins: characters to escape, the largest size and the last nanosecond. -/
def marginalVolume : Volume where
  id := "a-1"
  name := "\"é\"\t\\"
  sizeBytes := 18446744073709551615
  sourceSnapshotId := none
  attachedHosts := ["h"]
  labels := (Keyed.empty.insert "x" "1").insert "y" "2"
  createdAt := .ofEpoch 86399999999999
  clusterId := some "a"

/-- Its members, with the labels in the other order. -/
def marginalMembers : List (String × Value) :=
  [("id", .string "a-1"), ("name", .string "\"é\"\t\\"),
    ("size_bytes", .natural 18446744073709551615), ("attached_hosts", .texts ["h"]),
    ("labels", .object [("y", .string "2"), ("x", .string "1")]),
    ("created_at", .string "1970-01-01T23:59:59.999999999Z"), ("cluster_id", .string "a")]

/-- All members turned round, and an unknown one before them. -/
def marginalVariant : Value :=
  .object (marginalMembers ++ [("color", Value.string "red")]).reverse

theorem variant_marginal :
    Variant (Volume.record.shape plainInside) (Volume.record.codec.write marginalVolume)
      marginalVariant := by
  have hlabels : Reordered (.object [("x", .string "1"), ("y", .string "2")])
      (.object [("y", .string "2"), ("x", .string "1")]) :=
    .object (Reordered.same_members _) (List.Perm.swap _ _ _)
  have hsame : ∀ m : String × Value, m.1 = m.1 ∧ Variant .plain m.2 m.2 := fun m => ⟨rfl, .same m.2⟩
  refine ⟨marginalMembers, [("color", .string "red")], _, ?_, ?_, (List.reverse_perm _).symm, rfl⟩
  · exact .cons (hsame _) (.cons (hsame _) (.cons (hsame _) (.cons (hsame _)
      (.cons ⟨rfl, hlabels⟩ (.cons (hsame _) (.cons (hsame _) .nil))))))
  · exact List.forall_mem_singleton.mpr ⟨by decide, "red", rfl⟩

/-- The volume is read back from its text, and from one with all members turned round. -/
theorem wire_forms_lossless_marginal :
    marginalVolume.createdAt.HasPlainYear ∧
      Volume.record.codec.ofDocument (Volume.record.codec.render marginalVolume) =
        .ok marginalVolume ∧
      Volume.record.codec.ofDocument marginalVariant.render = .ok marginalVolume := by
  have hyear : marginalVolume.createdAt.HasPlainYear := ⟨by decide, by decide⟩
  obtain ⟨hvolume, -⟩ := wire_forms_lossless
  obtain ⟨hself, hforms⟩ := hvolume marginalVolume hyear
  exact ⟨hyear, hself, hforms _ variant_marginal⟩

end FederatedStorage
