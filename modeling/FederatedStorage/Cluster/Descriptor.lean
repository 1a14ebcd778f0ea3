import FederatedStorage.Failure
import FederatedStorage.Storage.Wire
import FederatedStorage.Text.Blank

/-!
# Cluster descriptors

What the configuration says about one cluster: its ID, the vendor of its array, its labels and
whatever else the vendor wants to know. A list of descriptors is good if every ID and every vendor
has a visible character and no ID occurs twice.

## Main statement

* `validate_eq_ok_iff`: a list is accepted exactly if it is good.
-/

namespace FederatedStorage

open Json Text

/-- The configuration of one cluster. -/
structure ClusterDescriptor where
  clusterId : String
  vendor : String
  affinityTags : Tags
  config : Value

namespace ClusterDescriptor

/-- The record of a descriptor. -/
def record : Record ClusterDescriptor where
  fields :=
    [.required "cluster_id" .text, .required "vendor" .text,
      .defaulted "affinity_tags" textTable .empty, .defaulted "config" .any .null]
  ofRow := fun (cluster, vendor, tags, config, ()) => ⟨cluster, vendor, tags, config⟩
  toRow d := (d.clusterId, d.vendor, d.affinityTags, d.config, ())

/-- What is wrong with a descriptor, after those of other IDs. -/
def fault? (seen : List String) (d : ClusterDescriptor) : Option Failure :=
  if isAllBlank d.clusterId then some (.configuration "cluster_id must not be empty")
  else if isAllBlank d.vendor then
    some (.configuration s!"cluster {d.clusterId} has no vendor")
  else if seen.contains d.clusterId then
    some (.configuration s!"duplicate cluster_id: {d.clusterId}")
  else none

/-- Checks descriptors after those of other IDs, and stops at the first that is wrong. -/
def validateAfter (seen : List String) : List ClusterDescriptor → Except Failure Unit
  | [] => .ok ()
  | d :: ds =>
    match d.fault? seen with
    | some failure => .error failure
    | none => validateAfter (d.clusterId :: seen) ds

/-- **Checks a list of descriptors.** -/
def validate (ds : List ClusterDescriptor) : Except Failure Unit := validateAfter [] ds

/-- A good descriptor has an ID and a vendor that can be seen. -/
def IsNamed (d : ClusterDescriptor) : Prop :=
  isAllBlank d.clusterId = false ∧ isAllBlank d.vendor = false

/-- A descriptor has no fault exactly if it is named and its ID is new. -/
theorem fault?_eq_none_iff {seen : List String} {d : ClusterDescriptor} :
    d.fault? seen = none ↔ d.IsNamed ∧ d.clusterId ∉ seen := by
  unfold fault? IsNamed
  split
  · simp_all
  · split
    · simp_all
    · split <;> simp_all

/-- What is accepted after other IDs. -/
theorem validateAfter_eq_ok_iff {seen : List String} {ds : List ClusterDescriptor} :
    validateAfter seen ds = .ok () ↔
      (∀ d ∈ ds, d.IsNamed ∧ d.clusterId ∉ seen) ∧ (ds.map clusterId).Nodup := by
  induction ds generalizing seen with
  | nil => simp [validateAfter]
  | cons d ds ih =>
    unfold validateAfter
    cases h : d.fault? seen with
    | some failure =>
      have : ¬ (d.IsNamed ∧ d.clusterId ∉ seen) := fun hn => by
        rw [fault?_eq_none_iff.2 hn] at h
        simp at h
      simp [this]
    | none =>
      have hd := fault?_eq_none_iff.1 h
      simp only [ih, List.mem_cons, List.map_cons, List.nodup_cons, List.mem_map, not_or,
        not_exists, not_and]
      constructor
      · rintro ⟨h1, h2⟩
        refine ⟨fun x hx => ?_, fun x hx he => (h1 x hx).2.1 he, h2⟩
        rcases hx with rfl | hx
        · exact hd
        · exact ⟨(h1 x hx).1, (h1 x hx).2.2⟩
      · rintro ⟨h1, h2, h3⟩
        exact ⟨fun x hx => ⟨(h1 x (.inr hx)).1, fun he => h2 x hx he, (h1 x (.inr hx)).2⟩, h3⟩

/-- **A list is accepted exactly if every descriptor is named and no ID occurs twice.** -/
theorem validate_eq_ok_iff {ds : List ClusterDescriptor} :
    validate ds = .ok () ↔ (∀ d ∈ ds, d.IsNamed) ∧ (ds.map clusterId).Nodup := by
  simp [validate, validateAfter_eq_ok_iff]

end ClusterDescriptor

end FederatedStorage
