import FederatedStorage.Cluster.Registry
import FederatedStorage.Placement.Allocate
import FederatedStorage.Proofs.Cluster.Registry
import Mathlib.Data.List.Sort

/-!
# Candidates for a placement

The clusters that a new volume may go to are found by looking up every registered cluster, in
whatever order the registry lists them, and sorting those that qualify. What is found does not
depend on that order. One of it is chosen whenever there is one, and a word is drawn for a choice
only.

## Main statements

* `Placement.gathered_eq`: the order of the listing does not matter.
* `Placement.choose_of_lt`, `Placement.choose_of_le`: what is chosen and drawn.
* `Placement.qualifies_of_allocate`, `Placement.allocate_eq_error_iff`: where a volume is placed.
-/

namespace FederatedStorage.Placement

/-! ## Who qualifies -/

/-- **A registered cluster carries all required labels.** -/
def Qualifies (clusters : ClusterRegistry) (required : Tags) (id : String) : Prop :=
  ∃ c, clusters.clusters.get? id = some c ∧
    ∀ key value, required.get? key = some value → c.affinityTags.get? key = some value

/-- Whether the cluster found under an ID carries all required labels. -/
def carries (clusters : ClusterRegistry) (required : Tags) (id : String) : Bool :=
  match clusters.find id with
  | .ok c => required.satisfiedBy c.affinityTags
  | .error _ => false

/-- **The candidates**, gathered by looking up the clusters of a listing. -/
def gathered (listing : List String) (clusters : ClusterRegistry) (required : Tags) :
    List String :=
  (listing.filter (carries clusters required)).mergeSort fun a b => decide (a ≤ b)

section Qualified

variable {clusters : ClusterRegistry} {required : Tags} {id : String}

theorem carries_iff : carries clusters required id = true ↔ Qualifies clusters required id := by
  unfold carries ClusterRegistry.find Qualifies
  cases hget : clusters.clusters.get? id with
  | none => simp
  | some c => simp [Tags.satisfiedBy_iff]

theorem mem_qualified_iff :
    id ∈ qualified clusters.labels required ↔ Qualifies clusters required id := by
  have hlabels : qualified clusters.labels required =
      (clusters.clusters.entries.filter fun e =>
        required.satisfiedBy e.2.affinityTags).map (·.1) := by
    show List.map _ (List.filter _ (List.map _ _)) = _
    rw [List.filter_map, List.map_map]
    rfl
  rw [hlabels, List.mem_map]
  constructor
  · rintro ⟨e, he, rfl⟩
    obtain ⟨hentry, hcarries⟩ := List.mem_filter.mp he
    exact ⟨e.2, Keyed.get?_eq_some_iff.mpr hentry, Tags.satisfiedBy_iff.mp hcarries⟩
  · rintro ⟨c, hget, hcarries⟩
    refine ⟨(id, c), List.mem_filter.mpr ⟨Keyed.get?_eq_some_iff.mp hget, ?_⟩, rfl⟩
    exact Tags.satisfiedBy_iff.mpr hcarries

theorem qualified_ascending (labels : Keyed Tags) (required : Tags) :
    (qualified labels required).Pairwise (· < ·) :=
  List.pairwise_map.mpr (labels.filter _).ascending

theorem nodup_of_ascending {ids : List String} (h : ids.Pairwise (· < ·)) : ids.Nodup := by
  refine h.imp ?_
  rintro id _ hlt rfl
  exact Std.lt_irrefl hlt

/-- Candidates in ascending order are known by who they are. -/
theorem eq_of_mem_iff {ids ids' : List String} (hids : ids.Pairwise (· < ·))
    (hids' : ids'.Pairwise (· < ·)) (h : ∀ id, id ∈ ids ↔ id ∈ ids') : ids = ids' := by
  have hperm : ids.Perm ids' :=
    (List.perm_ext_iff_of_nodup (nodup_of_ascending hids) (nodup_of_ascending hids')).mpr h
  exact hperm.eq_of_pairwise' (r := (· ≤ ·)) (hids.imp Std.le_of_lt) (hids'.imp Std.le_of_lt)

/-- **The order of the listing does not matter.** -/
theorem gathered_eq {listing : List String} (h : listing.Perm clusters.ids) :
    gathered listing clusters required = qualified clusters.labels required := by
  have hsorted := List.mergeSort_perm (listing.filter (carries clusters required))
    fun a b => decide (a ≤ b)
  have hnodup : (gathered listing clusters required).Nodup :=
    hsorted.nodup_iff.mpr ((h.nodup_iff.mpr (Keyed.keys_nodup _)).filter _)
  have hle : (gathered listing clusters required).Pairwise (· ≤ ·) :=
    List.pairwise_mergeSort' (· ≤ ·) _
  have hlt : (gathered listing clusters required).Pairwise (· < ·) :=
    (hle.and hnodup).imp fun hab => Std.lt_of_le_of_ne hab.1 hab.2
  refine eq_of_mem_iff hlt (qualified_ascending _ _) fun id => ?_
  rw [mem_qualified_iff, gathered, hsorted.mem_iff, List.mem_filter, h.mem_iff, carries_iff]
  refine and_iff_right_of_imp fun ⟨c, hc, _⟩ => ?_
  exact Keyed.mem_keys_iff.mpr (Option.isSome_iff_exists.mpr ⟨c, hc⟩)

end Qualified

/-! ## Who is chosen -/

/-- A word's choice is one of the possibilities. -/
theorem choice_lt {n : Nat} (hn : 0 < n) (word : UInt64) : choice n word < n := by
  refine Nat.div_lt_of_lt_mul ?_
  exact Nat.mul_lt_mul_of_pos_right word.toNat_lt hn

theorem pickWithin_lt {n : Nat} (hn : 0 < n) (draws : Draws) (tries : Nat) :
    (draws.pickWithin n tries).1 < n := by
  induction tries generalizing draws with
  | zero => exact hn
  | succ tries ih =>
    unfold Draws.pickWithin
    dsimp only
    split
    · exact choice_lt hn _
    · exact ih _

/-- A choice among several is the one that the next words pick. -/
theorem choose_of_lt {ids : List String} (h : 1 < ids.length) (draws : Draws) :
    choose draws ids = (ids[(draws.pick ids.length).1]?, (draws.pick ids.length).2) := by
  match ids with
  | [] => cases h
  | [_] => exact absurd h (Nat.lt_irrefl 1)
  | _ :: _ :: _ => rfl

/-- **Nothing is drawn** where there is nothing to choose. -/
theorem choose_of_le {ids : List String} (h : ids.length ≤ 1) (draws : Draws) :
    choose draws ids = (ids.head?, draws) := by
  match ids with
  | [] => rfl
  | [_] => rfl
  | _ :: _ :: _ => exact absurd h (by simp)

/-- **One of the candidates is chosen** if there is one. -/
theorem exists_choose_eq {ids : List String} (h : ids ≠ []) (draws : Draws) :
    ∃ id ∈ ids, (choose draws ids).1 = some id := by
  by_cases hone : ids.length ≤ 1
  · rw [choose_of_le hone]
    exact ⟨ids.head h, List.head_mem h, List.head?_eq_some_head h⟩
  · have hlt : 1 < ids.length := Nat.lt_of_not_le hone
    have hpick : (draws.pick ids.length).1 < ids.length := pickWithin_lt (by omega) draws _
    rw [choose_of_lt hlt]
    exact ⟨_, List.getElem_mem hpick, List.getElem?_eq_getElem hpick⟩

/-! ## Where a volume is placed -/

/-- **Places a volume** on one of some candidates. -/
def placeAmong (draws : Draws) (candidates : List String) (required : Tags) :
    Except Failure String × Draws :=
  let chosen := choose draws candidates
  (chosen.1.elim (.error (.noQualifiedClusters required.describe)) .ok, chosen.2)

theorem allocate_eq (draws : Draws) (labels : Keyed Tags) (required : Tags) :
    allocate draws labels required = placeAmong draws (qualified labels required) required := by
  unfold allocate placeAmong
  generalize choose draws (qualified labels required) = chosen
  obtain ⟨_ | id, draws⟩ := chosen <;> rfl

theorem exists_placeAmong_eq {ids : List String} (h : ids ≠ []) (draws : Draws) (required : Tags) :
    ∃ id ∈ ids, placeAmong draws ids required = (.ok id, (choose draws ids).2) := by
  obtain ⟨id, hid, hchoose⟩ := exists_choose_eq h draws
  refine ⟨id, hid, ?_⟩
  simp only [placeAmong, hchoose, Option.elim_some]

/-- **A volume is placed on a cluster that carries its labels**, -/
theorem qualifies_of_allocate {draws : Draws} {clusters : ClusterRegistry} {required : Tags}
    {id : String} (h : (allocate draws clusters.labels required).1 = .ok id) :
    Qualifies clusters required id := by
  rw [← mem_qualified_iff]
  rw [allocate_eq] at h
  by_cases hnone : qualified clusters.labels required = []
  · rw [hnone] at h
    cases h
  · obtain ⟨id', hid, hplace⟩ := exists_placeAmong_eq hnone draws required
    rw [hplace] at h
    cases h
    exact hid

/-- and nowhere if there is no such cluster, and then only. -/
theorem allocate_eq_error_iff {draws : Draws} {clusters : ClusterRegistry} {required : Tags}
    {failure : Failure} :
    (allocate draws clusters.labels required).1 = .error failure ↔
      (∀ id, ¬ Qualifies clusters required id) ∧
        failure = .noQualifiedClusters required.describe := by
  rw [allocate_eq]
  constructor
  · intro h
    by_cases hnone : qualified clusters.labels required = []
    · rw [hnone] at h
      refine ⟨fun id hid => ?_, (Except.error.inj h).symm⟩
      rw [← mem_qualified_iff, hnone] at hid
      cases hid
    · obtain ⟨id, -, hplace⟩ := exists_placeAmong_eq hnone draws required
      rw [hplace] at h
      cases h
  · rintro ⟨hnone, rfl⟩
    have hempty : qualified clusters.labels required = [] :=
      List.eq_nil_iff_forall_not_mem.mpr fun id hid => hnone id (mem_qualified_iff.mp hid)
    rw [hempty]
    rfl

end FederatedStorage.Placement
