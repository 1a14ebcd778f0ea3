import FederatedStorage.Proofs.Gateway.Counted
import FederatedStorage.Proofs.Ownership.Groups
import FederatedStorage.Proofs.Ownership.Written
import FederatedStorage.Proofs.Cluster.Registry
import Mathlib.Algebra.BigOperators.Group.List.Basic

/-!
# Views that agree

The owners are looked at in several ways: one resource, the resources of one owner, all groups, the
numbers of all resources and of each owner's. All say the same, whatever was written before. The view
for administrators joins them with the clusters: it shows every managed cluster once, in order, and
its numbers are those of all resources but for the resources whose owner is not managed.

That the join finds its numbers rests on each cluster standing under its own ID, which holds as long
as clusters come from configurations only.

## Main statements

* `ClusterRegistry.named_syncClusters`: clusters stand under their own IDs.
* `Gateway.listClusters_ids`, `Gateway.sum_listClusters`: the view for administrators.
* `views_agree`: all views, after any writes and in every run.
-/

namespace FederatedStorage

/-! ## Clusters under their own IDs -/

namespace ClusterRegistry

/-- **Every cluster stands under its own ID.** -/
def Named (clusters : ClusterRegistry) : Prop := ∀ e ∈ clusters.clusters.entries, e.2.id = e.1

variable {clusters left : ClusterRegistry} {id : String}

theorem Named.set {c : Cluster} (h : Named clusters) (hid : c.id = id) :
    Named (clusters.set id c) := by
  intro e he
  rcases Keyed.mem_insertEntry he with rfl | he
  · exact hid
  · exact h e he

theorem Named.remove {c : Cluster} (h : Named clusters)
    (hremove : clusters.remove id = .ok (c, left)) : Named left := by
  unfold ClusterRegistry.remove at hremove
  cases hget : clusters.clusters.get? id with
  | none =>
    rw [hget] at hremove
    cases hremove
  | some found =>
    rw [hget] at hremove
    cases hremove
    exact fun e he => h e (List.mem_of_mem_filter he)

open Gateway in
theorem Named.install {factory : Factory} {now : Time.Timestamp} {s : ClusterSync}
    (d : ClusterDescriptor) (h : Named s.clusters) : Named (s.install factory now d).clusters := by
  unfold ClusterSync.install
  cases factory.create d s.shelf with
  | ok made => exact h.set rfl
  | error failure => exact h.set rfl

open Gateway in
theorem Named.leave {s : ClusterSync} (id : String) (h : Named s.clusters) :
    Named (s.remove id).clusters := by
  unfold ClusterSync.remove
  cases hremove : s.clusters.remove id with
  | ok removed => exact h.remove hremove
  | error failure => exact h

/-- **A configuration puts them there.** -/
theorem named_syncClusters (factory : Factory) (now : Time.Timestamp) (ds : List ClusterDescriptor)
    (shelf : Shelf) (h : Named clusters) :
    Named (Gateway.syncClusters factory now ds clusters shelf).clusters := by
  have hinstall : ∀ (ds : List ClusterDescriptor) (s : Gateway.ClusterSync), Named s.clusters →
      Named (ds.foldl (Gateway.ClusterSync.install factory now) s).clusters := by
    intro ds
    induction ds with
    | nil =>
      intro s hs
      exact hs
    | cons d ds ih =>
      intro s hs
      exact ih _ (hs.install d)
  have hleave : ∀ (ids : List String) (s : Gateway.ClusterSync), Named s.clusters →
      Named (ids.foldl Gateway.ClusterSync.remove s).clusters := by
    intro ids
    induction ids with
    | nil =>
      intro s hs
      exact hs
    | cons id ids ih =>
      intro s hs
      exact ih _ (hs.leave id)
  exact hleave _ _ (hinstall ds _ h)

end ClusterRegistry

/-! ## The view for administrators -/

/-- Among owners without repetition a resource's is listed once, or not at all. -/
theorem Ownership.sum_owner (r : Resource) (n : Nat) {owners : List String} (hnodup : owners.Nodup) :
    (owners.map fun c => if r.clusterId = c then n else 0).sum =
      if r.clusterId ∈ owners then n else 0 := by
  induction owners with
  | nil => rfl
  | cons c cs ih =>
    obtain ⟨hc, hcs⟩ := List.nodup_cons.mp hnodup
    rw [List.map_cons, List.sum_cons, ih hcs]
    by_cases hr : r.clusterId = c
    · have hnot : r.clusterId ∉ cs := hr ▸ hc
      rw [if_pos hr, if_neg hnot, if_pos (hr ▸ List.mem_cons_self), Nat.add_zero]
    · simp [hr]

/-- **A sum taken apart by owners**: those that are listed, and all others. -/
theorem Ownership.sum_split (f : Resource → Nat) (rs : List Resource) {owners : List String}
    (hnodup : owners.Nodup) :
    (owners.map fun c => ((rs.filter fun r => r.clusterId = c).map f).sum).sum
        + ((rs.filter fun r => r.clusterId ∉ owners).map f).sum =
      (rs.map f).sum := by
  induction rs with
  | nil => simp
  | cons r rs ih =>
    have hone : ∀ c, (((r :: rs).filter fun r => r.clusterId = c).map f).sum =
        (if r.clusterId = c then f r else 0) + ((rs.filter fun r => r.clusterId = c).map f).sum := by
      intro c
      by_cases hr : r.clusterId = c <;> simp [hr]
    have hothers : (((r :: rs).filter fun r => r.clusterId ∉ owners).map f).sum =
        (if r.clusterId ∈ owners then 0 else f r)
          + ((rs.filter fun r => r.clusterId ∉ owners).map f).sum := by
      by_cases hr : r.clusterId ∈ owners <;> simp [hr]
    simp only [hone, hothers, List.sum_map_add, Ownership.sum_owner r (f r) hnodup]
    rw [List.map_cons, List.sum_cons, ← ih]
    by_cases hr : r.clusterId ∈ owners
    · rw [if_pos hr, if_pos hr]
      omega
    · rw [if_neg hr, if_neg hr]
      omega

namespace Gateway

variable {g : Gateway}

/-- Every cluster is shown once, in the order of the registry. -/
theorem listClusters_ids (h : g.clusters.Named) :
    g.listClusters.map ClusterSummary.clusterId = g.clusters.ids := by
  unfold listClusters ClusterRegistry.ids Keyed.keys Keyed.values
  rw [List.map_map, List.map_map]
  exact List.map_congr_left fun e he => h e he

/-- **What the view sums up to**: all resources but those whose owner is not managed. -/
theorem sum_listClusters (h : g.clusters.Named) (kind : ResourceKind) :
    (g.listClusters.map fun s => s.resources.ofKind kind).sum
        + (ResourceCounts.ofList
            (g.resources.all.filter fun r => r.clusterId ∉ g.clusters.ids)).ofKind kind =
      g.status.1.resources.ofKind kind := by
  have hlisted : (g.listClusters.map fun s => s.resources.ofKind kind) =
      g.clusters.ids.map fun c => ((g.resources.ofCluster c).map (ResourceCounts.weight kind)).sum := by
    rw [← listClusters_ids h]
    unfold listClusters
    rw [List.map_map, List.map_map, List.map_map]
    refine List.map_congr_left fun c _ => ?_
    show ((g.resources.countsByCluster.get? c.id).getD .zero).ofKind kind = _
    rw [Ownership.getD_countsByCluster, ResourceCounts.ofKind_ofList]
    rfl
  have hnodup : g.clusters.ids.Nodup := g.clusters.clusters.keys_nodup
  rw [hlisted, ResourceCounts.ofKind_ofList]
  show _ = (ResourceCounts.ofList g.resources.all).ofKind kind
  rw [ResourceCounts.ofKind_ofList]
  exact Ownership.sum_split (ResourceCounts.weight kind) g.resources.all hnodup

/-- Nothing that can happen moves a cluster from its ID. -/
theorem named_of_change {g h : Gateway} (hchange : Change g h) (hg : g.clusters.Named) :
    h.clusters.Named := by
  cases hchange with
  | owners _ o => exact hg
  | draws _ d => exact hg
  | request _ operation result => exact hg
  | sizes _ => exact hg
  | clusters _ factory now ds shelf => exact ClusterRegistry.named_syncClusters factory now ds shelf hg
  | pass _ report => exact hg

end Gateway

/-! ## All of it -/

open Ownership Deployment Schedule in
/-- **All views of the owners agree.**

Whatever was written to a registry that was empty, every record stands under its own ID, a lookup
finds the record that was written last and not dropped since, and fails exactly without one, and a
further write is answered with the record that stood, or with the number of records it was given.

In every registry the groups are not empty, hold each record once, under its owner, and are what is
listed for the owner; the numbers of an owner are those of his group, and the numbers of all owners
add up to those of all resources.

And in every scene of every run of the gateway over any clients, with calls that are cancelled at any
time, with any configuration and any failures, the view for administrators shows every managed
cluster once, in ascending order, and its numbers add up to those of all resources but for the ones
whose owner is not managed. -/
theorem views_agree :
    (∀ (ws : List Write) (id : String),
      (∀ e ∈ (after ws).records.entries, e.2.id = e.1) ∧
      (∀ r, (after ws).find id = .ok r ↔ r.id = id ∧ Stands (entries ws) r) ∧
      (∀ failure, (after ws).find id = .error failure ↔
        failure = .resourceUnmapped id ∧ ∀ r, r.id = id → ¬ Stands (entries ws) r) ∧
      (∀ r old, ((after ws).replace r).2 = some old ↔ old.id = r.id ∧ Stands (entries ws) old) ∧
      (∀ old, ((after ws).withdraw id).2 = some old ↔ old.id = id ∧ Stands (entries ws) old) ∧
      ∀ rs, ((after ws).replaceAll rs).2 = rs.length) ∧
    (∀ o : Ownership,
      (∀ c group, o.byCluster.get? c = some group ↔ group ≠ [] ∧ group = o.ofCluster c) ∧
      (∀ c, o.byCluster.get? c = none ↔ o.ofCluster c = []) ∧
      (∀ c r, r ∈ o.ofCluster c ↔ r ∈ o.all ∧ r.clusterId = c) ∧
      o.byCluster.values.flatten.Perm o.all ∧
      (∀ c, o.countsByCluster.get? c = (o.byCluster.get? c).map .ofList) ∧
      (∀ kind, (o.countsByCluster.values.map fun n => n.ofKind kind).sum = o.counts.ofKind kind) ∧
      o.counts.total = o.size) ∧
    ∀ (V : Clients) (v : World Deployment) (x : Scene Deployment Clientele), V.Discreet →
      v.state.gateway.clusters.Named → V.AtWork ⟨v, .nobody⟩ x →
        let g := x.world.state.gateway
        g.listClusters.map ClusterSummary.clusterId = g.clusters.ids ∧
        (g.listClusters.map ClusterSummary.clusterId).Pairwise (· < ·) ∧
        ∀ kind, (g.listClusters.map fun s => s.resources.ofKind kind).sum
            + (ResourceCounts.ofList
                (g.resources.all.filter fun r => r.clusterId ∉ g.clusters.ids)).ofKind kind =
          g.status.1.resources.ofKind kind := by
  refine ⟨?_, ?_, ?_⟩
  · intro ws id
    refine ⟨(after ws).key_eq, find_after_ok ws id, find_after_error ws id, ?_, ?_, ?_⟩
    · intro r old
      exact record?_after ws r.id old
    · intro old
      exact record?_after ws id old
    · intro rs
      rw [replaceAll_eq]
  · intro o
    have hgroup := get?_byCluster o
    refine ⟨?_, ?_, fun c r => mem_ofCluster_iff, flatten_byCluster o, ?_, sum_countsByCluster o,
      total_counts o⟩
    · intro c group
      rw [hgroup]
      by_cases hnone : o.ofCluster c = []
      · rw [if_pos hnone]
        constructor
        · intro h
          cases h
        · rintro ⟨hsome, rfl⟩
          exact absurd hnone hsome
      · rw [if_neg hnone]
        constructor
        · intro h
          cases h
          exact ⟨hnone, rfl⟩
        · rintro ⟨-, rfl⟩
          rfl
    · intro c
      rw [hgroup]
      by_cases hnone : o.ofCluster c = [] <;> simp [hnone]
    · intro c
      rw [get?_countsByCluster, hgroup]
      by_cases hnone : o.ofCluster c = [] <;> simp [hnone]
  · intro V v x hV hv hrun
    have hnamed := kept_of_atWork (fun _ _ => Gateway.named_of_change) hV hv hrun
    refine ⟨Gateway.listClusters_ids hnamed, ?_, Gateway.sum_listClusters hnamed⟩
    rw [Gateway.listClusters_ids hnamed]
    exact ClusterRegistry.ids_ascending _

/-- A volume is written twice and dropped, and a snapshot stands; and when a configuration has been
loaded and a volume created, the clusters in the view have this volume between them. -/
theorem views_agree_three :
    (Ownership.after [.map ⟨"v", "a", .volume⟩, .mapAll [⟨"v", "b", .volume⟩, ⟨"s", "a", .snapshot⟩],
        .unmap "v"]).find "s" = .ok ⟨"s", "a", .snapshot⟩ ∧
    (let g := Deployment.threeCalls.world.state.gateway
    (g.listClusters.map fun s => s.resources.ofKind .volume).sum
      + (ResourceCounts.ofList
          (g.resources.all.filter fun r => r.clusterId ∉ g.clusters.ids)).ofKind .volume = 1) := by
  obtain ⟨hwritten, -, hviews⟩ := views_agree
  constructor
  · obtain ⟨-, hfind, -⟩ := hwritten _ "s"
    refine (hfind _).mpr ⟨rfl, [.wrote ⟨"v", "a", .volume⟩, .wrote ⟨"v", "b", .volume⟩],
      [.dropped "v"], rfl, fun e he => ?_⟩
    rw [List.mem_singleton.mp he]
    decide
  · have hnamed : Deployment.beforeCalls.world.state.gateway.clusters.Named :=
      fun e he => absurd he List.not_mem_nil
    obtain ⟨-, -, hsum⟩ := hviews _ _ _ Deployment.Clients.arrays_discreet hnamed
      Deployment.atWork_threeCalls
    exact (hsum .volume).trans (by decide +kernel)

end FederatedStorage
