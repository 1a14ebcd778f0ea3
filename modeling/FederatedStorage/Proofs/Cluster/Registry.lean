import FederatedStorage.Gateway.State

/-!
# Which cluster has which client

What is known of a cluster's client after clusters were registered or removed, and why a cluster has
none.

## Main statements

* `clientOf_set`, `clientOf_of_remove`: clients after a change.
* `clientOf_error`: why there is no client.
-/

namespace FederatedStorage

namespace ClusterRegistry

variable {clusters left : ClusterRegistry} {c id : String} {client : Client}

/-- The clusters stand in ascending order. -/
theorem ids_ascending (clusters : ClusterRegistry) : clusters.ids.Pairwise (· < ·) :=
  List.pairwise_map.mpr clusters.clusters.ascending

theorem clientOf_set (clusters : ClusterRegistry) (id : String) (cluster : Cluster) (c : String) :
    (clusters.set id cluster).clientOf c =
      if c = id then cluster.usableClient else clusters.clientOf c := by
  unfold clientOf find set
  rw [Keyed.get?_insert]
  by_cases hc : c = id
  · rw [if_pos hc, if_pos hc]
    rfl
  · rw [if_neg hc, if_neg hc]

/-- Who has a client after a removal had it before. -/
theorem clientOf_of_remove {cluster : Cluster} (h : clusters.remove id = .ok (cluster, left))
    (hclient : left.clientOf c = .ok client) : clusters.clientOf c = .ok client := by
  unfold remove at h
  cases hget : clusters.clusters.get? id with
  | none =>
    rw [hget] at h
    cases h
  | some x =>
    rw [hget] at h
    cases h
    unfold clientOf find at hclient ⊢
    by_cases hc : c = id
    · rw [Keyed.get?_erase, if_pos hc] at hclient
      cases hclient
    · rw [Keyed.get?_erase, if_neg hc] at hclient
      exact hclient

/-- Why a cluster has no client. -/
theorem clientOf_error {failure : Failure} (h : clusters.clientOf c = .error failure) :
    failure = .clusterNotFound c ∨ ∃ x, failure = .clientUnavailable x := by
  unfold clientOf find at h
  cases hget : clusters.clusters.get? c with
  | none =>
    rw [hget] at h
    cases h
    exact Or.inl rfl
  | some cluster =>
    rw [hget] at h
    have hnone : cluster.usableClient = .error failure := h
    unfold Cluster.usableClient at hnone
    cases hcl : cluster.client with
    | none =>
      rw [hcl] at hnone
      cases hnone
      exact Or.inr ⟨_, rfl⟩
    | some client =>
      rw [hcl] at hnone
      cases hnone

/-- Who has a client is registered. -/
theorem mem_ids_of_clientOf (h : clusters.clientOf c = .ok client) : c ∈ clusters.ids := by
  refine Keyed.mem_keys_iff.mpr ?_
  unfold clientOf find at h
  cases hget : clusters.clusters.get? c with
  | none =>
    rw [hget] at h
    cases h
  | some cluster => simp [Keyed.contains, hget]

end ClusterRegistry

/-- A target is a cluster and its client. -/
theorem Gateway.targetOf_ok {g : Gateway} {c : String} {target : Target}
    (h : g.targetOf c = .ok target) :
    target.clusterId = c ∧ g.clusters.clientOf c = .ok target.client := by
  unfold Gateway.targetOf at h
  cases hc : g.clusters.clientOf c with
  | error failure =>
    rw [hc] at h
    cases h
  | ok client =>
    rw [hc] at h
    cases h
    exact ⟨rfl, rfl⟩

/-- What has no target has no client. -/
theorem Gateway.targetOf_error {g : Gateway} {c : String} {failure : Failure}
    (h : g.targetOf c = .error failure) : g.clusters.clientOf c = .error failure := by
  unfold Gateway.targetOf at h
  cases hc : g.clusters.clientOf c with
  | error f =>
    rw [hc] at h
    cases h
    rfl
  | ok client =>
    rw [hc] at h
    cases h

end FederatedStorage
