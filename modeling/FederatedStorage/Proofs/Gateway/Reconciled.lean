import FederatedStorage.Proofs.Gateway.Pass
import Mathlib.Algebra.GroupWithZero.Nat

/-!
# Owners in line with the clusters' answers

What the resources' part of a pass is for, in terms of what the managed clusters answered and
without its bookkeeping: `Reconciled`. A listed resource is owned by a cluster that lists it; one
that nobody lists has lost its owner, unless its owner did not answer and such clusters are spared.

## Main statement

* `reconciled_closePass`: closing a pass brings the owners in line with the answers, in whatever
  order these are taken over.
-/

namespace FederatedStorage.Gateway

/-- What a cluster answers to both listings. -/
abbrev Answer := Except Failure (List Volume × List Snapshot)

/-- The inventory that a pass makes of a cluster's answer. -/
def answered (answers : String → Answer) (clusterId : String) : Inventory :=
  ⟨clusterId, (answers clusterId).map fun l => inventoryOf clusterId l.1 l.2⟩

/-- A cluster has answered, and lists a resource. -/
def Lists (answers : String → Answer) (clusterId id : String) : Prop :=
  ∃ volumes snapshots, answers clusterId = .ok (volumes, snapshots) ∧
    (id ∈ volumes.map Volume.id ∨ id ∈ snapshots.map Snapshot.id)

/-- A cluster has failed to answer. -/
def Fails (answers : String → Answer) (clusterId : String) : Prop :=
  ∃ failure, answers clusterId = .error failure

/-- The asking of a cluster was cancelled. -/
def Cancels (answers : String → Answer) (clusterId : String) : Prop :=
  ∃ operation, answers clusterId = .error (.cancelled operation)

/-- The kind under which a cluster lists a resource: what it has among its snapshots is one. -/
def listedKind (answers : String → Answer) (clusterId id : String) : ResourceKind :=
  match answers clusterId with
  | .ok (_, snapshots) => if id ∈ snapshots.map Snapshot.id then .snapshot else .volume
  | .error _ => .volume

/-- The number of resources in an answer. -/
def listedCount (answers : String → Answer) (clusterId : String) : Nat :=
  match answers clusterId with
  | .ok (volumes, snapshots) => volumes.length + snapshots.length
  | .error _ => 0

/-- **The owners are in line with the answers** of the managed clusters. -/
structure Reconciled (before : Ownership) (managed : List String) (answers : String → Answer)
    (preserve : Bool) (after : Ownership) (report : ResourceSyncReport) : Prop where
  /-- A listed resource is owned by a cluster that lists it, as what it is listed. -/
  listed : ∀ id, (∃ c ∈ managed, Lists answers c id) →
    ∃ c ∈ managed, Lists answers c id ∧
      after.record? id = some ⟨id, c, listedKind answers c id⟩
  /-- Another resource has its old owner if that failed to answer and is spared, and else none. -/
  unlisted : ∀ id, (∀ c ∈ managed, ¬ Lists answers c id) → ∀ r,
    after.record? id = some r ↔
      before.record? id = some r ∧ preserve = true ∧ r.clusterId ∈ managed ∧
        Fails answers r.clusterId
  /-- Exactly the resources that lost their owner are counted. -/
  unmapped : report.unmapped = .ofNat (before.ids.filter fun id => !after.contains id).length
  mapped : report.mapped = .ofNat (managed.map (listedCount answers)).sum
  failures : ∀ c, c ∈ report.fetchFailures ↔ c ∈ managed ∧ Fails answers c
  notCancelled : report.cancelled = false

variable {answers : String → Answer} {o : Ownership} {c id : String} {order : List String}

/-! ## Inventories of answers -/

/-- **What a lookup finds once an inventory is taken over.** -/
theorem record?_mapAll_inventoryOf (o : Ownership) (clusterId : String) (volumes : List Volume)
    (snapshots : List Snapshot) (id : String) :
    (o.mapAll (inventoryOf clusterId volumes snapshots)).record? id =
      if id ∈ snapshots.map Snapshot.id then some ⟨id, clusterId, .snapshot⟩
      else if id ∈ volumes.map Volume.id then some ⟨id, clusterId, .volume⟩
      else o.record? id := by
  have hvolumes : volumes.map (fun v => (⟨v.id, clusterId, .volume⟩ : Resource)) =
      (volumes.map Volume.id).map fun x => ⟨x, clusterId, .volume⟩ := by simp
  have hsnapshots : snapshots.map (fun s => (⟨s.id, clusterId, .snapshot⟩ : Resource)) =
      (snapshots.map Snapshot.id).map fun x => ⟨x, clusterId, .snapshot⟩ := by simp
  rw [inventoryOf, Ownership.mapAll_append, hvolumes, hsnapshots, Ownership.record?_mapAll_kind,
    Ownership.record?_mapAll_kind]

theorem exists_mem_inventoryOf {clusterId : String} {volumes : List Volume}
    {snapshots : List Snapshot} :
    (∃ r ∈ inventoryOf clusterId volumes snapshots, r.id = id) ↔
      id ∈ volumes.map Volume.id ∨ id ∈ snapshots.map Snapshot.id := by
  simp only [inventoryOf, List.mem_append, List.mem_map]
  constructor
  · rintro ⟨r, ⟨v, hv, rfl⟩ | ⟨s, hs, rfl⟩, rfl⟩
    · exact Or.inl ⟨v, hv, rfl⟩
    · exact Or.inr ⟨s, hs, rfl⟩
  · rintro (⟨v, hv, rfl⟩ | ⟨s, hs, rfl⟩)
    · exact ⟨_, Or.inl ⟨v, hv, rfl⟩, rfl⟩
    · exact ⟨_, Or.inr ⟨s, hs, rfl⟩, rfl⟩

/-- An inventory reports what its cluster lists. -/
theorem reports_answered : (answered answers c).reports id = true ↔ Lists answers c id := by
  rw [Inventory.reports_iff]
  cases h : answers c with
  | error e => simp [answered, Inventory.resources, Lists, h, Except.map]
  | ok l =>
    obtain ⟨volumes, snapshots⟩ := l
    have hres : (answered answers c).resources = inventoryOf c volumes snapshots := by
      simp [answered, Inventory.resources, h, Except.map]
    rw [hres, exists_mem_inventoryOf]
    constructor
    · exact fun hid => ⟨volumes, snapshots, h, hid⟩
    · rintro ⟨vs, ss, ha, hid⟩
      rw [h] at ha
      cases ha
      exact hid

/-- The record of a listed resource, once the inventory is taken over. -/
theorem record?_mapAll_answered (h : Lists answers c id) (o : Ownership) :
    (o.mapAll (answered answers c).resources).record? id =
      some ⟨id, c, listedKind answers c id⟩ := by
  obtain ⟨volumes, snapshots, ha, hid⟩ := h
  have hres : (answered answers c).resources = inventoryOf c volumes snapshots := by
    simp [answered, Inventory.resources, ha, Except.map]
  rw [hres, record?_mapAll_inventoryOf]
  by_cases hs : id ∈ snapshots.map Snapshot.id
  · rw [if_pos hs]
    simp [listedKind, ha, hs]
  · rw [if_neg hs, if_pos (hid.resolve_right hs)]
    simp only [listedKind, ha, if_neg hs]

theorem hasFailed_answered (hc : ¬ Cancels answers c) :
    (answered answers c).hasFailed = true ↔ Fails answers c := by
  unfold Inventory.hasFailed answered Fails
  cases h : answers c with
  | ok l => simp [Except.map]
  | error e =>
    cases e with
    | cancelled operation => exact absurd ⟨operation, h⟩ hc
    | _ => simp [Except.map]

theorem wasCancelled_answered : (answered answers c).wasCancelled = true ↔ Cancels answers c := by
  unfold Inventory.wasCancelled answered Cancels
  cases h : answers c with
  | ok l => simp [Except.map]
  | error e => cases e <;> simp [Except.map]

theorem length_answered : (answered answers c).resources.length = listedCount answers c := by
  cases h : answers c with
  | ok l => simp [answered, Inventory.resources, listedCount, inventoryOf, h, Except.map]
  | error e => simp [answered, Inventory.resources, listedCount, h, Except.map]

/-! ## Inventories of all clusters -/

theorem isReported_answered :
    isReported (order.map (answered answers)) c id = true ↔ c ∈ order ∧ Lists answers c id := by
  rw [isReported_iff]
  constructor
  · rintro ⟨i, hi, hc, hr⟩
    obtain ⟨x, hx, rfl⟩ := List.mem_map.mp hi
    have hxc : x = c := hc
    subst hxc
    exact ⟨hx, reports_answered.mp hr⟩
  · rintro ⟨hc, hl⟩
    exact ⟨_, List.mem_map.mpr ⟨c, hc, rfl⟩, rfl, reports_answered.mpr hl⟩

theorem failedIn_answered (hcancel : ∀ c ∈ order, ¬ Cancels answers c) :
    FailedIn (order.map (answered answers)) c ↔ c ∈ order ∧ Fails answers c := by
  constructor
  · rintro ⟨i, hi, hc, hf⟩
    obtain ⟨x, hx, rfl⟩ := List.mem_map.mp hi
    have hxc : x = c := hc
    subst hxc
    exact ⟨hx, (hasFailed_answered (hcancel x hx)).mp hf⟩
  · rintro ⟨hc, hf⟩
    exact ⟨_, List.mem_map.mpr ⟨c, hc, rfl⟩, rfl, (hasFailed_answered (hcancel c hc)).mpr hf⟩

/-- Nothing is interrupted exactly if nobody's asking was cancelled. -/
theorem isInterrupted_answered : isInterrupted (order.map (answered answers)) false = false ↔
    ∀ c ∈ order, ¬ Cancels answers c := by
  rw [isInterrupted, Bool.false_or, List.any_eq_false]
  simp only [List.forall_mem_map, wasCancelled_answered]

theorem reportedCount_answered (order : List String) (answers : String → Answer) :
    reportedCount (order.map (answered answers)) =
      .ofNat (order.map (listedCount answers)).sum := by
  -- the pass counts in machine words; wrapping once at the end is the same
  have hfold : ∀ (xs : List String) (n : Nat),
      (xs.map (answered answers)).foldl (fun n i => n + UInt64.ofNat i.resources.length)
        (UInt64.ofNat n) = .ofNat (n + (xs.map (listedCount answers)).sum) := by
    intro xs
    induction xs with
    | nil => intro n; simp
    | cons x xs ih =>
      intro n
      rw [List.map_cons, List.foldl_cons, length_answered, ← UInt64.ofNat_add, ih]
      simp [Nat.add_assoc]
  have h := hfold order 0
  rw [Nat.zero_add] at h
  exact h

/-- **What the taking over of all answers finds**: the record of a cluster that lists the resource,
or the old one if nobody does. -/
theorem takenOver_answered (o : Ownership) (order : List String) (id : String) :
    ((∀ c ∈ order, ¬ Lists answers c id) ∧
        (takenOver o (order.map (answered answers))).record? id = o.record? id) ∨
      ∃ c ∈ order, Lists answers c id ∧
        (takenOver o (order.map (answered answers))).record? id =
          some ⟨id, c, listedKind answers c id⟩ := by
  rcases takenOver_cases o (order.map (answered answers)) id with
    ⟨hnone, hrec⟩ | ⟨i, hi, hrep, r, -, -, hrec, hall⟩
  · refine Or.inl ⟨fun c hc hl => ?_, hrec⟩
    have := hnone _ (List.mem_map.mpr ⟨c, hc, rfl⟩)
    exact absurd (reports_answered.mpr hl) (by rw [this]; exact Bool.false_ne_true)
  · obtain ⟨c, hc, rfl⟩ := List.mem_map.mp hi
    have hl := reports_answered.mp hrep
    refine Or.inr ⟨c, hc, hl, ?_⟩
    rw [hrec, ← hall o, record?_mapAll_answered hl]

/-! ## Closing a pass -/

variable {g : Gateway} {preserve : Bool}

/-- A record of a listed resource is not stale. -/
theorem not_isStale_listed (hperm : order.Perm g.clusters.ids) (hc : c ∈ order)
    (hl : Lists answers c id) :
    isStale g.openPass (order.map (answered answers)) preserve ⟨id, c, listedKind answers c id⟩ =
      false :=
  not_isStale_of_reported (hperm.mem_iff.mp hc) (isReported_answered.mpr ⟨hc, hl⟩)

/-- What nobody lists is left if its owner failed to answer and is spared. -/
theorem unlisted_closePass (hperm : order.Perm g.clusters.ids)
    (hcancel : ∀ c ∈ order, ¬ Cancels answers c) (hun : ∀ c ∈ order, ¬ Lists answers c id)
    (r : Resource) :
    (leftOwners g.resources g.openPass (order.map (answered answers)) false preserve).record? id =
        some r ↔
      g.resources.record? id = some r ∧ preserve = true ∧ r.clusterId ∈ g.clusters.ids ∧
        Fails answers r.clusterId := by
  have htaken : (takenOver g.resources (order.map (answered answers))).record? id =
      g.resources.record? id := by
    rcases takenOver_answered g.resources order id with ⟨-, h⟩ | ⟨c, hc, hl, -⟩
    · exact h
    · exact absurd hl (hun c hc)
  rw [record?_leftOwners (isInterrupted_answered.mpr hcancel), htaken, Option.filter_eq_some_iff]
  refine and_congr_right fun hr => ?_
  have hid : r.id = id := Ownership.id_of_record? hr
  have hknown : r.id ∈ g.openPass.knownBefore :=
    Ownership.mem_ids_iff.mpr ⟨r, by rw [hid]; exact hr⟩
  have hreported : isReported (order.map (answered answers)) r.clusterId r.id = false := by
    refine Bool.eq_false_iff.mpr fun h => ?_
    obtain ⟨hc, hl⟩ := isReported_answered.mp h
    exact hun _ hc (hid ▸ hl)
  -- nobody reports it and it had an owner: only being spared keeps it
  rw [Bool.not_eq_true', ← Bool.not_eq_true, isStale_iff, not_or, failedIn_answered hcancel,
    hperm.mem_iff]
  show ¬ r.clusterId ∉ g.clusters.ids ∧ _ ↔ _
  constructor
  · rintro ⟨hm, hs⟩
    by_cases hp : preserve = true ∧ r.clusterId ∈ g.clusters.ids ∧ Fails answers r.clusterId
    · exact hp
    · exact absurd ⟨hp, hreported, hknown⟩ hs
  · rintro ⟨hp, hm, hf⟩
    exact ⟨fun h => h hm, fun h => h.1 ⟨hp, hm, hf⟩⟩

/-- What somebody lists is left with a cluster that lists it. -/
theorem listed_closePass (hperm : order.Perm g.clusters.ids)
    (hl : ∃ c ∈ g.clusters.ids, Lists answers c id) :
    ∃ c ∈ g.clusters.ids, Lists answers c id ∧
      (leftOwners g.resources g.openPass (order.map (answered answers)) false preserve).record? id =
        some ⟨id, c, listedKind answers c id⟩ := by
  rcases takenOver_answered g.resources order id with ⟨hnone, -⟩ | ⟨c, hc, hlc, hrec⟩
  · obtain ⟨c, hc, hlc⟩ := hl
    exact absurd hlc (hnone c (hperm.mem_iff.mpr hc))
  · exact ⟨c, hperm.mem_iff.mp hc, hlc,
      leftOwners_of_not_isStale hrec (not_isStale_listed hperm hc hlc)⟩

/-- The stale records are those of the resources that lose their owner. -/
theorem length_staleRecords (hperm : order.Perm g.clusters.ids)
    (hcancel : ∀ c ∈ order, ¬ Cancels answers c) :
    (staleRecords g.openPass (order.map (answered answers)) preserve
        (takenOver g.resources (order.map (answered answers)))).length =
      (g.resources.ids.filter fun id => !(leftOwners g.resources g.openPass
        (order.map (answered answers)) false preserve).contains id).length := by
  -- records are counted on one side and IDs on the other, and IDs do not repeat
  have hnodup := g.resources.records.keys_nodup.sublist
    (List.filter_sublist (p := fun id => !(leftOwners g.resources g.openPass
      (order.map (answered answers)) false preserve).contains id))
  refine Ownership.length_filter_all _ _ hnodup fun id => ?_
  rw [List.mem_filter, Bool.not_eq_true', ← Bool.not_eq_true, Ownership.contains_iff,
    record?_leftOwners (isInterrupted_answered.mpr hcancel), Ownership.mem_ids_iff]
  rcases takenOver_answered g.resources order id with ⟨hun, hrec⟩ | ⟨c, hc, hl, hrec⟩
  · -- nobody lists it: what is left of the old record is what is not stale
    rw [hrec]
    cases hr : g.resources.record? id with
    | none => simp
    | some r => simp [Option.filter_some]
  · -- somebody lists it: then its new record is not stale
    rw [hrec]
    simp [Option.filter_some, not_isStale_listed hperm hc hl]

/-- **Closing a pass brings the owners in line with the answers**, in whatever order these are taken
over. -/
theorem reconciled_closePass (hperm : order.Perm g.clusters.ids)
    (hcancel : ∀ c ∈ order, ¬ Cancels answers c) :
    Reconciled g.resources g.clusters.ids answers preserve
      (g.closePass g.openPass (order.map (answered answers)) false preserve).1.resources
      (g.closePass g.openPass (order.map (answered answers)) false preserve).2 := by
  have hnot := isInterrupted_answered.mpr hcancel
  rw [closePass_fst, closePass_snd, hnot]
  refine ⟨fun id hl => listed_closePass hperm hl, fun id hun r => ?_, ?_, ?_, fun c => ?_, rfl⟩
  · exact unlisted_closePass hperm hcancel (fun c hc => hun c (hperm.mem_iff.mp hc)) r
  · exact congrArg UInt64.ofNat (length_staleRecords hperm hcancel)
  · rw [reportedCount_answered, (hperm.map (listedCount answers)).sum_nat]
  · show c ∈ failedClusters _ ↔ _
    rw [mem_failedClusters, failedIn_answered hcancel, hperm.mem_iff]

end FederatedStorage.Gateway
