import FederatedStorage.Gateway.Pass
import FederatedStorage.Proofs.Ownership

/-!
# What a pass makes of the inventories

`Gateway.closePass` takes the inventories over, one after the other, and then drops stale owners.
Here is what that leaves of a single record: first what `takenOver` finds, then which of its records
are stale.

## Main statements

* `takenOver_cases`: a record after the taking over is an old one or stands in an inventory.
* `isStale_iff`: which records are stale.
* `record?_leftOwners`: what a lookup finds after a pass that was not cancelled.
-/

namespace FederatedStorage.Gateway

variable {g : Gateway} {opened : OpenPass} {inventories : List Inventory}
  {cancelled preserve : Bool} {id : String} {r : Resource} {o : Ownership}

/-! ## Taking over -/

/-- An inventory reports a resource exactly if it has a record of it. -/
theorem Inventory.reports_iff {i : Inventory} :
    i.reports id = true ↔ ∃ r ∈ i.resources, r.id = id := by
  simp [Inventory.reports]

theorem mem_inventoryOf {c : String} {volumes : List Volume} {snapshots : List Snapshot} :
    r ∈ inventoryOf c volumes snapshots ↔
      (∃ v ∈ volumes, r = ⟨v.id, c, .volume⟩) ∨ ∃ s ∈ snapshots, r = ⟨s.id, c, .snapshot⟩ := by
  simp only [inventoryOf, List.mem_append, List.mem_map, eq_comm]

theorem takenOver_cons (o : Ownership) (i : Inventory) (is : List Inventory) :
    takenOver o (i :: is) = takenOver (o.mapAll i.resources) is := rfl

/-- What a lookup finds once an inventory is taken over is one of its records, or it has none. -/
theorem record?_mapAll_cases (o : Ownership) (rs : List Resource) (id : String) :
    ((∀ r ∈ rs, r.id ≠ id) ∧ (o.mapAll rs).record? id = o.record? id) ∨
      ∃ r ∈ rs, r.id = id ∧ ∀ o' : Ownership, (o'.mapAll rs).record? id = some r := by
  induction rs generalizing o with
  | nil => exact Or.inl ⟨fun _ h => absurd h List.not_mem_nil, rfl⟩
  | cons r rs ih =>
    -- the last record of the resource counts, so the rest of the list comes first
    rcases ih (o.map r) with ⟨hne, hrec⟩ | ⟨q, hq, hid, hall⟩
    · by_cases hr : r.id = id
      · refine Or.inr ⟨r, List.mem_cons_self, hr, fun o' => ?_⟩
        show ((o'.map r).mapAll rs).record? id = some r
        rw [Ownership.record?_mapAll_of_ne hne, Ownership.record?_map, if_pos hr.symm]
      · refine Or.inl ⟨List.forall_mem_cons.mpr ⟨hr, hne⟩, ?_⟩
        show ((o.map r).mapAll rs).record? id = o.record? id
        rw [hrec, Ownership.record?_map, if_neg fun he => hr he.symm]
    · exact Or.inr ⟨q, List.mem_cons_of_mem r hq, hid, fun o' => hall (o'.map r)⟩

/-- **A record after the taking over** is an old one that no inventory reports, or the last record
of an inventory that reports it. -/
theorem takenOver_cases (o : Ownership) (inventories : List Inventory) (id : String) :
    ((∀ i ∈ inventories, i.reports id = false) ∧
        (takenOver o inventories).record? id = o.record? id) ∨
      ∃ i ∈ inventories, i.reports id = true ∧
        ∃ r ∈ i.resources, r.id = id ∧ (takenOver o inventories).record? id = some r ∧
          ∀ o' : Ownership, (o'.mapAll i.resources).record? id = some r := by
  induction inventories generalizing o with
  | nil => exact Or.inl ⟨fun _ h => absurd h List.not_mem_nil, rfl⟩
  | cons i is ih =>
    rw [takenOver_cons]
    -- a later inventory that reports the resource settles it; else this one does, or the old owner
    rcases ih (o.mapAll i.resources) with ⟨hnone, hrec⟩ | ⟨j, hj, hrest⟩
    · rcases record?_mapAll_cases o i.resources id with ⟨hne, hsame⟩ | ⟨r, hr, hid, hall⟩
      · refine Or.inl ⟨List.forall_mem_cons.mpr ⟨?_, hnone⟩, by rw [hrec, hsame]⟩
        refine Bool.eq_false_iff.mpr fun h => ?_
        obtain ⟨q, hq, hqid⟩ := Inventory.reports_iff.mp h
        exact hne q hq hqid
      · exact Or.inr ⟨i, List.mem_cons_self, Inventory.reports_iff.mpr ⟨r, hr, hid⟩, r, hr, hid,
          by rw [hrec, hall], hall⟩
    · exact Or.inr ⟨j, List.mem_cons_of_mem i hj, hrest⟩

/-- A reported resource has an owner once the inventories are taken over. -/
theorem takenOver_of_reports {i : Inventory} (hi : i ∈ inventories) (h : i.reports id = true) :
    ∃ j ∈ inventories, ∃ r ∈ j.resources, r.id = id ∧
      (takenOver o inventories).record? id = some r := by
  rcases takenOver_cases o inventories id with ⟨hnone, -⟩ | ⟨j, hj, -, r, hr, hid, hrec, -⟩
  · exact absurd h (by rw [hnone i hi]; exact Bool.false_ne_true)
  · exact ⟨j, hj, r, hr, hid, hrec⟩

/-! ## Stale records -/

/-- The asking of a cluster failed. -/
def FailedIn (inventories : List Inventory) (clusterId : String) : Prop :=
  ∃ i ∈ inventories, i.clusterId = clusterId ∧ i.hasFailed = true

theorem isReported_iff {clusterId : String} : isReported inventories clusterId id = true ↔
    ∃ i ∈ inventories, i.clusterId = clusterId ∧ i.reports id = true := by
  simp [isReported]

theorem mem_failedClusters {clusterId : String} :
    clusterId ∈ failedClusters inventories ↔ FailedIn inventories clusterId := by
  simp only [failedClusters, FailedIn, List.mem_map, List.mem_filter]
  constructor
  · rintro ⟨i, ⟨hi, hf⟩, hc⟩
    exact ⟨i, hi, hc, hf⟩
  · rintro ⟨i, hi, hc, hf⟩
    exact ⟨i, ⟨hi, hf⟩, hc⟩

/-- **Which records are stale**: those of clusters that nobody manages, and those that had an owner
before and were not reported by a cluster that is not spared. -/
theorem isStale_iff : isStale opened inventories preserve r = true ↔
    r.clusterId ∉ opened.managed ∨
      ¬ (preserve = true ∧ FailedIn inventories r.clusterId) ∧
        isReported inventories r.clusterId r.id = false ∧ r.id ∈ opened.knownBefore := by
  have hspared : (preserve && inventories.any fun i => i.clusterId = r.clusterId && i.hasFailed) =
      true ↔ preserve = true ∧ FailedIn inventories r.clusterId := by
    simp [FailedIn]
  unfold isStale
  -- what remains is propositional in whether the cluster is spared
  rw [← hspared]
  generalize (preserve && inventories.any _) = spared
  by_cases hm : r.clusterId ∈ opened.managed
  · cases spared <;> simp [hm]
  · simp [hm]

/-- A record of a managed cluster is not stale if its resource had no owner before. -/
theorem not_isStale_of_new (hm : r.clusterId ∈ opened.managed)
    (hnew : r.id ∉ opened.knownBefore) : isStale opened inventories preserve r = false := by
  refine Bool.eq_false_iff.mpr fun h => ?_
  rcases isStale_iff.mp h with h | ⟨-, -, h⟩
  · exact h hm
  · exact hnew h

/-- A record of a managed cluster is not stale if the cluster reports it. -/
theorem not_isStale_of_reported (hm : r.clusterId ∈ opened.managed)
    (hr : isReported inventories r.clusterId r.id = true) :
    isStale opened inventories preserve r = false := by
  refine Bool.eq_false_iff.mpr fun h => ?_
  rcases isStale_iff.mp h with h | ⟨-, h, -⟩
  · exact h hm
  · exact absurd hr (by rw [h]; exact Bool.false_ne_true)

/-- A record of a managed cluster is not stale if the cluster is spared. -/
theorem not_isStale_of_spared (hm : r.clusterId ∈ opened.managed) (hp : preserve = true)
    (hf : FailedIn inventories r.clusterId) : isStale opened inventories preserve r = false := by
  refine Bool.eq_false_iff.mpr fun h => ?_
  rcases isStale_iff.mp h with h | ⟨h, -⟩
  · exact h hm
  · exact h ⟨hp, hf⟩

/-! ## Closing a pass -/

/-- Whether a pass drops no owner because it was cancelled. -/
def isInterrupted (inventories : List Inventory) (cancelled : Bool) : Bool :=
  cancelled || inventories.any Inventory.wasCancelled

/-- The owners that a pass leaves. -/
def leftOwners (o : Ownership) (opened : OpenPass) (inventories : List Inventory)
    (cancelled preserve : Bool) : Ownership :=
  let owned := takenOver o inventories
  if isInterrupted inventories cancelled then owned
  else owned.unmapAll (staleRecords opened inventories preserve owned)

/-- **Closing a pass changes only the owners.** -/
theorem closePass_fst : (g.closePass opened inventories cancelled preserve).1 =
    { g with resources := leftOwners g.resources opened inventories cancelled preserve } := by
  unfold closePass leftOwners isInterrupted
  split <;> rfl

theorem closePass_snd : (g.closePass opened inventories cancelled preserve).2 =
    ⟨reportedCount inventories,
      if isInterrupted inventories cancelled then 0
      else .ofNat (staleRecords opened inventories preserve
        (takenOver g.resources inventories)).length,
      failedClusters inventories, isInterrupted inventories cancelled⟩ := by
  unfold closePass isInterrupted
  split
  · next h => simp [h]
  · next h => simp [h]

/-- **What a lookup finds after a pass** that was not cancelled: what the inventories say, unless it
is stale. -/
theorem record?_leftOwners (h : isInterrupted inventories cancelled = false) (id : String) :
    (leftOwners o opened inventories cancelled preserve).record? id =
      ((takenOver o inventories).record? id).filter fun r =>
        !isStale opened inventories preserve r := by
  unfold leftOwners
  rw [h]
  exact Ownership.record?_unmapAll_filter _ _ id

/-- What the taking over finds is left if it is not stale, whether the pass was cancelled or not. -/
theorem leftOwners_of_not_isStale (hr : (takenOver o inventories).record? id = some r)
    (h : isStale opened inventories preserve r = false) :
    (leftOwners o opened inventories cancelled preserve).record? id = some r := by
  cases hi : isInterrupted inventories cancelled with
  | true =>
    unfold leftOwners
    rw [hi]
    exact hr
  | false =>
    rw [record?_leftOwners hi, hr, Option.filter_some, h]
    rfl

/-- What is left of a resource was found by the taking over. -/
theorem takenOver_of_leftOwners
    (h : (leftOwners o opened inventories cancelled preserve).record? id = some r) :
    (takenOver o inventories).record? id = some r := by
  cases hi : isInterrupted inventories cancelled with
  | true =>
    unfold leftOwners at h
    rw [hi] at h
    exact h
  | false =>
    rw [record?_leftOwners hi] at h
    exact (Option.filter_eq_some_iff.mp h).1

/-! ## What a pass drops -/

/-- The resources that lose their owner in a pass. -/
def droppedIds (o : Ownership) (opened : OpenPass) (inventories : List Inventory)
    (cancelled preserve : Bool) : List String :=
  if isInterrupted inventories cancelled then []
  else (staleRecords opened inventories preserve (takenOver o inventories)).map Resource.id

/-- **A pass reports how many resources lose their owner.** -/
theorem closePass_unmapped : (g.closePass opened inventories cancelled preserve).2.unmapped =
    .ofNat (droppedIds g.resources opened inventories cancelled preserve).length := by
  rw [closePass_snd, droppedIds]
  cases isInterrupted inventories cancelled with
  | true => rfl
  | false => simp

/-- A resource loses its owner if the pass is not cancelled and its record is stale. -/
theorem mem_droppedIds : id ∈ droppedIds o opened inventories cancelled preserve ↔
    isInterrupted inventories cancelled = false ∧
      ∃ r, (takenOver o inventories).record? id = some r ∧
        isStale opened inventories preserve r = true := by
  rw [droppedIds]
  cases isInterrupted inventories cancelled with
  | true => simp
  | false =>
    simp only [Bool.false_eq_true, if_false, true_and, List.mem_map]
    constructor
    · rintro ⟨r, hr, rfl⟩
      obtain ⟨hall, hs⟩ := List.mem_filter.mp hr
      exact ⟨r, Ownership.mem_all_iff.mp hall, hs⟩
    · rintro ⟨r, hr, hs⟩
      have hid : r.id = id := Ownership.id_of_record? hr
      exact ⟨r, List.mem_filter.mpr ⟨Ownership.mem_all_iff.mpr (by rw [hid]; exact hr), hs⟩, hid⟩

/-- What does not lose its owner is left as the taking over finds it. -/
theorem leftOwners_of_not_mem_droppedIds (hr : (takenOver o inventories).record? id = some r)
    (h : id ∉ droppedIds o opened inventories cancelled preserve) :
    (leftOwners o opened inventories cancelled preserve).record? id = some r := by
  cases hi : isInterrupted inventories cancelled with
  | true =>
    unfold leftOwners
    rw [hi]
    exact hr
  | false =>
    refine leftOwners_of_not_isStale hr (Bool.eq_false_iff.mpr fun hs => h ?_)
    exact mem_droppedIds.mpr ⟨hi, r, hr, hs⟩

/-- An inventory that is no success was cancelled or has failed. -/
theorem Inventory.not_ok {i : Inventory} {failure : Failure} (h : i.result = .error failure) :
    i.wasCancelled = true ∨ i.hasFailed = true := by
  unfold Inventory.wasCancelled Inventory.hasFailed
  rw [h]
  cases failure <;> simp

/-! ## Resources of one home -/

/-- Whoever owns a resource is its home. -/
def AtHome (home : String → String) (o : Ownership) (id : String) : Prop :=
  ∀ r, o.record? id = some r → r.clusterId = home id

/-- **The taking over leaves a resource at home** if whoever reports it is its home. -/
theorem takenOver_atHome {home : String → String}
    (hhome : ∀ i ∈ inventories, ∀ r ∈ i.resources, r.clusterId = home r.id)
    (h : AtHome home o id) : AtHome home (takenOver o inventories) id := by
  intro r hr
  rcases takenOver_cases o inventories id with ⟨-, hrec⟩ | ⟨i, hi, -, q, hq, hid, hrec, -⟩
  · exact h r (hrec ▸ hr)
  · rw [hrec] at hr
    cases hr
    rw [← hid]
    exact hhome i hi _ hq

/-- What has an owner keeps one in the taking over. -/
theorem takenOver_isSome (inventories : List Inventory) (h : o.record? id = some r) :
    ∃ q, (takenOver o inventories).record? id = some q := by
  rcases takenOver_cases o inventories id with ⟨-, hrec⟩ | ⟨_, _, _, q, _, _, hrec, -⟩
  · exact ⟨r, hrec.trans h⟩
  · exact ⟨q, hrec⟩

/-- A resource that had no owner before is not dropped if a managed cluster is its home. -/
theorem not_mem_droppedIds_of_new {home : String → String}
    (hathome : AtHome home (takenOver o inventories) id) (hm : home id ∈ opened.managed)
    (hnew : id ∉ opened.knownBefore) :
    id ∉ droppedIds o opened inventories cancelled preserve := by
  intro hmem
  obtain ⟨-, r, hr, hs⟩ := mem_droppedIds.mp hmem
  have hid : r.id = id := Ownership.id_of_record? hr
  rw [not_isStale_of_new ((hathome r hr).symm ▸ hm) (hid.symm ▸ hnew)] at hs
  cases hs

/-- **A resource whose home shows it** is not dropped, unless its home has failed to answer and is
not spared. -/
theorem not_mem_droppedIds_of_shown {home : String → String}
    (hathome : AtHome home (takenOver o inventories) id) (hm : home id ∈ opened.managed)
    {i : Inventory} (hi : i ∈ inventories) (hc : i.clusterId = home id)
    (hshown : (∃ failure, i.result = .error failure) ∨ i.reports id = true)
    (hspared : home id ∉ failedClusters inventories ∨ preserve = true) :
    id ∉ droppedIds o opened inventories cancelled preserve := by
  intro hmem
  obtain ⟨hnot, r, hr, hs⟩ := mem_droppedIds.mp hmem
  have hrc : r.clusterId = home id := hathome r hr
  have hrm : r.clusterId ∈ opened.managed := hrc.symm ▸ hm
  rcases hshown with ⟨failure, hf⟩ | hrep
  · rcases Inventory.not_ok hf with hcancel | hfailed
    · -- a cancelled asking interrupts the pass, which then drops nothing
      have hany : inventories.any Inventory.wasCancelled = true :=
        List.any_eq_true.mpr ⟨i, hi, hcancel⟩
      rw [isInterrupted, hany, Bool.or_true] at hnot
      cases hnot
    · have hin : FailedIn inventories r.clusterId := ⟨i, hi, hc.trans hrc.symm, hfailed⟩
      have hp : preserve = true :=
        hspared.resolve_left fun hn => hn (mem_failedClusters.mpr (hrc ▸ hin))
      rw [not_isStale_of_spared hrm hp hin] at hs
      cases hs
  · have hid : r.id = id := Ownership.id_of_record? hr
    have hreported : isReported inventories r.clusterId r.id = true :=
      isReported_iff.mpr ⟨i, hi, hc.trans hrc.symm, hid.symm ▸ hrep⟩
    rw [not_isStale_of_reported hrm hreported] at hs
    cases hs

end FederatedStorage.Gateway
