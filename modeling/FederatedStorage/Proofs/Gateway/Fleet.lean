import FederatedStorage.Proofs.Backend.Loopback
import FederatedStorage.Proofs.Cluster.Registry
import FederatedStorage.Proofs.Gateway.Pass

/-!
# Clusters and the arrays that are kept for them

The built-in vendors keep one loopback array for each cluster ID, which outlives the cluster's
registration. In a fleet every client is the handle on the array that is kept for its cluster, and
the kept arrays are tidy. So an ID tells which cluster can hold the resource, and nothing is held
twice.

The owners are in line with a fleet if they are exactly what its arrays hold.

## Main statements

* `Fleet.unique`: no ID is held twice.
* `Fleet.syncClusters`: the clusters of a configuration are a fleet again.
* `InLine.change`: a call keeps the owners in line.
* `inLine_leftOwners`: a pass brings the owners in line.
-/

namespace FederatedStorage

open Time

/-! ## Arrays on the shelf -/

namespace Shelf

variable {shelf : Shelf} {client x : Client} {a b : Loopback}

theorem loopback?_eq_some : shelf.loopback? client = some a ↔
    shelf.get? client = some (.loopback a) := by
  unfold loopback?
  cases shelf.get? client with
  | none => simp
  | some backend => cases backend <;> simp

/-- The arrays after a loopback array is replaced. -/
theorem loopback?_set (h : shelf.loopback? client = some a) (b : Loopback) (x : Client) :
    (shelf.set client (.loopback b)).loopback? x =
      if x = client then some b else shelf.loopback? x := by
  have hlt : client.place < shelf.backends.length :=
    (List.getElem?_eq_some_iff.mp (loopback?_eq_some.mp h)).1
  unfold loopback? get? set
  by_cases hx : x = client
  · simp [hx, hlt]
  · have hplace : client.place ≠ x.place := by
      intro he
      cases client
      cases x
      exact hx (congrArg Client.mk he.symm)
    simp [hx, List.getElem?_set_ne hplace]

/-- Other arrays are still there after one is put on the shelf. -/
theorem loopback?_add (h : shelf.loopback? client = some a) (backend : Backend) :
    (shelf.add backend).2.loopback? client = some a := by
  have hget := loopback?_eq_some.mp h
  have hlt : client.place < shelf.backends.length := (List.getElem?_eq_some_iff.mp hget).1
  refine loopback?_eq_some.mpr ?_
  show (shelf.backends ++ [backend])[client.place]? = some (.loopback a)
  rw [List.getElem?_append_left hlt]
  exact hget

end Shelf

/-! ## Fleets -/

/-- **A fleet**: every client is the handle on the array that is kept for its cluster, and each kept
array is tidy and named like its cluster. -/
structure Fleet (clusters : ClusterRegistry) (shelf : Shelf) : Prop where
  ofClient : ∀ c client, clusters.clientOf c = .ok client → shelf.kept.get? c = some client
  ofKept : ∀ c client, shelf.kept.get? c = some client →
    ∃ a, shelf.loopback? client = some a ∧ a.stem = c ∧ a.Tidy

/-- **What the registered clusters hold**: a cluster with a client holds what its array holds. -/
def Held (clusters : ClusterRegistry) (shelf : Shelf) (r : Resource) : Prop :=
  ∃ client a, clusters.clientOf r.clusterId = .ok client ∧ shelf.loopback? client = some a ∧
    a.holds r.kind r.id = true

/-- **The owners are exactly what the registered clusters hold.** -/
def InLine (owners : Ownership) (clusters : ClusterRegistry) (shelf : Shelf) : Prop :=
  ∀ r, owners.record? r.id = some r ↔ Held clusters shelf r

variable {clusters : ClusterRegistry} {shelf : Shelf} {c : String} {client : Client}
  {a next : Loopback} {r q : Resource} {owners : Ownership} {now : Timestamp}
  {created deleted : Option (ResourceKind × String)}

/-- A cluster with a client holds what its array holds. -/
theorem held_iff (hclient : clusters.clientOf r.clusterId = .ok client)
    (ha : shelf.loopback? client = some a) :
    Held clusters shelf r ↔ a.holds r.kind r.id = true := by
  constructor
  · rintro ⟨x, b, hx, hb, hholds⟩
    obtain rfl : x = client := Except.ok.inj (hx.symm.trans hclient)
    obtain rfl : b = a := Option.some.inj (hb.symm.trans ha)
    exact hholds
  · exact fun hholds => ⟨client, a, hclient, ha, hholds⟩

/-- A fresh gateway has a fleet, of which nothing is owned. -/
theorem fleet_empty : Fleet .empty .empty ∧ InLine .empty .empty .empty := by
  refine ⟨⟨fun c client h => ?_, fun c client h => ?_⟩, fun r => ⟨fun h => ?_, fun h => ?_⟩⟩
  · cases h
  · cases h
  · cases h
  · obtain ⟨client, a, hclient, -⟩ := h
    cases hclient

namespace Fleet

/-- The array of a cluster with a client. -/
theorem array (h : Fleet clusters shelf) (hclient : clusters.clientOf c = .ok client) :
    ∃ a, shelf.loopback? client = some a ∧ a.stem = c ∧ a.Tidy :=
  h.ofKept c client (h.ofClient c client hclient)

/-- Two clusters have two arrays. -/
theorem clientOf_inj (h : Fleet clusters shelf) {d : String} (hc : clusters.clientOf c = .ok client)
    (hd : clusters.clientOf d = .ok client) : c = d := by
  obtain ⟨a, ha, hac, -⟩ := h.array hc
  obtain ⟨b, hb, hbd, -⟩ := h.array hd
  rw [ha] at hb
  cases hb
  exact hac.symm.trans hbd

/-- **No ID is held twice.** -/
theorem unique (h : Fleet clusters shelf) (hr : Held clusters shelf r) (hq : Held clusters shelf q)
    (hid : r.id = q.id) : r = q := by
  obtain ⟨x, a, hx, ha, hra⟩ := hr
  obtain ⟨y, b, hy, hb, hqb⟩ := hq
  obtain ⟨a', ha', has, hatidy⟩ := h.array hx
  obtain ⟨b', hb', hbs, hbtidy⟩ := h.array hy
  obtain rfl : a' = a := Option.some.inj (ha'.symm.trans ha)
  obtain rfl : b' = b := Option.some.inj (hb'.symm.trans hb)
  -- the ID tells the stem, which is the cluster, and the kind
  obtain ⟨m, hm⟩ := hatidy.named _ _ hra
  obtain ⟨n, hn⟩ := hbtidy.named _ _ hqb
  rw [hm, hn] at hid
  obtain ⟨hstem, hkind⟩ := Loopback.resourceId_inj hid
  have hcluster : r.clusterId = q.clusterId := has.symm.trans (hstem.trans hbs)
  have hsame : r.id = q.id := by rw [hm, hn, hid]
  cases r
  cases q
  cases hcluster
  cases hkind
  cases hsame
  rfl

/-! ## Calls -/

/-- **A call keeps a fleet.** -/
theorem change (h : Fleet clusters shelf) (hclient : clusters.clientOf c = .ok client)
    (ha : shelf.loopback? client = some a) (hchange : a.Change next created deleted) :
    Fleet clusters (shelf.set client (.loopback next)) := by
  refine ⟨h.ofClient, fun d x hx => ?_⟩
  obtain ⟨b, hb, hbd, htidy⟩ := h.ofKept d x hx
  rw [Shelf.loopback?_set ha]
  -- the array that has changed is still tidy, and the others have not changed
  by_cases he : x = client
  · subst he
    obtain rfl : a = b := Option.some.inj (ha.symm.trans hb)
    rw [if_pos rfl]
    exact ⟨next, rfl, hchange.stem.trans hbd, htidy.change hchange⟩
  · rw [if_neg he]
    exact ⟨b, hb, hbd, htidy⟩

/-- **What is held after a call**: what it created, and what was held and not deleted. -/
theorem held_change (h : Fleet clusters shelf) (hclient : clusters.clientOf c = .ok client)
    (ha : shelf.loopback? client = some a) (hchange : a.Change next created deleted) :
    Held clusters (shelf.set client (.loopback next)) r ↔
      r.clusterId = c ∧ created = some (r.kind, r.id) ∨
        Held clusters shelf r ∧ ¬ (r.clusterId = c ∧ deleted = some (r.kind, r.id)) := by
  unfold Held
  constructor
  · rintro ⟨x, b, hx, hb, hholds⟩
    rw [Shelf.loopback?_set ha] at hb
    by_cases he : x = client
    · subst he
      rw [if_pos rfl] at hb
      cases hb
      have hrc : r.clusterId = c := h.clientOf_inj hx hclient
      rcases (hchange.holds_iff _ _).mp hholds with hcreated | ⟨hold, hnot⟩
      · exact Or.inl ⟨hrc, hcreated⟩
      · exact Or.inr ⟨⟨x, a, hx, ha, hold⟩, fun hd => hnot hd.2⟩
    · rw [if_neg he] at hb
      refine Or.inr ⟨⟨x, b, hx, hb, hholds⟩, fun hd => he ?_⟩
      rw [hd.1, hclient] at hx
      cases hx
      rfl
  · rintro (⟨hrc, hcreated⟩ | ⟨⟨x, b, hx, hb, hholds⟩, hnot⟩)
    · refine ⟨client, next, hrc ▸ hclient, ?_, (hchange.holds_iff _ _).mpr (Or.inl hcreated)⟩
      rw [Shelf.loopback?_set ha, if_pos rfl]
    · by_cases he : x = client
      · subst he
        have hrc : r.clusterId = c := h.clientOf_inj hx hclient
        obtain rfl : a = b := Option.some.inj (ha.symm.trans hb)
        refine ⟨x, next, hx, ?_, (hchange.holds_iff _ _).mpr (Or.inr ⟨hholds, fun hd => ?_⟩)⟩
        · rw [Shelf.loopback?_set ha, if_pos rfl]
        · exact hnot ⟨hrc, hd⟩
      · refine ⟨x, b, hx, ?_, hholds⟩
        rw [Shelf.loopback?_set ha, if_neg he]
        exact hb

end Fleet

/-- The owners after a call that a cluster has answered. -/
def settledOwners (clusterId : String) (created deleted : Option (ResourceKind × String))
    (owners : Ownership) : Ownership :=
  match created, deleted with
  | some (kind, id), _ => owners.map ⟨id, clusterId, kind⟩
  | none, some (_, id) => owners.unmap id
  | none, none => owners

/-- **Concluding a call** that has succeeded settles the owners. -/
theorem Gateway.conclude_ok (g : Gateway) (clusterId : String) (call : Call)
    (answer : call.Answer) :
    (g.conclude clusterId call (.ok answer)).1.clusters = g.clusters ∧
      (g.conclude clusterId call (.ok answer)).1.resources =
        settledOwners clusterId (call.created answer) call.deleted g.resources := by
  cases call <;> exact ⟨rfl, rfl⟩

/-- **A call keeps the owners in line** with a fleet. -/
theorem InLine.change (hf : Fleet clusters shelf) (h : InLine owners clusters shelf)
    (hclient : clusters.clientOf c = .ok client) (ha : shelf.loopback? client = some a)
    (hchange : a.Change next created deleted) :
    InLine (settledOwners c created deleted owners) clusters
      (shelf.set client (.loopback next)) := by
  intro r
  have hheld := fun q : Resource => hf.held_change (r := q) hclient ha hchange
  cases created with
  | some e =>
    obtain ⟨kind, id⟩ := e
    have hnone : deleted = none := by cases hchange <;> rfl
    subst hnone
    have hq : Held clusters (shelf.set client (.loopback next)) ⟨id, c, kind⟩ :=
      (hheld _).mpr (Or.inl ⟨rfl, rfl⟩)
    show (owners.map ⟨id, c, kind⟩).record? r.id = some r ↔ _
    rw [Ownership.record?_map]
    by_cases hid : r.id = id
    · -- the created resource is the only one that is held under its ID
      rw [if_pos hid]
      constructor
      · rintro ⟨⟩
        exact hq
      · intro hr
        rw [(hf.change hclient ha hchange).unique hr hq hid]
    · rw [if_neg hid, h r, hheld r]
      constructor
      · exact fun hr => Or.inr ⟨hr, fun hd => by cases hd.2⟩
      · rintro (⟨-, hcreated⟩ | ⟨hr, -⟩)
        · cases hcreated
          exact absurd rfl hid
        · exact hr
  | none =>
    cases deleted with
    | some e =>
      obtain ⟨kind, id⟩ := e
      show (owners.unmap id).record? r.id = some r ↔ _
      rw [Ownership.record?_unmap, hheld r]
      by_cases hid : r.id = id
      · -- nothing but the deleted resource was held under its ID
        rw [if_pos hid]
        refine ⟨fun hr => absurd hr (by simp), ?_⟩
        rintro (⟨-, hcreated⟩ | ⟨hr, hnot⟩)
        · cases hcreated
        · have hq : Held clusters shelf ⟨id, c, kind⟩ := ⟨client, a, hclient, ha, hchange.held⟩
          have hrq := hf.unique hr hq hid
          exact absurd ⟨by rw [hrq], by rw [hrq]⟩ hnot
      · rw [if_neg hid, h r]
        constructor
        · refine fun hr => Or.inr ⟨hr, fun hd => ?_⟩
          cases hd.2
          exact hid rfl
        · rintro (⟨-, hcreated⟩ | ⟨hr, -⟩)
          · cases hcreated
          · exact hr
    | none =>
      show owners.record? r.id = some r ↔ _
      rw [h r, hheld r]
      constructor
      · exact fun hr => Or.inr ⟨hr, fun hd => by cases hd.2⟩
      · rintro (⟨-, hcreated⟩ | ⟨hr, -⟩)
        · cases hcreated
        · exact hr

/-- Recording what is held anyway keeps the owners in line. -/
theorem InLine.own_held (h : InLine owners clusters shelf) (hr : Held clusters shelf r) :
    InLine (owners.map r) clusters shelf := by
  intro q
  rw [Ownership.record?_map]
  by_cases hid : q.id = r.id
  · have hsame : owners.record? q.id = some r := hid ▸ (h r).mpr hr
    rw [if_pos hid, ← hsame]
    exact h q
  · rw [if_neg hid]
    exact h q

/-- Recording what nobody holds, and dropping it, keeps the owners in line. -/
theorem InLine.own_disown (h : InLine owners clusters shelf)
    (hnone : ∀ q, Held clusters shelf q → q.id ≠ r.id) :
    InLine ((owners.map r).unmap r.id) clusters shelf := by
  intro q
  rw [Ownership.record?_unmap, Ownership.record?_map]
  by_cases hid : q.id = r.id
  · rw [if_pos hid]
    exact ⟨fun hq => absurd hq (by simp), fun hq => absurd hid (hnone q hq)⟩
  · rw [if_neg hid, if_neg hid]
    exact h q

/-! ## Configurations -/

/-- **A plain descriptor** is of the loopback vendor and names no stem, or of a vendor that nobody
knows. -/
def ClusterDescriptor.IsPlain (d : ClusterDescriptor) : Prop :=
  (lowerName d.vendor = loopbackVendor ∧
      ∀ config, d.loopbackConfig = .ok config → config.idStem = none) ∨
    Factory.standard.constructors.get? (lowerName d.vendor) = none

/-- What the built-in constructors are. -/
theorem standard_loopback :
    Factory.standard.constructors.get? loopbackVendor = some makeLoopback := by
  have hname : lowerName loopbackVendor = loopbackVendor := by decide +kernel
  have hother : loopbackVendor ≠ lowerName remoteVendor := by decide +kernel
  simp only [Factory.standard, Factory.register, Keyed.get?_insert]
  rw [if_neg hother, if_pos hname.symm]

namespace Fleet

variable {d : ClusterDescriptor} {left : Shelf}

/-- **The client of a plain descriptor** is the handle on the array kept for its cluster. -/
theorem create (h : Fleet clusters shelf) (hd : d.IsPlain)
    (hcreate : Factory.standard.create d shelf = .ok (client, left)) :
    Fleet clusters left ∧ left.kept.get? d.clusterId = some client := by
  unfold Factory.create at hcreate
  rcases hd with ⟨hvendor, hconfig⟩ | hunknown
  · rw [hvendor, standard_loopback] at hcreate
    have hmake : makeLoopback d shelf = .ok (client, left) := hcreate
    unfold makeLoopback at hmake
    cases hkept : shelf.kept.get? d.clusterId with
    | some x =>
      rw [hkept] at hmake
      cases hmake
      exact ⟨h, hkept⟩
    | none =>
      -- no array is kept for the cluster, so it had no client, and a new array is put up for it
      rw [hkept] at hmake
      obtain ⟨config, hc, hmake⟩ := bind_eq_ok hmake
      cases hmake
      have hstem : (Loopback.new d.clusterId config).stem = d.clusterId := by
        simp [Loopback.new, hconfig config hc]
      refine ⟨⟨fun x y hx => ?_, fun x y hy => ?_⟩, ?_⟩
      · show (shelf.kept.insert d.clusterId _).get? x = some y
        have hold := h.ofClient x y hx
        rw [Keyed.get?_insert, if_neg, hold]
        rintro rfl
        rw [hkept] at hold
        cases hold
      · have hy' : (shelf.kept.insert d.clusterId ⟨shelf.backends.length⟩).get? x = some y := hy
        rw [Keyed.get?_insert] at hy'
        split at hy'
        · next hx =>
          cases hy'
          refine ⟨.new d.clusterId config, Shelf.loopback?_eq_some.mpr ?_, hstem.trans hx.symm,
            .new _ _⟩
          show (shelf.backends ++ [_])[shelf.backends.length]? = _
          simp
        · obtain ⟨b, hb, hbx, htidy⟩ := h.ofKept x y hy'
          exact ⟨b, Shelf.loopback?_add hb _, hbx, htidy⟩
      · show (shelf.kept.insert d.clusterId _).get? d.clusterId = _
        rw [Keyed.get?_insert, if_pos rfl]
  · -- nobody makes a client for an unknown vendor
    rw [hunknown] at hcreate
    cases hcreate

/-- Registering a cluster without a client keeps a fleet. -/
theorem set_none (h : Fleet clusters shelf) :
    Fleet (clusters.set d.clusterId (.ofDescriptor d now none)) shelf := by
  refine ⟨fun x y hx => ?_, h.ofKept⟩
  rw [ClusterRegistry.clientOf_set] at hx
  split at hx
  · cases hx
  · exact h.ofClient x y hx

/-- Registering a cluster with the handle on its array keeps a fleet. -/
theorem set_some (h : Fleet clusters shelf) (hkept : shelf.kept.get? d.clusterId = some client) :
    Fleet (clusters.set d.clusterId (.ofDescriptor d now (some client))) shelf := by
  refine ⟨fun x y hx => ?_, h.ofKept⟩
  rw [ClusterRegistry.clientOf_set] at hx
  split at hx
  · next he =>
    cases hx
    rw [he]
    exact hkept
  · exact h.ofClient x y hx

theorem install {s : Gateway.ClusterSync} (h : Fleet s.clusters s.shelf) (hd : d.IsPlain) :
    Fleet (s.install .standard now d).clusters (s.install .standard now d).shelf := by
  unfold Gateway.ClusterSync.install
  cases hcreate : Factory.standard.create d s.shelf with
  | error failure => exact h.set_none
  | ok made =>
    obtain ⟨hfleet, hkept⟩ := h.create hd hcreate
    exact hfleet.set_some hkept

theorem remove {s : Gateway.ClusterSync} (h : Fleet s.clusters s.shelf) (id : String) :
    Fleet (s.remove id).clusters (s.remove id).shelf := by
  unfold Gateway.ClusterSync.remove
  cases hremove : s.clusters.remove id with
  | error failure => exact h
  | ok removed =>
    exact ⟨fun x y hx => h.ofClient x y (ClusterRegistry.clientOf_of_remove hremove hx), h.ofKept⟩

/-- **The clusters of a plain configuration are a fleet again**, whichever clusters come and go. -/
theorem syncClusters (h : Fleet clusters shelf) {ds : List ClusterDescriptor}
    (hds : ∀ d ∈ ds, d.IsPlain) :
    Fleet (Gateway.syncClusters .standard now ds clusters shelf).clusters
      (Gateway.syncClusters .standard now ds clusters shelf).shelf := by
  unfold Gateway.syncClusters
  -- first the descriptors are installed one after the other, then the clusters that left are removed
  refine List.foldlRecOn (motive := fun s : Gateway.ClusterSync => Fleet s.clusters s.shelf) _ _ ?_
    fun s hs id _ => hs.remove id
  exact List.foldlRecOn (motive := fun s : Gateway.ClusterSync => Fleet s.clusters s.shelf) _ _ h
    fun s hs d hd => hs.install (hds d hd)

end Fleet

/-! ## Passes -/

/-- **A pass brings the owners in line** if its inventories are those of all clusters that hold
something, nothing is spared, and every owner was known when the pass opened. -/
theorem inLine_leftOwners {opened : Gateway.OpenPass} {inventories : List Gateway.Inventory}
    {cancelled : Bool} (hf : Fleet clusters shelf)
    (hmanaged : ∀ i ∈ inventories, i.clusterId ∈ opened.managed)
    (hinventory : ∀ i ∈ inventories, ∀ r,
      r ∈ i.resources ↔ r.clusterId = i.clusterId ∧ Held clusters shelf r)
    (hall : ∀ r, Held clusters shelf r → ∃ i ∈ inventories, i.clusterId = r.clusterId)
    (hknown : ∀ id r, owners.record? id = some r → id ∈ opened.knownBefore)
    (hnot : Gateway.isInterrupted inventories cancelled = false) :
    InLine (Gateway.leftOwners owners opened inventories cancelled false) clusters shelf := by
  have hstale : ∀ {q : Resource} {i : Gateway.Inventory}, i ∈ inventories → q ∈ i.resources →
      Gateway.isStale opened inventories false q = false := by
    intro q i hi hq
    have hqc := ((hinventory i hi q).mp hq).1
    refine Gateway.not_isStale_of_reported (hqc ▸ hmanaged i hi) ?_
    exact Gateway.isReported_iff.mpr
      ⟨i, hi, hqc.symm, Gateway.Inventory.reports_iff.mpr ⟨q, hq, rfl⟩⟩
  intro r
  constructor
  · intro hr
    rw [Gateway.record?_leftOwners hnot] at hr
    obtain ⟨htaken, hkept⟩ := Option.filter_eq_some_iff.mp hr
    rcases Gateway.takenOver_cases owners inventories r.id with
      ⟨hnone, hsame⟩ | ⟨i, hi, -, q, hq, -, hrec, -⟩
    · -- nobody reports it, so it is stale
      have hunreported : Gateway.isReported inventories r.clusterId r.id = false := by
        refine Bool.eq_false_iff.mpr fun hrep => ?_
        obtain ⟨i, hi, -, hir⟩ := Gateway.isReported_iff.mp hrep
        rw [hnone i hi] at hir
        cases hir
      have hdrop : Gateway.isStale opened inventories false r = true :=
        Gateway.isStale_iff.mpr (Or.inr ⟨fun hp => Bool.false_ne_true hp.1, hunreported,
          hknown r.id r (hsame ▸ htaken)⟩)
      rw [hdrop] at hkept
      cases hkept
    · rw [hrec] at htaken
      cases htaken
      exact ((hinventory i hi r).mp hq).2
  · -- what is held is reported, by its cluster or another, and no ID is held twice
    intro hr
    obtain ⟨i, hi, hic⟩ := hall r hr
    have hri : r ∈ i.resources := (hinventory i hi r).mpr ⟨hic.symm, hr⟩
    obtain ⟨j, hj, q, hq, hqid, hrec⟩ := Gateway.takenOver_of_reports (o := owners) hi
      (Gateway.Inventory.reports_iff.mpr ⟨r, hri, rfl⟩)
    obtain rfl : q = r := hf.unique ((hinventory j hj q).mp hq).2 hr hqid
    exact Gateway.leftOwners_of_not_isStale hrec (hstale hj hq)

end FederatedStorage
