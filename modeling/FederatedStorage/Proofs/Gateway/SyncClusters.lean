import FederatedStorage.Cluster.Source
import FederatedStorage.Proofs.Gateway.Pass
import FederatedStorage.Proofs.Cluster.Registry

/-!
# What a pass makes of its configuration

The clusters' part of a pass registers the descriptors one after the other, each with a client if one
can be made, and then removes the clusters that are not configured. In the end the registry holds
exactly the configured clusters. On the way every cluster that was registered before and is
configured stays registered, so calls about its resources are never refused for want of it.

## Main statements

* `syncClusters_synced`: the registry and the report after the clusters' part.
* `SyncStep.keeps`: what stays registered on the way.
* `ClusterSource.load_iff`: which configurations are loaded.
-/

namespace FederatedStorage

open Time

namespace ClusterRegistry

theorem mem_ids_iff {clusters : ClusterRegistry} {id : String} :
    id ∈ clusters.ids ↔ ∃ c, clusters.clusters.get? id = some c := by
  rw [ids, Keyed.mem_keys_iff, Keyed.contains, Option.isSome_iff_exists]

end ClusterRegistry

namespace Gateway

variable {factory : Factory} {now : Timestamp} {d : ClusterDescriptor}
  {ds : List ClusterDescriptor} {clusters : ClusterRegistry} {shelf : Shelf} {s : ClusterSync}
  {id : String}

/-! ## Clients -/

/-- The client made of a descriptor, if one can be made, and the shelf then. -/
def make (factory : Factory) (d : ClusterDescriptor) (shelf : Shelf) : Option Client × Shelf :=
  match factory.create d shelf with
  | .ok (client, left) => (some client, left)
  | .error _ => (none, shelf)

/-- **The clients made of a configuration**, one descriptor after the other. -/
def built (factory : Factory) : List ClusterDescriptor → Shelf → List (Option Client)
  | [], _ => []
  | d :: ds, shelf => (make factory d shelf).1 :: built factory ds (make factory d shelf).2

theorem length_built (ds : List ClusterDescriptor) (shelf : Shelf) :
    (built factory ds shelf).length = ds.length := by
  induction ds generalizing shelf with
  | nil => rfl
  | cons d ds ih => simp [built, ih]

/-- The configured clusters without a client, in their order. -/
def withoutClient (ds : List ClusterDescriptor) (clients : List (Option Client)) : List String :=
  ((ds.zip clients).filter fun e => e.2.isNone).map fun e => e.1.clusterId

/-! ## Registering -/

/-- **Registering one cluster**, with or without a client. -/
theorem install_eq (s : ClusterSync) (d : ClusterDescriptor) :
    s.install factory now d =
      ⟨s.clusters.set d.clusterId (.ofDescriptor d now (make factory d s.shelf).1),
        (make factory d s.shelf).2,
        { s.report with
          registered := s.report.registered ++ [d.clusterId]
          clientFailures :=
            s.report.clientFailures ++ withoutClient [d] [(make factory d s.shelf).1] }⟩ := by
  unfold ClusterSync.install make
  cases factory.create d s.shelf with
  | error failure => rfl
  | ok made => simp [withoutClient]

/-- Registering leaves other clusters alone. -/
theorem get?_install_other (h : id ≠ d.clusterId) :
    (s.install factory now d).clusters.clusters.get? id = s.clusters.clusters.get? id := by
  rw [install_eq]
  show (s.clusters.clusters.insert d.clusterId _).get? id = _
  rw [Keyed.get?_insert, if_neg h]

theorem get?_installAll_other (h : id ∉ ds.map ClusterDescriptor.clusterId) (s : ClusterSync) :
    (ds.foldl (ClusterSync.install factory now) s).clusters.clusters.get? id =
      s.clusters.clusters.get? id := by
  induction ds generalizing s with
  | nil => rfl
  | cons d ds ih =>
    rw [List.map_cons, List.mem_cons, not_or] at h
    rw [List.foldl_cons, ih h.2, get?_install_other h.1]

/-- **A configured cluster is registered as its descriptor says**, with the client made for it. -/
theorem get?_installAll (hnodup : (ds.map ClusterDescriptor.clusterId).Nodup) (s : ClusterSync)
    {client : Option Client} (h : (d, client) ∈ ds.zip (built factory ds s.shelf)) :
    (ds.foldl (ClusterSync.install factory now) s).clusters.clusters.get? d.clusterId =
      some (.ofDescriptor d now client) := by
  induction ds generalizing s with
  | nil => cases h
  | cons e ds ih =>
    rw [List.map_cons, List.nodup_cons] at hnodup
    rw [List.foldl_cons]
    rw [built, List.zip_cons_cons] at h
    rcases List.mem_cons.mp h with he | h
    · -- what is registered later has other IDs
      cases he
      rw [get?_installAll_other hnodup.1, install_eq]
      show (s.clusters.clusters.insert d.clusterId _).get? d.clusterId = _
      rw [Keyed.get?_insert, if_pos rfl]
    · refine ih hnodup.2 (s.install factory now e) ?_
      rw [install_eq]
      exact h

/-- The report once all clusters are registered. -/
theorem report_installAll (ds : List ClusterDescriptor) (s : ClusterSync) :
    (ds.foldl (ClusterSync.install factory now) s).report =
      { s.report with
        registered := s.report.registered ++ ds.map ClusterDescriptor.clusterId
        clientFailures :=
          s.report.clientFailures ++ withoutClient ds (built factory ds s.shelf) } := by
  induction ds generalizing s with
  | nil => simp [withoutClient, built]
  | cons d ds ih =>
    rw [List.foldl_cons, ih, install_eq]
    simp only [built, withoutClient, List.map_cons, List.append_assoc, List.zip_cons_cons,
      List.zip_nil_right, List.cons_append, List.nil_append]
    rw [← List.map_append, ← List.filter_append]
    rfl

/-- A registered cluster stays registered. -/
theorem mem_ids_install (h : id ∈ s.clusters.ids) : id ∈ (s.install factory now d).clusters.ids := by
  obtain ⟨c, hc⟩ := ClusterRegistry.mem_ids_iff.mp h
  by_cases hid : id = d.clusterId
  · refine ClusterRegistry.mem_ids_iff.mpr ⟨.ofDescriptor d now (make factory d s.shelf).1, ?_⟩
    rw [install_eq, hid]
    show (s.clusters.clusters.insert d.clusterId _).get? d.clusterId = _
    rw [Keyed.get?_insert, if_pos rfl]
  · exact ClusterRegistry.mem_ids_iff.mpr ⟨c, (get?_install_other hid).trans hc⟩

/-! ## Removing -/

/-- **Removing a registered cluster** succeeds and is reported. -/
theorem remove_eq (h : id ∈ s.clusters.ids) :
    ∃ removals, s.remove id =
      { s with
        clusters := ⟨s.clusters.clusters.erase id, s.clusters.sets, removals⟩
        report := { s.report with removed := s.report.removed ++ [id] } } := by
  obtain ⟨c, hc⟩ := ClusterRegistry.mem_ids_iff.mp h
  refine ⟨s.clusters.removals + 1, ?_⟩
  simp only [ClusterSync.remove, ClusterRegistry.remove, hc]

theorem get?_remove (h : id ∈ s.clusters.ids) (x : String) :
    (s.remove id).clusters.clusters.get? x =
      if x = id then none else s.clusters.clusters.get? x := by
  obtain ⟨_, hs⟩ := remove_eq h
  rw [hs]
  exact Keyed.get?_erase _ _ _

/-- **Removing registered clusters**, none of them twice. -/
theorem removeAll_eq {ids : List String} (hnodup : ids.Nodup) (h : ∀ id ∈ ids, id ∈ s.clusters.ids) :
    (∀ x, (ids.foldl ClusterSync.remove s).clusters.clusters.get? x =
        if x ∈ ids then none else s.clusters.clusters.get? x) ∧
      (ids.foldl ClusterSync.remove s).report =
        { s.report with removed := s.report.removed ++ ids } := by
  induction ids generalizing s with
  | nil => exact ⟨fun x => by simp, by simp⟩
  | cons id ids ih =>
    obtain ⟨hid, hids⟩ := List.forall_mem_cons.mp h
    obtain ⟨hnew, hnodup⟩ := List.nodup_cons.mp hnodup
    -- the others are still registered once the first is removed
    have hleft : ∀ x ∈ ids, x ∈ (s.remove id).clusters.ids := by
      intro x hx
      obtain ⟨c, hc⟩ := ClusterRegistry.mem_ids_iff.mp (hids x hx)
      refine ClusterRegistry.mem_ids_iff.mpr ⟨c, ?_⟩
      rw [get?_remove hid, if_neg (ne_of_mem_of_not_mem hx hnew)]
      exact hc
    obtain ⟨hget, hreport⟩ := ih hnodup hleft
    rw [List.foldl_cons]
    constructor
    · intro x
      rw [hget, get?_remove hid]
      by_cases hx : x = id <;> simp [hx]
    · obtain ⟨_, hs⟩ := remove_eq hid
      rw [hreport, hs]
      simp

/-- Removing another cluster leaves a cluster registered. -/
theorem mem_ids_remove {x : String} (hx : id ≠ x) (h : id ∈ s.clusters.ids) :
    id ∈ (s.remove x).clusters.ids := by
  by_cases hreg : x ∈ s.clusters.ids
  · obtain ⟨c, hc⟩ := ClusterRegistry.mem_ids_iff.mp h
    refine ClusterRegistry.mem_ids_iff.mpr ⟨c, ?_⟩
    rw [get?_remove hreg, if_neg hx]
    exact hc
  · have hnone : s.clusters.clusters.get? x = none :=
      Option.eq_none_iff_forall_ne_some.mpr fun c hc =>
        hreg (ClusterRegistry.mem_ids_iff.mpr ⟨c, hc⟩)
    simpa only [ClusterSync.remove, ClusterRegistry.remove, hnone] using h

/-! ## The clusters' part of a pass -/

/-- Some descriptors have been registered. -/
def installed (factory : Factory) (now : Timestamp) (clusters : ClusterRegistry) (shelf : Shelf)
    (ds : List ClusterDescriptor) : ClusterSync :=
  ds.foldl (ClusterSync.install factory now) ⟨clusters, shelf, ⟨[], [], []⟩⟩

/-- The clusters that are to leave, once all descriptors have been registered. -/
def leaving (factory : Factory) (now : Timestamp) (clusters : ClusterRegistry) (shelf : Shelf)
    (ds : List ClusterDescriptor) : List String :=
  (installed factory now clusters shelf ds).clusters.ids.filter fun id =>
    !(ds.map ClusterDescriptor.clusterId).contains id

theorem syncClusters_eq : syncClusters factory now ds clusters shelf =
    (leaving factory now clusters shelf ds).foldl ClusterSync.remove
      (installed factory now clusters shelf ds) := rfl

theorem mem_leaving : id ∈ leaving factory now clusters shelf ds ↔
    id ∈ clusters.ids ∧ id ∉ ds.map ClusterDescriptor.clusterId := by
  unfold leaving installed
  rw [List.mem_filter, Bool.not_eq_true', ← Bool.not_eq_true, List.contains_iff_mem]
  refine and_congr_left fun hid => ?_
  rw [ClusterRegistry.mem_ids_iff, get?_installAll_other hid, ClusterRegistry.mem_ids_iff]

/-- **The clusters follow the configuration**, and the report says so. -/
structure Synced (factory : Factory) (now : Timestamp) (ds : List ClusterDescriptor)
    (clusters : ClusterRegistry) (shelf : Shelf) (after : ClusterSync) : Prop where
  keys : ∀ id, id ∈ after.clusters.ids ↔ id ∈ ds.map ClusterDescriptor.clusterId
  /-- A cluster is as its descriptor says, with the client made of that, if one was made. -/
  entries : ∀ d client, (d, client) ∈ ds.zip (built factory ds shelf) →
    after.clusters.clusters.get? d.clusterId = some (.ofDescriptor d now client)
  registered : after.report.registered = ds.map ClusterDescriptor.clusterId
  clientFailures : after.report.clientFailures = withoutClient ds (built factory ds shelf)
  removed : ∀ id, id ∈ after.report.removed ↔
    id ∈ clusters.ids ∧ id ∉ ds.map ClusterDescriptor.clusterId
  removed_nodup : after.report.removed.Nodup

theorem syncClusters_synced (hnodup : (ds.map ClusterDescriptor.clusterId).Nodup) :
    Synced factory now ds clusters shelf (syncClusters factory now ds clusters shelf) := by
  have hregistered : ∀ id ∈ leaving factory now clusters shelf ds,
      id ∈ (installed factory now clusters shelf ds).clusters.ids :=
    fun id hid => (List.mem_filter.mp hid).1
  have hleaving : (leaving factory now clusters shelf ds).Nodup :=
    (Keyed.keys_nodup _).sublist List.filter_sublist
  obtain ⟨hget, hreport⟩ := removeAll_eq hleaving hregistered
  rw [← syncClusters_eq] at hget hreport
  rw [installed, report_installAll] at hreport
  -- what is configured does not leave
  have hentry : ∀ d client, (d, client) ∈ ds.zip (built factory ds shelf) →
      (syncClusters factory now ds clusters shelf).clusters.clusters.get? d.clusterId =
        some (.ofDescriptor d now client) := by
    intro d client hd
    have hconfigured : d.clusterId ∈ ds.map ClusterDescriptor.clusterId :=
      List.mem_map.mpr ⟨d, (List.of_mem_zip hd).1, rfl⟩
    rw [hget, if_neg fun hid => (mem_leaving.mp hid).2 hconfigured]
    exact get?_installAll hnodup ⟨clusters, shelf, ⟨[], [], []⟩⟩ hd
  refine ⟨fun id => ⟨fun hid => ?_, fun hid => ?_⟩, hentry, by rw [hreport]; rfl,
    by rw [hreport]; rfl, fun id => ?_, ?_⟩
  · obtain ⟨c, hc⟩ := ClusterRegistry.mem_ids_iff.mp hid
    refine Classical.byContradiction fun hnot => ?_
    rw [hget] at hc
    split at hc
    · cases hc
    · next hstays =>
      -- it is neither configured nor leaving, so it was not registered either
      rw [installed, get?_installAll_other hnot] at hc
      exact hstays (mem_leaving.mpr ⟨ClusterRegistry.mem_ids_iff.mpr ⟨c, hc⟩, hnot⟩)
  · obtain ⟨d, hd, rfl⟩ := List.mem_map.mp hid
    obtain ⟨i, hi, rfl⟩ := List.mem_iff_getElem.mp hd
    have hlength : i < (built factory ds shelf).length := by rw [length_built]; exact hi
    have hzip : (ds[i], (built factory ds shelf)[i]) ∈ ds.zip (built factory ds shelf) :=
      List.mem_iff_getElem.mpr ⟨i, by simpa [length_built] using hi, by simp⟩
    exact ClusterRegistry.mem_ids_iff.mpr ⟨_, hentry _ _ hzip⟩
  · rw [hreport]
    exact mem_leaving
  · rw [hreport]
    exact hleaving

/-! ## On the way -/

/-- **What the clusters' part goes through**, between two of its changes of the registry. -/
inductive SyncStep (factory : Factory) (now : Timestamp) (ds : List ClusterDescriptor)
    (clusters : ClusterRegistry) (shelf : Shelf) : ClusterSync → Prop
  | installing (done : List ClusterDescriptor) (h : done <+: ds) :
      SyncStep factory now ds clusters shelf (installed factory now clusters shelf done)
  | removing (gone : List String) (h : gone <+: leaving factory now clusters shelf ds) :
      SyncStep factory now ds clusters shelf
        (gone.foldl ClusterSync.remove (installed factory now clusters shelf ds))

/-- The clusters' part goes from the registry before to the one after. -/
theorem syncStep_ends : SyncStep factory now ds clusters shelf ⟨clusters, shelf, ⟨[], [], []⟩⟩ ∧
    SyncStep factory now ds clusters shelf (syncClusters factory now ds clusters shelf) :=
  ⟨.installing [] List.nil_prefix, .removing _ (List.prefix_refl _)⟩

theorem mem_ids_installed (h : id ∈ clusters.ids) (ds : List ClusterDescriptor) :
    id ∈ (installed factory now clusters shelf ds).clusters.ids :=
  List.foldlRecOn (motive := fun s : ClusterSync => id ∈ s.clusters.ids) _ _ h
    fun _ hs _ _ => mem_ids_install hs

/-- **What was registered and is configured stays registered** on the way. -/
theorem SyncStep.keeps (h : SyncStep factory now ds clusters shelf s) (hold : id ∈ clusters.ids)
    (hnew : id ∈ ds.map ClusterDescriptor.clusterId) : id ∈ s.clusters.ids := by
  cases h with
  | installing done hdone => exact mem_ids_installed hold done
  | removing gone hgone =>
    refine List.foldlRecOn (motive := fun s : ClusterSync => id ∈ s.clusters.ids) _ _
      (mem_ids_installed hold ds) fun s hs x hx => mem_ids_remove ?_ hs
    rintro rfl
    exact (mem_leaving.mp (hgone.subset hx)).2 hnew

/-- **Calls about a resource of a registered cluster** are not refused for want of the cluster. -/
theorem route_of_registered {g : Gateway} {r : Resource}
    (hr : g.resources.record? id = some r) (hc : r.clusterId ∈ g.clusters.ids) :
    (∃ target, g.route id = .ok target ∧ target.clusterId = r.clusterId) ∨
      ∃ x, g.route id = .error (.clientUnavailable x) := by
  have hroute : g.route id = g.targetOf r.clusterId := by
    unfold Gateway.route Ownership.owner Ownership.find
    rw [hr]
    rfl
  rw [hroute]
  cases htarget : g.targetOf r.clusterId with
  | ok target => exact Or.inl ⟨target, rfl, (targetOf_ok htarget).1⟩
  | error failure =>
    refine Or.inr ?_
    obtain ⟨c, hget⟩ := ClusterRegistry.mem_ids_iff.mp hc
    have herror := targetOf_error htarget
    simp only [ClusterRegistry.clientOf, ClusterRegistry.find, hget] at herror
    have hnone : c.usableClient = .error failure := herror
    unfold Cluster.usableClient at hnone
    split at hnone
    · cases hnone
    · cases hnone
      exact ⟨c.id, rfl⟩

end Gateway

/-! ## Sources -/

namespace ClusterSource

/-- The descriptors that a source holds, good or bad. None if there is nothing to be read. -/
def held? : ClusterSource → Option (List ClusterDescriptor)
  | .list ds => some ds
  | .document _ (.ok text) _ => ClusterDescriptor.ofText? text
  | .document _ (.error _) _ => none

variable {source : ClusterSource} {ds : List ClusterDescriptor}

/-- **Loading is checking** what the source holds. -/
theorem load_of_held (h : source.held? = some ds) :
    source.load = (ClusterDescriptor.validate ds).map fun _ => ds := by
  cases source with
  | list es =>
    cases h
    rfl
  | document place content complaint =>
    cases content with
    | error reason => cases h
    | ok text =>
      show ClusterDescriptor.ofDocument complaint text = _
      unfold ClusterDescriptor.ofDocument
      have htext : ClusterDescriptor.ofText? text = some ds := h
      rw [htext]

/-- What is not there to be read is not loaded. -/
theorem load_of_unheld (h : source.held? = none) : ∃ failure, source.load = .error failure := by
  cases source with
  | list es => cases h
  | document place content complaint =>
    cases content with
    | error reason => exact ⟨_, rfl⟩
    | ok text =>
      have htext : ClusterDescriptor.ofText? text = none := h
      show ∃ failure, ClusterDescriptor.ofDocument complaint text = .error failure
      unfold ClusterDescriptor.ofDocument
      rw [htext]
      exact ⟨_, rfl⟩

/-- **A configuration is loaded exactly if** every descriptor is named and no ID occurs twice. -/
theorem load_iff (h : source.held? = some ds) :
    (∃ es, source.load = .ok es) ↔
      (∀ d ∈ ds, d.IsNamed) ∧ (ds.map ClusterDescriptor.clusterId).Nodup := by
  rw [load_of_held h, ← ClusterDescriptor.validate_eq_ok_iff]
  cases ClusterDescriptor.validate ds with
  | error failure => exact ⟨fun ⟨_, he⟩ => (by cases he), fun he => (by cases he)⟩
  | ok _ => exact ⟨fun _ => rfl, fun _ => ⟨ds, rfl⟩⟩

/-- **What is loaded is held.** -/
theorem held_of_load (h : source.load = .ok ds) : source.held? = some ds := by
  cases hheld : source.held? with
  | none =>
    obtain ⟨failure, hfail⟩ := load_of_unheld hheld
    rw [hfail] at h
    cases h
  | some es =>
    rw [load_of_held hheld] at h
    cases hvalid : ClusterDescriptor.validate es with
    | error failure =>
      rw [hvalid] at h
      cases h
    | ok _ =>
      rw [hvalid] at h
      exact congrArg some (Except.ok.inj h)

end ClusterSource

end FederatedStorage
