import FederatedStorage.Proofs.Gateway.History
import FederatedStorage.Proofs.Gateway.Parts
import FederatedStorage.Proofs.Gateway.SyncClusters
import FederatedStorage.Proofs.Schedule.Beside

/-!
# The configuration of a whole pass

A whole pass loads its configuration in one scene. Up to then it has only waited for its turn. If the
configuration is no good, the pass ends with the failure and has changed nothing but whose turn it
is. Otherwise the registry follows the configuration at once, and the report of the pass says how.

## Main statements

* `loaded`: what a whole pass does with its configuration.
* `clusters_follow_configuration`: the clusters' part of a pass is exact, and all or nothing.
-/

namespace FederatedStorage.Deployment

open Schedule Gateway

variable {ε : Type} {moves : Scene Deployment ε → Scene Deployment ε → Prop} {b : Bound}
  {s s' x : Scene Deployment ε} {t : List (Scene Deployment ε)} {v w : World Deployment}

/-- **Nothing but the lock has changed.** -/
def OnlyLock (v w : World Deployment) : Prop :=
  ∃ lock, w = v.modify fun d => { d with lock := lock }

/-- Nothing to count on, and acts on the lock only. -/
def lockOnly : Rely Deployment := .nothing OnlyLock fun w => ⟨w.state.lock, rfl⟩

/-- The world once a configuration is registered. -/
def registering (w : World Deployment) (ds : List ClusterDescriptor) : World Deployment :=
  w.modify fun d =>
    let after := syncClusters d.factory d.now ds d.gateway.clusters d.shelf
    { d with gateway := { d.gateway with clusters := after.clusters }, shelf := after.shelf }

/-- What a whole pass reports of its clusters. -/
def registeredReport (w : World Deployment) (ds : List ClusterDescriptor) : ClusterSyncReport :=
  (syncClusters w.state.factory w.state.now ds w.state.gateway.clusters w.state.shelf).report

/-- **What a whole pass does with the configuration** that it loads in a scene. -/
structure LoadedIn (moves : Scene Deployment ε → Scene Deployment ε → Prop) (s : Scene Deployment ε)
    (t : List (Scene Deployment ε)) (result : Except Failure PassReport) (s' x : Scene Deployment ε) :
    Prop where
  before : Besides moves OnlyLock s x
  /-- A configuration that is no good ends the pass, which has changed nothing else. -/
  refused : ∀ failure, x.world.state.source.load = .error failure →
    result = .error failure ∧ Besides moves OnlyLock s s'
  loaded : ∀ ds, x.world.state.source.load = .ok ds →
    x.put (registering x.world ds) ∈ t ∧
      ∃ report, result = .ok report ∧ report.clusters = registeredReport x.world ds

/-! ## The prelude of a whole pass -/

/-- The act in which a configuration is loaded. -/
def loading (w : World Deployment) : World Deployment × Except Failure ClusterSyncReport :=
  match w.state.source.load with
  | .error failure => (w, .error failure)
  | .ok ds => (registering w ds, .ok (registeredReport w ds))

theorem loading_of_error {w : World Deployment} {failure : Failure}
    (h : w.state.source.load = .error failure) : loading w = (w, .error failure) := by
  unfold loading
  rw [h]

theorem loading_of_ok {w : World Deployment} {ds : List ClusterDescriptor}
    (h : w.state.source.load = .ok ds) :
    loading w = (registering w ds, .ok (registeredReport w ds)) := by
  unfold loading
  rw [h]

theorem loadClusters_eq : loadClusters = Activity.step loading := by
  refine congrArg Activity.step (funext fun w => ?_)
  unfold loading
  cases hload : w.state.source.load with
  | error failure =>
    simp only [hload]
  | ok ds =>
    simp only [hload]
    rfl

theorem turn_onlyLock (h : Runs moves PassKind.turn s t (.done ()) s') :
    Besides moves OnlyLock s s' :=
  have hturn : Safe lockOnly (fun _ => True) PassKind.turn s.world :=
    PassKind.turn_safe fun _ lock => ⟨lock, rfl⟩
  hturn.besides h

theorem look_onlyLock {α : Type} {a : α} {f : Deployment → α}
    (h : Runs moves (ask f) s t (.done a) s') : Besides moves OnlyLock s s' :=
  have hlook : Safe lockOnly (fun _ => True) (ask f) s.world := Safe.look fun _ _ => trivial
  hlook.besides h

theorem leave_onlyLock {α : Type} {a r : α} (h : Runs moves (PassKind.leave a) s t (.done r) s') :
    Besides moves OnlyLock s s' :=
  have hleave : Safe lockOnly (fun _ => True) (PassKind.leave a) s.world :=
    Safe.step fun v _ => ⟨⟨v.state.lock.leave, rfl⟩, trivial⟩
  hleave.besides h

/-- **Loading is one act**, which changes nothing if the configuration is no good. -/
theorem loadClusters_loads {a : Except Failure ClusterSyncReport}
    (h : Runs moves loadClusters s t (.done a) s') :
    ∃ x ∈ s :: t, Besides moves OnlyLock s x ∧
      (∀ failure, x.world.state.source.load = .error failure →
        a = .error failure ∧ Besides moves OnlyLock s s') ∧
      ∀ ds, x.world.state.source.load = .ok ds →
        x.put (registering x.world ds) ∈ t ∧ a = .ok (registeredReport x.world ds) := by
  rw [loadClusters_eq] at h
  obtain ⟨t1, x, t2, rfl, hothers, hloaded⟩ := Runs.act_done h
  have hx : x ∈ s :: t1 := (hothers (.done ())).end_mem
  have hbefore : Besides moves OnlyLock s x := .of_moves (hothers (.done ())).moves_of_done
  have hresult : (loading x.world).2 = a := (Activity.done.inj hloaded.of_done.1).symm
  refine ⟨x, Runs.mem_before _ hx, hbefore, fun failure hfail => ?_,
    fun ds hds => ?_⟩
  · rw [loading_of_error hfail] at hloaded hresult
    have hstays : Besides moves OnlyLock s (x.put x.world) :=
      hbefore.tail (.own ⟨x.world.state.lock, rfl⟩)
    exact ⟨hresult.symm, hstays.trans (Besides.of_moves hloaded.moves_of_done)⟩
  · rw [loading_of_ok hds] at hresult ⊢
    exact ⟨List.mem_append_right _ List.mem_cons_self, hresult.symm⟩

/-- **Up to its resources' part** a whole pass waits for its turn and loads the configuration. -/
theorem prelude_loads {a : Except (Except Failure PassReport) (Time.Timestamp × ClusterSyncReport)}
    (h : Runs moves (PassKind.prelude .whole) s t (.done a) s') :
    ∃ x ∈ s :: t, Besides moves OnlyLock s x ∧
      (∀ failure, x.world.state.source.load = .error failure →
        a = .error (.error failure) ∧ Besides moves OnlyLock s s') ∧
      ∀ ds, x.world.state.source.load = .ok ds → x.put (registering x.world ds) ∈ t ∧
        ∃ started, a = .ok (started, registeredReport x.world ds) := by
  obtain ⟨_, t1, s1, t2, rfl, hturn, hrest⟩ := Runs.bind_done h
  obtain ⟨started, t3, s2, t4, rfl, hlook, hrest⟩ := Runs.bind_done hrest
  obtain ⟨loaded, t5, s3, t6, rfl, hload, hrest⟩ := Runs.bind_done hrest
  obtain ⟨x, hx, hbefore, hrefused, hregistered⟩ := loadClusters_loads hload
  have hwaited : Besides moves OnlyLock s s2 := (turn_onlyLock hturn).trans (look_onlyLock hlook)
  have hmem : x ∈ s :: (t1 ++ (t3 ++ (t5 ++ t6))) :=
    Runs.mem_after hturn.end_mem (Runs.mem_after hlook.end_mem (Runs.mem_before t6 hx))
  refine ⟨x, hmem, hwaited.trans hbefore, fun failure hfail => ?_, fun ds hds => ?_⟩
  · obtain ⟨rfl, hsame⟩ := hrefused failure hfail
    have hafter : Besides moves OnlyLock s3 s' := .of_moves hrest.moves_of_done
    exact ⟨Activity.done.inj hrest.of_done.1, (hwaited.trans hsame).trans hafter⟩
  · obtain ⟨hput, rfl⟩ := hregistered ds hds
    refine ⟨?_, started, Activity.done.inj hrest.of_done.1⟩
    exact List.mem_append_right _ (List.mem_append_right _ (List.mem_append_left _ hput))

/-- The report of a pass that comes to its end says what became of the clusters. -/
theorem after_report {found : Time.Timestamp × ClusterSyncReport} {resources : ResourceSyncReport}
    {result : Except Failure PassReport}
    (h : Runs moves (PassKind.after .whole found resources) s t (.done result) s') :
    ∃ report, result = .ok report ∧ report.clusters = found.2 := by
  obtain ⟨r, t1, s1, t2, -, hfinish, hleave⟩ := Runs.bind_done h
  obtain ⟨t3, s3, t4, -, -, hrest⟩ := Runs.act_done hfinish
  rw [PassKind.leave_result hleave, Activity.done.inj hrest.of_done.1]
  exact ⟨_, rfl, rfl⟩

/-- **A whole pass loads its configuration in one scene.** -/
theorem loaded {result : Except Failure PassReport}
    (h : Runs moves (reconcile b) s t (.done result) s') :
    ∃ x ∈ s :: t, LoadedIn moves s t result s' x := by
  have hpass : Runs moves (PassKind.work b .whole) s t (.done result) s' := h
  rw [PassKind.work_eq] at hpass
  rcases PassParts.split hpass with ⟨r, t0, s1, t1, rfl, hprelude, hleave⟩ | ⟨⟨parts⟩⟩
  · obtain ⟨x, hx, hbefore, hrefused, hregistered⟩ := prelude_loads hprelude
    refine ⟨x, Runs.mem_before t1 hx, hbefore, fun failure hfail => ?_,
      fun ds hds => ?_⟩
    · obtain ⟨hr, hsame⟩ := hrefused failure hfail
      rw [PassKind.leave_result hleave]
      exact ⟨Except.error.inj hr, hsame.trans (leave_onlyLock hleave)⟩
    · obtain ⟨-, _, hok⟩ := hregistered ds hds
      cases hok
  · obtain ⟨x, hx, hbefore, hrefused, hregistered⟩ := prelude_loads parts.prelude_runs
    have ht := parts.trace_scenes
    refine ⟨x, ?_, hbefore, fun failure hfail => ?_, fun ds hds => ?_⟩
    · rw [ht]
      exact Runs.mem_before parts.scenes hx
    · obtain ⟨herror, -⟩ := hrefused failure hfail
      cases herror
    · obtain ⟨hput, started, hok⟩ := hregistered ds hds
      obtain ⟨report, hreport, hclusters⟩ := after_report parts.end_runs
      have hfound : parts.found = (started, registeredReport x.world ds) := Except.ok.inj hok
      refine ⟨?_, report, hreport, hclusters.trans (by rw [hfound])⟩
      rw [ht]
      exact List.mem_append_left _ hput

/-! ## The clusters' part of a pass -/

/-- **The clusters' part of a pass is exact, and all or nothing.**

What a source holds is loaded exactly if every descriptor is named and no ID occurs twice, and
nothing else is. A whole pass loads it in one scene. If it is no good, the pass ends with that
failure, and the gateway is as it was but for what others do. Otherwise the registry holds exactly
the configured clusters from then on, each as its descriptor says and with the client that was made
for it, and the report tells of all of them, of those without a client, and of those that left. On
the way from the old registry to the new one a cluster that is in both is always registered, so that
calls about its resources find it. -/
theorem clusters_follow_configuration :
    (∀ (source : ClusterSource) (ds : List ClusterDescriptor),
      (source.held? = some ds → ((∃ es, source.load = .ok es) ↔
        (∀ d ∈ ds, d.IsNamed) ∧ (ds.map ClusterDescriptor.clusterId).Nodup)) ∧
      (source.load = .ok ds → source.held? = some ds)) ∧
    (∀ {ε : Type} (moves : Scene Deployment ε → Scene Deployment ε → Prop) (b : Bound)
      (s s' : Scene Deployment ε) (t : List (Scene Deployment ε))
      (result : Except Failure PassReport), Runs moves (reconcile b) s t (.done result) s' →
        ∃ x ∈ s :: t, LoadedIn moves s t result s' x) ∧
    ∀ (factory : Factory) (now : Time.Timestamp) (ds : List ClusterDescriptor)
      (clusters : ClusterRegistry) (shelf : Shelf), (ds.map ClusterDescriptor.clusterId).Nodup →
        Synced factory now ds clusters shelf (syncClusters factory now ds clusters shelf) ∧
        SyncStep factory now ds clusters shelf ⟨clusters, shelf, ⟨[], [], []⟩⟩ ∧
        SyncStep factory now ds clusters shelf (syncClusters factory now ds clusters shelf) ∧
        ∀ step, SyncStep factory now ds clusters shelf step →
          ∀ id, id ∈ clusters.ids → id ∈ ds.map ClusterDescriptor.clusterId →
            id ∈ step.clusters.ids ∧
            ∀ (g : Gateway) (resource : String) (r : Resource), g.clusters = step.clusters →
              g.resources.record? resource = some r → r.clusterId = id →
                (∃ target, g.route resource = .ok target ∧ target.clusterId = id) ∨
                  ∃ c, g.route resource = .error (.clientUnavailable c) := by
  refine ⟨fun source ds => ⟨ClusterSource.load_iff, ClusterSource.held_of_load⟩,
    fun moves b s s' t result hrun => loaded hrun,
    fun factory now ds clusters shelf hnodup => ⟨syncClusters_synced hnodup, syncStep_ends.1,
      syncStep_ends.2, ?_⟩⟩
  intro step hstep id hold hnew
  have hkept : id ∈ step.clusters.ids := hstep.keeps hold hnew
  refine ⟨hkept, fun g resource r hg hr hid => ?_⟩
  subst hid
  exact route_of_registered hr (hg ▸ hkept)

/-- A gateway with two clusters whose configuration has come to name both of them twice. -/
def namedTwice : World Deployment :=
  createdWorld.modify fun d => { d with source := .list (twoVendors ++ twoVendors) }

/-- Two clusters are configured. Then they are configured twice, and the pass changes nothing. When
one of them has left, the other was registered all the time. -/
theorem clusters_follow_configuration_namedTwice :
    (∃ es, (ClusterSource.list twoVendors).load = .ok es) ∧
    Besides (fun _ _ => False) OnlyLock (⟨namedTwice, ()⟩ : Scene Deployment Unit)
      ⟨doing namedTwice (reconcile free), ()⟩ ∧
    ∀ step, SyncStep .standard createdWorld.state.now (twoVendors.take 1)
        createdWorld.state.gateway.clusters createdWorld.state.shelf step →
      "a" ∈ step.clusters.ids := by
  obtain ⟨hload, hpass, hsync⟩ := clusters_follow_configuration
  refine ⟨?_, ?_, fun step hstep => ?_⟩
  · refine ((hload _ twoVendors).1 rfl).mpr ⟨fun d hd => ?_, by decide⟩
    rcases List.mem_cons.mp hd with rfl | hd
    · exact ⟨by decide +kernel, by decide +kernel⟩
    · rw [List.mem_singleton.mp hd]
      exact ⟨by decide +kernel, by decide +kernel⟩
  · have hanswer : ((reconcile free).advance namedTwice false).2.1.result?.isSome := by
      decide +kernel
    obtain ⟨result, hrun⟩ := exists_runs_of_isSome (fun _ _ => False) () hanswer
    obtain ⟨x, -, hx⟩ := hpass _ free _ _ _ result hrun
    -- nobody else moves, so the configuration is still the one of the beginning
    have hsource : x.world.state.source = namedTwice.state.source := by
      refine hx.before.keep (J := fun y => y.world.state.source = namedTwice.state.source)
        (fun _ _ h => h.elim) (fun y w hw hy => ?_) rfl
      obtain ⟨lock, rfl⟩ := hw
      exact hy
    cases hfail : x.world.state.source.load with
    | error failure => exact (hx.refused failure hfail).2
    | ok ds =>
      have hheld : x.world.state.source.held? = some (twoVendors ++ twoVendors) := by
        rw [hsource]
        rfl
      have hgood := (((hload _ _).1 hheld).mp ⟨ds, hfail⟩).2
      exact absurd hgood (by decide)
  · obtain ⟨-, -, -, hkeeps⟩ := hsync .standard createdWorld.state.now (twoVendors.take 1)
      createdWorld.state.gateway.clusters createdWorld.state.shelf (by decide)
    exact (hkeeps step hstep "a" (by decide +kernel) (by decide)).1

end FederatedStorage.Deployment
