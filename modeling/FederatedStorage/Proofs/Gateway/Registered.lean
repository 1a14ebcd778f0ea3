import FederatedStorage.Proofs.Gateway.Clients
import FederatedStorage.Proofs.Gateway.History

/-!
# Owners are registered clusters

Records come from creations, from requests to take a resource for a cluster's, and from inventories,
and each of these looks its cluster up before. Clusters leave only when a whole pass loads a
configuration without them. A pass that is not cancelled then drops their records, whatever the
clients have answered; a cancelled one may leave them behind, and the next pass that is not
cancelled drops them.

## Main statements

* `Registered.conclude`, `Registered.closePass`, `registered_closePass`: what each change does.
* `owners_are_registered`: after every history, and after every pass that is not cancelled.
-/

namespace FederatedStorage

open Schedule

namespace Gateway

/-- **Every owner is a registered cluster.** -/
def Registered (g : Gateway) : Prop := ∀ r ∈ g.resources.all, r.clusterId ∈ g.clusters.ids

instance (g : Gateway) : Decidable (Registered g) :=
  inferInstanceAs (Decidable (∀ r ∈ g.resources.all, r.clusterId ∈ g.clusters.ids))

variable {g g' : Gateway} {opened : OpenPass} {inventories : List Inventory}
  {cancelled preserve : Bool}

theorem registered_iff :
    Registered g ↔ ∀ id r, g.resources.record? id = some r → r.clusterId ∈ g.clusters.ids := by
  refine ⟨fun h id r hr => h r (Ownership.mem_all_iff.mpr ?_), fun h r hr => ?_⟩
  · rw [Ownership.id_of_record? hr]
    exact hr
  · exact h r.id r (Ownership.mem_all_iff.mp hr)

namespace Registered

/-- It is a matter of clusters and owners only. -/
theorem congr (h : Registered g) (hclusters : g'.clusters = g.clusters)
    (hresources : g'.resources = g.resources) : Registered g' := by
  unfold Registered at h ⊢
  rw [hclusters, hresources]
  exact h

theorem own {r : Resource} (h : Registered g) (hr : r.clusterId ∈ g.clusters.ids) :
    Registered (g.own r) := by
  refine registered_iff.mpr fun id q hq => ?_
  have hq' : (g.resources.map r).record? id = some q := hq
  rw [Ownership.record?_map] at hq'
  split at hq'
  · cases hq'
    exact hr
  · exact registered_iff.mp h id q hq'

theorem disown (h : Registered g) (id : String) : Registered (g.disown id) := by
  refine registered_iff.mpr fun x q hq => ?_
  have hq' : (g.resources.unmap id).record? x = some q := hq
  rw [Ownership.record?_unmap] at hq'
  split at hq'
  · cases hq'
  · exact registered_iff.mp h x q hq'

/-- **An answer from a registered cluster** leaves only registered owners, whatever it is. -/
theorem conclude {clusterId : String} (h : Registered g) (hc : clusterId ∈ g.clusters.ids)
    (c : Call) (answer : Except Failure c.Answer) :
    Registered (g.conclude clusterId c answer).1 := by
  cases answer with
  | error failure => exact h.congr rfl rfl
  | ok a =>
    cases c with
    | createVolume r => exact (h.own hc).congr rfl rfl
    | createSnapshot r => exact (h.own hc).congr rfl rfl
    | deleteVolume id => exact (h.disown id).congr rfl rfl
    | deleteSnapshot id => exact (h.disown id).congr rfl rfl
    | _ => exact h.congr rfl rfl

theorem beginResync {r : Resync} {target : Target} (h : Registered g)
    (hbegin : g.beginResync r = .ok (target, g')) : Registered g' := by
  rcases Deployment.beginResync_cases g r with ⟨failure, hfail⟩ | ⟨x, hok, hclient⟩
  · rw [hfail] at hbegin
    cases hbegin
  · rw [hok] at hbegin
    cases hbegin
    exact h.own (ClusterRegistry.mem_ids_of_clientOf hclient)

theorem endResync (h : Registered g) (r : Resync) (verified : Except Failure Unit) :
    Registered (g.endResync r verified).1 := by
  unfold Gateway.endResync
  cases verified with
  | ok _ => exact h
  | error failure =>
    by_cases hnot : failure.isNotFound = true
    · simp only [hnot, if_true]
      split
      · exact h.disown r.resourceId
      · exact h
    · simp only [hnot]
      exact h

/-- **The closing of a pass**, cancelled or not, adds only records of the clusters it has asked. -/
theorem closePass (h : Registered g)
    (hasked : ∀ i ∈ inventories, ∀ r ∈ i.resources, r.clusterId ∈ g.clusters.ids) :
    Registered (g.closePass opened inventories cancelled preserve).1 := by
  rw [closePass_fst]
  refine registered_iff.mpr fun id r hr => ?_
  have hfound := takenOver_of_leftOwners hr
  rcases takenOver_cases g.resources inventories id with
    ⟨-, hsame⟩ | ⟨i, hi, -, q, hq, -, hrec, -⟩
  · exact registered_iff.mp h id r (hsame ▸ hfound)
  · rw [hrec] at hfound
    cases hfound
    exact hasked i hi _ hq

theorem quiet {v w : World Deployment} (h : Registered v.state.gateway)
    (hw : Deployment.Quiet v w) : Registered w.state.gateway := h.congr hw.clusters hw.resources

end Registered

/-- **The closing of a pass that is not cancelled** leaves only registered owners, whoever owned what
before: all records of other clusters are stale. -/
theorem registered_closePass (hmanaged : ∀ c ∈ opened.managed, c ∈ g.clusters.ids)
    (hnot : (g.closePass opened inventories cancelled preserve).2.cancelled = false) :
    Registered (g.closePass opened inventories cancelled preserve).1 := by
  rw [closePass_snd] at hnot
  rw [closePass_fst]
  refine registered_iff.mpr fun id r hr => hmanaged _ ?_
  have hleft : (leftOwners g.resources opened inventories cancelled preserve).record? id =
      some r := hr
  rw [record?_leftOwners hnot] at hleft
  obtain ⟨-, hfresh⟩ := Option.filter_eq_some_iff.mp hleft
  by_contra hm
  rw [isStale_iff.mpr (Or.inl hm)] at hfresh
  cases hfresh

end Gateway

namespace Deployment

open Gateway

variable {V : Clients} {b : Bound} {v w : World Deployment} {α : Type}

/-! ## Among quiet others -/

/-- Others who leave clusters, owners and settings alone. -/
def amidQuiet : Drift Deployment := ⟨Quiet, Quiet.refl, Quiet.trans⟩

/-- A quiet activity among quiet others leads to a world like the one it began in. -/
theorem leads_quiet {P : α → Prop} {p : Work α} (h : Safe quietly P p w) :
    Leads amidQuiet (fun a w' => P a ∧ Quiet w w') p w :=
  Leads.of_safe (fun _ _ hv hw => ⟨trivial, hv.trans hw⟩) (fun _ _ hv hw => hv.trans hw)
    (Quiet.refl w) h

/-- **Alone among those that hold the lock** an activity leads to what it leads to anyway, if the
lock does not matter to that. -/
theorem alone_leads_amidQuiet {Q : α → World Deployment → Prop} {p : Work α}
    (hQ : ∀ a u v, Q a u → Quiet u v → Q a v) (hp : ∀ v, Quiet w v → Leads amidQuiet Q p v) :
    Leads amidQuiet Q (alone p) w := by
  have hlock : ∀ (x : World Deployment) (lock : PassLock),
      Quiet x (x.modify fun d => { d with lock := lock }) := fun _ _ => ⟨rfl, rfl, rfl⟩
  unfold alone
  refine Leads.step_bind fun w1 h1 => ?_
  -- the turn comes at some time, until when only the lock has changed
  intro w2 h2 _
  have hbefore : Quiet w w2 := (h1.trans (hlock w1 _)).trans h2
  show Leads _ _ (p.bind _) w2
  refine Leads.bind (fun a w3 h3 => ?_) (hp w2 hbefore)
  refine Leads.step fun w4 h4 w5 h5 => ?_
  exact hQ a w3 w5 h3 ((h4.trans (hlock w4 _)).trans h5)

/-! ## Requests -/

theorem perform_registered (c : Call) (h : Registered w.state.gateway) :
    Leads amidQuiet (fun _ w' => Registered w'.state.gateway) (V.perform b c) w := by
  refine Leads.step_bind fun w1 h1 => ?_
  obtain ⟨hclusters, hresources⟩ := accept_quiet w1.state.gateway c
  have haccepted : Registered (accepting w1 c).state.gateway :=
    (h.quiet h1).congr hclusters hresources
  dsimp only
  cases htarget : (w1.state.gateway.accept c).1 with
  | error failure =>
    refine Leads.step fun w2 h2 w3 h3 => Registered.quiet ?_ h3
    exact (haccepted.quiet h2).congr rfl rfl
  | ok target =>
    have hclient : (accepting w1 c).state.gateway.clusters.clientOf target.clusterId =
        .ok target.client := by
      show (w1.state.gateway.accept c).2.clusters.clientOf target.clusterId = _
      rw [hclusters]
      exact accept_ok htarget
    have hmem := ClusterRegistry.mem_ids_of_clientOf hclient
    refine Leads.bind (fun answer w2 h2 => ?_)
      (leads_quiet (w := accepting w1 c) Clients.called_quiet)
    refine Leads.step fun w3 h3 w4 h4 => Registered.quiet ?_ h4
    have hquiet : Quiet (accepting w1 c) w3 := h2.2.trans h3
    refine (haccepted.quiet hquiet).conclude ?_ c answer
    rw [hquiet.clusters]
    exact hmem

/-- **A request leaves only registered owners.** -/
theorem work_registered (r : Request) (h : Registered w.state.gateway) :
    Leads amidQuiet (fun _ w' => Registered w'.state.gateway) (V.work b r) w := by
  have hread : ∀ {β : Type} {p : Work β}, Safe quietly (fun _ => True) p w →
      Leads amidQuiet (fun _ w' => Registered w'.state.gateway) p w :=
    fun hp => (leads_quiet hp).mono fun _ _ hw => h.quiet hw.2
  cases r with
  | call c => exact perform_registered c h
  | list kind => exact hread (Clients.listAll_quiet kind)
  | health => exact hread Clients.health_quiet
  | status => exact hread (status_safe quietly_note)

/-- **Taking a resource for a cluster's** leaves only registered owners. -/
theorem resync_registered (r : Resync) (h : Registered w.state.gateway) :
    Leads amidQuiet (fun _ w' => Registered w'.state.gateway) (V.resync b r) w := by
  refine Leads.step_bind fun w1 h1 => ?_
  have h1' := h.quiet h1
  cases hbegin : w1.state.gateway.beginResync r with
  | error failure =>
    simp only [hbegin]
    refine Leads.step fun w2 h2 w3 h3 => Registered.quiet ?_ h3
    exact (Registered.quiet (v := w1) h1' h2).congr rfl rfl
  | ok begun =>
    obtain ⟨target, g⟩ := begun
    simp only [hbegin]
    have hbegun : Registered g := h1'.beginResync hbegin
    refine Leads.bind (fun verified w2 h2 => ?_)
      (leads_quiet (Safe.run (fun _ _ _ _ => trivial) (Clients.verify_quiet target.client r)))
    refine Leads.step fun w3 h3 w4 h4 => Registered.quiet ?_ h4
    have hquiet := h2.2.trans h3
    exact ((Registered.quiet hbegun hquiet).endResync r verified).congr rfl rfl

/-! ## Passes -/

/-- **What a pass does for the owners**: if it is not cancelled they are registered, and they stay
so if it is. -/
structure Mends (before : Gateway) (report : ResourceSyncReport) (w : World Deployment) : Prop where
  uncancelled : report.cancelled = false → Registered w.state.gateway
  kept : Registered before → Registered w.state.gateway

theorem Mends.congr {g : Gateway} {report : ResourceSyncReport} (h : Mends g report v)
    (hclusters : w.state.gateway.clusters = v.state.gateway.clusters)
    (hresources : w.state.gateway.resources = v.state.gateway.resources) : Mends g report w :=
  ⟨fun hnot => (h.uncancelled hnot).congr hclusters hresources,
    fun hg => (h.kept hg).congr hclusters hresources⟩

/-- An inventory has only records of the cluster that was asked. -/
theorem fetchInventory_asked (clusterId : String) :
    Safe quietly (fun i : Inventory => ∀ r ∈ i.resources, r.clusterId = clusterId)
      (V.fetchInventory b clusterId) w := by
  refine Safe.follow fun v _ => ?_
  cases v.state.gateway.targetOf clusterId with
  | error failure => exact fun r hr => absurd hr List.not_mem_nil
  | ok target =>
    have hboth := Safe.both (V.list_safe b target.client .volume v)
      (V.list_safe b target.client .snapshot v)
    refine Safe.bind (Q := fun _ => True) (fun listed _ _ => ?_)
      (Safe.run (fun _ _ _ _ => trivial) (hboth.mono fun _ _ => trivial))
    intro r hr
    cases listed with
    | error failure => exact absurd hr List.not_mem_nil
    | ok l =>
      rcases mem_inventoryOf.mp hr with ⟨x, -, rfl⟩ | ⟨x, -, rfl⟩
      · rfl
      · rfl

theorem gather_asked (opened : OpenPass) :
    Safe quietly (List.Forall₂ (fun c (i : Inventory) => ∀ r ∈ i.resources, r.clusterId = c)
      opened.managed) (V.gather b opened) w :=
  Safe.all fun c _ => fetchInventory_asked c

/-- **The resources' part of a pass** among quiet others. -/
theorem syncResources_mends :
    Leads amidQuiet (Mends w.state.gateway) (V.syncResources b) w := by
  refine Leads.look_bind fun w1 h1 => ?_
  refine Leads.bind (fun inventories w2 h2 => ?_) (leads_quiet (gather_asked _))
  refine Leads.step fun w3 h3 w4 h4 => ?_
  obtain ⟨hasked, h2⟩ := h2
  have hquiet : Quiet w1 w3 := h2.trans h3
  have hmanaged : w1.state.gateway.openPass.managed = w3.state.gateway.clusters.ids := by
    rw [← hquiet.openPass]
    rfl
  refine Mends.congr ⟨fun hnot => ?_, fun hbefore => ?_⟩ h4.clusters h4.resources
  · exact registered_closePass (fun c hc => hmanaged ▸ hc) hnot
  · refine (hbefore.quiet (h1.trans hquiet)).closePass fun i hi r hr => ?_
    obtain ⟨c, hc, hi⟩ := exists_of_mem_left hasked.flip i hi
    rw [hi r hr, ← hmanaged]
    exact hc

theorem resyncAll_mends : Leads amidQuiet (Mends w.state.gateway) (V.resyncAll b) w := by
  have halone : Leads amidQuiet (Mends w.state.gateway) (alone (V.syncResources b)) w := by
    refine alone_leads_amidQuiet (fun _ _ _ h hw => h.congr hw.clusters hw.resources) fun v hv => ?_
    refine syncResources_mends.mono fun report x hx => ⟨hx.uncancelled, fun hbefore => ?_⟩
    exact hx.kept (hbefore.quiet hv)
  refine Leads.bind (fun report w1 h1 => ?_) halone
  refine Leads.step fun w2 h2 w3 h3 => ?_
  exact (h1.congr h2.clusters h2.resources).congr h3.clusters h3.resources

/-- What a whole pass does for the owners. One with a configuration that is no good does nothing. -/
def MendsAll (before : Gateway) (result : Except Failure PassReport) (w : World Deployment) : Prop :=
  match result with
  | .ok report => report.resources.cancelled = false → Registered w.state.gateway
  | .error _ => Registered before → Registered w.state.gateway

theorem MendsAll.congr {g : Gateway} {result : Except Failure PassReport} (h : MendsAll g result v)
    (hclusters : w.state.gateway.clusters = v.state.gateway.clusters)
    (hresources : w.state.gateway.resources = v.state.gateway.resources) : MendsAll g result w := by
  cases result with
  | ok report => exact fun hnot => Registered.congr (h hnot) hclusters hresources
  | error failure => exact fun hg => Registered.congr (h hg) hclusters hresources

/-- **A whole pass** among quiet others. -/
theorem reconcile_mends : Leads amidQuiet (MendsAll w.state.gateway) (V.reconcile b) w := by
  refine alone_leads_amidQuiet (fun _ _ _ h hw => h.congr hw.clusters hw.resources) fun v hv => ?_
  refine Leads.look_bind fun w1 h1 => Leads.step_bind fun w2 h2 => ?_
  cases hload : w2.state.source.load with
  | error failure =>
    simp only [hload]
    refine Leads.done fun w3 h3 hbefore => ?_
    exact hbefore.quiet (((hv.trans h1).trans h2).trans h3)
  | ok ds =>
    simp only [hload]
    refine Leads.bind (fun report w3 h3 => ?_) syncResources_mends
    refine Leads.step fun w4 h4 w5 h5 hnot => ?_
    have hclosed : Registered w4.state.gateway := (h3.uncancelled hnot).quiet h4
    refine Registered.quiet ?_ h5
    exact hclosed.congr rfl rfl

theorem reload_mends : Leads amidQuiet (MendsAll w.state.gateway) (V.reload b) w := by
  refine Leads.bind (fun result w1 h1 => ?_) reconcile_mends
  refine Leads.step fun w2 h2 w3 h3 => ?_
  exact (h1.congr h2.clusters h2.resources).congr h3.clusters h3.resources

/-! ## Histories -/

/-- Beside the only call happens what leaves clusters, owners and settings alone. -/
def Quietly (x y : Scene Deployment Unit) : Prop := Quiet x.world y.world

/-- Whether a whole pass reports that it was cancelled. -/
def wasCalledOff : Except Failure PassReport → Bool
  | .ok report => report.resources.cancelled
  | .error _ => false

/-- **One completed call**, of clients of any kind, or what happens between two: anything that leaves
clusters, owners and settings alone, such as a change of the configuration. No whole pass reports
that it was cancelled. -/
inductive Served : World Deployment → World Deployment → Prop
  | request {v w : World Deployment} (V : Clients) (b : Bound) (r : Request)
      {t : List (Scene Deployment Unit)} {answer : r.Answer}
      (h : Runs Quietly (V.work b r) ⟨v, ()⟩ t (.done answer) ⟨w, ()⟩) : Served v w
  | resync {v w : World Deployment} (V : Clients) (b : Bound) (r : Resync)
      {t : List (Scene Deployment Unit)} {answer : Except Failure ResyncAnswer}
      (h : Runs Quietly (V.resync b r) ⟨v, ()⟩ t (.done answer) ⟨w, ()⟩) : Served v w
  | resyncAll {v w : World Deployment} (V : Clients) (b : Bound)
      {t : List (Scene Deployment Unit)} {report : ResourceSyncReport}
      (h : Runs Quietly (V.resyncAll b) ⟨v, ()⟩ t (.done report) ⟨w, ()⟩) : Served v w
  | reload {v w : World Deployment} (V : Clients) (b : Bound)
      {t : List (Scene Deployment Unit)} {result : Except Failure PassReport}
      (h : Runs Quietly (V.reload b) ⟨v, ()⟩ t (.done result) ⟨w, ()⟩)
      (hnot : wasCalledOff result = false) : Served v w
  | between {v w : World Deployment} (h : Quiet v w) : Served v w

/-- **A completed call leaves only registered owners.** -/
theorem served_registered (h : Registered v.state.gateway) (hcall : Served v w) :
    Registered w.state.gateway := by
  cases hcall with
  | request V b r hrun => exact Leads.of_runs hrun (fun _ _ hxy => hxy) (work_registered r h)
  | resync V b r hrun => exact Leads.of_runs hrun (fun _ _ hxy => hxy) (resync_registered r h)
  | resyncAll V b hrun =>
    exact (Leads.of_runs hrun (fun _ _ hxy => hxy) resyncAll_mends).kept h
  | @reload V b t result hrun hnot =>
    have hend := Leads.of_runs hrun (fun _ _ hxy => hxy) reload_mends
    cases result with
    | ok report => exact hend hnot
    | error failure => exact hend h
  | between hw => exact h.quiet hw

/-- **Every owner is a registered cluster.** This is so after every history of a gateway that starts
empty, in which no whole pass reports that it was cancelled. And whatever the owners are, a whole
pass, or the resources' part of one, that is not cancelled and is not interleaved with others who
touch clusters or owners makes it so. The clients may answer what they like, then as in the history.
-/
theorem owners_are_registered :
    (∀ (seed : UInt64) (v w : World Deployment), v.state.gateway = .new seed →
      Relation.ReflTransGen Served v w → Registered w.state.gateway) ∧
    ∀ {ε : Type} (moves : Scene Deployment ε → Scene Deployment ε → Prop) (V : Clients) (b : Bound)
      (s s' : Scene Deployment ε) (t : List (Scene Deployment ε)),
      (∀ x y, moves x y → Quiet x.world y.world) →
        (∀ report, Runs moves (V.reload b) s t (.done (.ok report)) s' →
          report.resources.cancelled = false → Registered s'.world.state.gateway) ∧
        ∀ report, Runs moves (V.resyncAll b) s t (.done report) s' →
          report.cancelled = false → Registered s'.world.state.gateway := by
  refine ⟨fun seed v w hnew hcalls => ?_, fun moves V b s s' t hmoves => ⟨?_, ?_⟩⟩
  · have hstart : Registered v.state.gateway := by
      rw [hnew]
      exact fun r hr => absurd hr List.not_mem_nil
    induction hcalls with
    | refl => exact hstart
    | tail _ hcall ih => exact served_registered ih hcall
  · intro report hrun hnot
    exact Leads.of_runs hrun hmoves reload_mends hnot
  · intro report hrun hnot
    exact (Leads.of_runs hrun hmoves resyncAll_mends).uncancelled hnot

/-! ## A history -/

theorem served_reloading {ds : List ClusterDescriptor} {w : World Deployment}
    (h : (((reload free).advance (w.modify fun d => { d with source := .list ds })
      false).2.1.result?.map wasCalledOff) = some false) :
    Relation.ReflTransGen Served w (reloading w ds) := by
  obtain ⟨result, hresult, hnot⟩ := Option.map_eq_some_iff.mp h
  have hconfigured : Relation.ReflTransGen Served w
      (w.modify fun d => { d with source := .list ds }) := .single (.between ⟨rfl, rfl, rfl⟩)
  exact hconfigured.tail (.reload .arrays free (runs_of_result Quietly () hresult) hnot)

theorem served_createdWorld : Relation.ReflTransGen Served freshWorld createdWorld := by
  have hloaded : Relation.ReflTransGen Served freshWorld (reloading freshWorld twoVendors) :=
    served_reloading (by decide +kernel)
  have hanswer : (((Request.call (.createVolume ⟨"v", 1, .new, .empty, .empty⟩)).work free).advance
      (reloading freshWorld twoVendors) false).2.1.result?.isSome := by decide +kernel
  obtain ⟨answer, ha⟩ := Option.isSome_iff_exists.mp hanswer
  exact hloaded.tail (.request .arrays free _ (runs_of_result Quietly () ha))

/-- The clusters have left in a pass whose token was cancelled before. -/
def leftBehind : World Deployment :=
  doing ((createdWorld.modify fun d => { d with source := .list [] }).cancel ⟨[0]⟩)
    (reload ⟨⟨[0]⟩, none⟩)

/-- The volume of a cluster that has left in a cancelled pass is left behind. The next pass drops it,
whole or not. -/
theorem owners_are_registered_leftBehind :
    Registered createdWorld.state.gateway ∧ ¬ Registered leftBehind.state.gateway ∧
      Registered (doing leftBehind (reload free)).state.gateway ∧
      Registered (doing leftBehind (resyncAll free)).state.gateway := by
  refine ⟨owners_are_registered.1 2 freshWorld _ rfl served_createdWorld, by decide +kernel, ?_, ?_⟩
  · obtain ⟨hreload, -⟩ := owners_are_registered.2 Quietly .arrays free ⟨leftBehind, ()⟩
      ⟨doing leftBehind (reload free), ()⟩ _ fun _ _ hxy => hxy
    have hend : ((reload free).advance leftBehind false).2.1.result?.map
        (fun result => result.toOption.map fun report => report.resources.cancelled) =
          some (some false) := by decide +kernel
    obtain ⟨result, hresult, hreport⟩ := Option.map_eq_some_iff.mp hend
    cases result with
    | error failure => cases hreport
    | ok report =>
      exact hreload report (runs_of_result Quietly () hresult) (Option.some.inj hreport)
  · obtain ⟨-, hresync⟩ := owners_are_registered.2 Quietly .arrays free ⟨leftBehind, ()⟩
      ⟨doing leftBehind (resyncAll free), ()⟩ _ fun _ _ hxy => hxy
    have hend : ((resyncAll free).advance leftBehind false).2.1.result?.map
        ResourceSyncReport.cancelled = some false := by decide +kernel
    obtain ⟨report, hresult, hnot⟩ := Option.map_eq_some_iff.mp hend
    exact hresync report (runs_of_result Quietly () hresult) hnot

end Deployment

end FederatedStorage
