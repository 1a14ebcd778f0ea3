import FederatedStorage.Proofs.Gateway.Sequential

/-!
# Passes one after the other

A pass that nobody cancels and that has no deadline gets the inventory of every cluster with a
client, since loopback arrays always answer. Nothing else moves meanwhile, so the inventories are
what the clusters hold, and the pass brings the owners in line with that, whatever they were before.

## Main statements

* `gather_leads`: the inventories are what the clusters hold.
* `reload_leads`, `resyncAll_leads`: a pass leaves the gateway in step.
-/

namespace FederatedStorage.Deployment

open Schedule Gateway

variable {v w : World Deployment} {b : Bound} {token : Token} {spared : List Token} {c : String}
  {client : Client} {a : Loopback} {P : Deployment → Prop}

/-! ## Under way -/

/-- **A pass that is under way**: something holds, and its token is not cancelled. -/
structure Going (P : Deployment → Prop) (token : Token) (w : World Deployment) : Prop where
  state : P w.state
  uncancelled : w.isCancelled token = false

/-- What is still is still known as time passes. -/
theorem Going.drift (hP : ∀ {v w : World Deployment}, P v.state → Still v w → P w.state)
    (ht : token ∈ spared) (h : Going P token v) (hw : (meanwhile spared).may v w) :
    Going P token w :=
  ⟨hP h.state (Meanwhile.still hw), Meanwhile.uncancelled hw ht h.uncancelled⟩

/-- **Alone among those that hold the lock** an activity leaves the gateway in step if it does so
anyway. -/
theorem alone_leads {α : Type} {p : Work α} (ht : token ∈ spared)
    (hp : ∀ w, Going InStep token w →
      Leads (meanwhile spared) (fun _ w' => Going InStep token w') p w)
    (h : Going InStep token w) :
    Leads (meanwhile spared) (fun _ w' => Going InStep token w') (alone p) w := by
  have hlock : ∀ {v : World Deployment} (lock : PassLock), Going InStep token v →
      Going InStep token (v.modify fun d => { d with lock := lock }) :=
    fun lock hv => ⟨hv.state.still (.lock lock), hv.uncancelled⟩
  unfold alone
  refine Leads.step_bind fun w1 h1 => ?_
  have hentered := hlock w1.state.lock.enter.1 (h.drift InStep.still ht h1)
  -- the turn has come, whenever that is
  intro w2 h2 _
  show Leads _ _ (p.bind _) w2
  refine Leads.bind (fun a w3 h3 => ?_) (hp w2 (hentered.drift InStep.still ht h2))
  refine Leads.step fun w4 h4 w5 h5 => ?_
  exact (hlock w4.state.lock.leave (h3.drift InStep.still ht h4)).drift InStep.still ht h5

/-! ## Inventories -/

/-- What is known while a pass waits for inventories. -/
def Calling (token : Token) (v w : World Deployment) : Prop :=
  Still v w ∧ w.isCancelled token = false

/-- **A listing is what the array holds.** -/
theorem MayListIn.answer {kind : ResourceKind} {answer : Except Failure (List kind.Item)}
    (ha : v.state.shelf.loopback? client = some a)
    (h : MayListIn (during (Calling token v)) client kind answer) : answer = a.list kind := by
  obtain ⟨_, x, ⟨-, hx⟩, hlist⟩ := h
  have hget := Shelf.loopback?_eq_some.mp ((hx.1.loopbacks client).trans ha)
  unfold MayList at hlist
  rw [hget] at hlist
  exact hlist

/-- **An inventory is what its cluster holds.** -/
theorem MayFetch.held {i : Inventory} (hv : Ready v.state) (hdeadline : b.deadline = none)
    (h : MayFetch (during (Calling b.token v)) b c i) :
    i.clusterId = c ∧ i.wasCancelled = false ∧
      ∀ r, r ∈ i.resources ↔
        r.clusterId = c ∧ Held v.state.gateway.clusters v.state.shelf r := by
  have htarget : ∀ {x : World Deployment} {target : Target}, Still v x →
      x.state.gateway.targetOf c = .ok target →
        v.state.gateway.clusters.clientOf c = .ok target.client := by
    intro x target hx ht
    rw [← hx.clusters]
    exact (targetOf_ok ht).2
  cases h with
  | @missing u x failure hx hfail =>
    -- a cluster without a client holds nothing, and this is no cancellation
    have hnone : v.state.gateway.clusters.clientOf c = .error failure := by
      rw [← hx.2.1.clusters]
      exact targetOf_error hfail
    refine ⟨rfl, ?_, fun r => ⟨fun hr => absurd hr List.not_mem_nil, ?_⟩⟩
    · rcases ClusterRegistry.clientOf_error hnone with rfl | ⟨x, rfl⟩ <;> rfl
    · rintro ⟨rfl, client, a, hclient, -⟩
      rw [hnone] at hclient
      cases hclient
  | @listed u x target volumes snapshots hx ht hvolumes hsnapshots =>
    have hclient := htarget hx.2.1 ht
    obtain ⟨a, ha, -, htidy⟩ := hv.fleet.array hclient
    have hvol := hvolumes.answer ha
    have hsnap := hsnapshots.answer ha
    rw [htidy.list] at hvol hsnap
    cases hvol
    cases hsnap
    refine ⟨rfl, rfl, fun r => ?_⟩
    show r ∈ inventoryOf c a.volumes.values a.snapshots.values ↔ _
    rw [mem_inventoryOf]
    constructor
    · rintro (⟨x, hx, rfl⟩ | ⟨s, hs, rfl⟩)
      · exact ⟨rfl, (held_iff hclient ha).mpr (htidy.exists_volume_iff.mp ⟨x, hx, rfl⟩)⟩
      · exact ⟨rfl, (held_iff hclient ha).mpr (htidy.exists_snapshot_iff.mp ⟨s, hs, rfl⟩)⟩
    · rintro ⟨rfl, hr⟩
      have hholds := (held_iff hclient ha).mp hr
      obtain ⟨id, clusterId, kind⟩ := r
      cases kind with
      | volume =>
        obtain ⟨x, hx, hid⟩ := htidy.exists_volume_iff.mpr hholds
        exact Or.inl ⟨x, hx, by rw [hid]⟩
      | snapshot =>
        obtain ⟨s, hs, hid⟩ := htidy.exists_snapshot_iff.mpr hholds
        exact Or.inr ⟨s, hs, by rw [hid]⟩
  | @failed u x target kind failure hx ht hkind =>
    -- a tidy array does not fail to list
    have hclient := htarget hx.2.1 ht
    obtain ⟨a, ha, -, htidy⟩ := hv.fleet.array hclient
    have hanswer := hkind.answer ha
    rw [htidy.list] at hanswer
    cases hanswer
  | @stopped u x y z target hx ht hz hstop operation =>
    -- neither a time for inventories nor a deadline nor a cancellation can have stopped this
    have hinterrupts := hstop trivial
    have hsettings : x.state.settings = ⟨false, none⟩ := hx.2.1.settings.trans hv.settings
    unfold inventoryBound Bound.interrupts Bound.hasPassed at hinterrupts
    simp [hsettings, hdeadline, hz.2.2] at hinterrupts

/-- **All inventories come, and are what the clusters hold.** -/
theorem gather_leads (hdeadline : b.deadline = none) (ht : b.token ∈ spared)
    (h : Going Ready b.token w) :
    Leads (meanwhile spared)
      (fun inventories w' => List.Forall₂ (fun c (i : Inventory) => i.clusterId = c ∧
        i.wasCancelled = false ∧ ∀ r, r ∈ i.resources ↔
          r.clusterId = c ∧ Held w.state.gateway.clusters w.state.shelf r)
        w.state.gateway.clusters.ids inventories ∧ Calling b.token w w')
      (gather b w.state.gateway.openPass) w := by
  have hsafe := gather_safe (b := b) (w := w) (during_dial (Calling b.token w))
    w.state.gateway.openPass
  have hleads := Leads.of_safe (D := meanwhile spared) (J := Calling b.token w)
    (fun x y hx hy => ?_) (fun x y hx hy => ?_) ⟨.refl w, h.uncancelled⟩ hsafe
  · refine hleads.mono fun inventories w' hw' => ⟨hw'.1.imp fun c i hci => ?_, hw'.2⟩
    exact hci.held h.state hdeadline
  · have hstill : Still x y := Meanwhile.still hy
    have hcalling : Calling b.token w y :=
      ⟨hx.1.trans hstill, Meanwhile.uncancelled hy ht hx.2⟩
    exact ⟨⟨hstill, hcalling⟩, hcalling⟩
  · refine ⟨hx.1.trans hy.1, ?_⟩
    unfold World.isCancelled
    rw [hy.2]
    exact hx.2

/-! ## Passes -/

/-- **The resources' part of a pass** brings the gateway in step, whatever the owners were. -/
theorem syncResources_leads (hdeadline : b.deadline = none) (ht : b.token ∈ spared)
    (h : Going Ready b.token w) :
    Leads (meanwhile spared) (fun _ w' => Going InStep b.token w') (syncResources b) w := by
  refine Leads.look_bind fun w1 h1 => ?_
  have hgoing := h.drift Ready.still ht h1
  refine Leads.bind (fun inventories w2 h2 => ?_) (gather_leads hdeadline ht hgoing)
  obtain ⟨hinventories, hcalling⟩ := h2
  refine Leads.step fun w3 h3 => ?_
  have hw3 : Going Ready b.token w3 :=
    Going.drift Ready.still ht ⟨hgoing.state.still hcalling.1, hcalling.2⟩ h3
  have hstill : Still w1 w3 := hcalling.1.trans (Meanwhile.still h3)
  have hone : ∀ i ∈ inventories, i.clusterId ∈ w1.state.gateway.clusters.ids ∧
      i.wasCancelled = false ∧ ∀ r, r ∈ i.resources ↔
        r.clusterId = i.clusterId ∧ Held w3.state.gateway.clusters w3.state.shelf r := by
    intro i hi
    obtain ⟨c, hc, hic, hcancelled, hres⟩ := exists_of_mem_left hinventories.flip i hi
    refine ⟨hic ▸ hc, hcancelled, fun r => ?_⟩
    rw [hres r, hic, hstill.held_iff]
  -- the owners known at the opening are those at the closing, so the closing drops what is not held
  have hline : InLine (leftOwners w3.state.gateway.resources w1.state.gateway.openPass inventories
      (w3.isCancelled b.token) false) w3.state.gateway.clusters w3.state.shelf := by
    refine inLine_leftOwners hw3.state.fleet (fun i hi => (hone i hi).1)
      (fun i hi => (hone i hi).2.2) (fun r hr => ?_) (fun id r hr => ?_) ?_
    · obtain ⟨client, a, hclient, -⟩ := hr
      rw [hstill.clusters] at hclient
      obtain ⟨i, hi, hic, -⟩ :=
        exists_of_mem_left hinventories _ (ClusterRegistry.mem_ids_of_clientOf hclient)
      exact ⟨i, hi, hic⟩
    · rw [hstill.resources] at hr
      exact Ownership.mem_ids_iff.mpr ⟨r, hr⟩
    · rw [isInterrupted, hw3.uncancelled, Bool.false_or]
      exact List.any_eq_false.mpr fun i hi => by simp [(hone i hi).2.1]
  have hend : Going InStep b.token
      (takeOver b w1.state.gateway.openPass inventories w3).1 := by
    simp only [takeOver, closePass_fst]
    refine ⟨hw3.state.inStep rfl ?_, hw3.uncancelled⟩
    rw [hw3.state.settings]
    exact hline
  exact fun w4 h4 => hend.drift InStep.still ht h4

/-- A whole pass leaves the gateway in step, and so does one with a configuration that is no good.
-/
theorem reconcile_leads (hdeadline : b.deadline = none) (ht : b.token ∈ spared)
    (h : Going InStep b.token w) :
    Leads (meanwhile spared) (fun _ w' => Going InStep b.token w') (reconcile b) w := by
  refine alone_leads ht (fun w hw => ?_) h
  refine Leads.look_bind fun w1 h1 => Leads.step_bind fun w2 h2 => ?_
  have hw2 := (hw.drift InStep.still ht h1).drift InStep.still ht h2
  cases hload : w2.state.source.load with
  | error failure =>
    simp only [hload]
    exact Leads.done fun w3 h3 => hw2.drift InStep.still ht h3
  | ok ds =>
    simp only [hload]
    have hplain := hw2.state.source ds hload
    have hfleet : Fleet (syncClusters .standard w2.state.now ds _ _).clusters _ :=
      hw2.state.fleet.syncClusters hplain
    rw [← hw2.state.factory] at hfleet
    refine Leads.bind (fun report w3 h3 => ?_) (syncResources_leads hdeadline ht
      ⟨⟨hw2.state.factory, hw2.state.settings, hw2.state.source, hfleet⟩, hw2.uncancelled⟩)
    refine Leads.step fun w4 h4 w5 h5 => ?_
    have hw4 := h3.drift InStep.still ht h4
    refine Going.drift InStep.still ht ?_ h5
    exact ⟨hw4.state.note rfl rfl, hw4.uncancelled⟩

/-- **A whole pass that somebody asks for leaves the gateway in step.** -/
theorem reload_leads (hdeadline : b.deadline = none) (ht : b.token ∈ spared)
    (h : Going InStep b.token w) :
    Leads (meanwhile spared) (fun _ w' => InStep w'.state) (reload b) w := by
  refine Leads.bind (fun result w1 h1 => ?_) (reconcile_leads hdeadline ht h)
  refine Leads.step fun w2 h2 w3 h3 => InStep.drift ?_ h3
  exact (h1.state.drift h2).note rfl rfl

/-- **The resources' part of a pass that somebody asks for leaves the gateway in step.** -/
theorem resyncAll_leads (hdeadline : b.deadline = none) (ht : b.token ∈ spared)
    (h : Going InStep b.token w) :
    Leads (meanwhile spared) (fun _ w' => InStep w'.state) (resyncAll b) w := by
  have halone := alone_leads (p := syncResources b) ht
    (fun w hw => syncResources_leads hdeadline ht ⟨hw.state.toReady, hw.uncancelled⟩) h
  refine Leads.bind (fun report w1 h1 => ?_) halone
  refine Leads.step fun w2 h2 w3 h3 => InStep.drift ?_ h3
  exact (h1.state.drift h2).note rfl rfl

end FederatedStorage.Deployment
