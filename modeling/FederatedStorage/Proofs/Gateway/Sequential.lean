import FederatedStorage.Proofs.Gateway.Callers
import FederatedStorage.Proofs.Gateway.Fleet
import FederatedStorage.Proofs.Schedule.Leads

/-!
# Calls one after the other

If no two calls overlap, nothing happens beside a call but that time passes and tokens are
cancelled. Then every call that keeps the clusters a fleet also keeps the owners in line with it.

## Main statements

* `request_leads`: calls and reads.
* `resync_leads`: a resource is taken for the cluster that holds it, or is held nowhere.
-/

namespace FederatedStorage

open Schedule Gateway

/-- **A plain source** gives plain descriptors, or is no good. -/
def ClusterSource.IsPlain (source : ClusterSource) : Prop :=
  ∀ ds, source.load = .ok ds → ∀ d ∈ ds, d.IsPlain

namespace Deployment

variable {u v w : World Deployment} {d : Deployment} {b : Bound} {token : Token}
  {spared : List Token}

/-! ## Between the steps of the only call -/

/-- **What happens beside the only call**: time passes, and tokens are cancelled, but for some that
are spared. -/
structure Meanwhile (spared : List Token) (v w : World Deployment) : Prop where
  clock : v.clock ≤ w.clock
  cancelled : ∀ t, v.isCancelled t = true → w.isCancelled t = true
  spared : ∀ t ∈ spared, v.isCancelled t = false → w.isCancelled t = false
  state : w.state = { v.state with now := w.state.now }

/-- Time passes and tokens are cancelled. -/
def meanwhile (spared : List Token) : Drift Deployment where
  may := Meanwhile spared
  refl _ := ⟨Nat.le_refl _, fun _ h => h, fun _ _ h => h, rfl⟩
  trans h1 h2 := by
    refine ⟨Nat.le_trans h1.clock h2.clock, fun t h => h2.cancelled t (h1.cancelled t h),
      fun t ht h => h2.spared t ht (h1.spared t ht h), ?_⟩
    rw [h2.state, h1.state]

/-- **Clusters, owners and loopback arrays are as they were**, and so is what they are made of. -/
structure Still (v w : World Deployment) : Prop extends Quiet v w where
  factory : w.state.factory = v.state.factory
  source : w.state.source = v.state.source
  kept : w.state.shelf.kept = v.state.shelf.kept
  loopbacks : ∀ x, w.state.shelf.loopback? x = v.state.shelf.loopback? x
  clock : v.clock ≤ w.clock
  cancelled : ∀ t, v.isCancelled t = true → w.isCancelled t = true

namespace Still

theorem refl (w : World Deployment) : Still w w :=
  ⟨.refl w, rfl, rfl, rfl, fun _ => rfl, Nat.le_refl _, fun _ h => h⟩

theorem trans (h1 : Still u v) (h2 : Still v w) : Still u w :=
  ⟨h1.toQuiet.trans h2.toQuiet, h2.factory.trans h1.factory, h2.source.trans h1.source,
    h2.kept.trans h1.kept, fun x => (h2.loopbacks x).trans (h1.loopbacks x),
    Nat.le_trans h1.clock h2.clock, fun t h => h2.cancelled t (h1.cancelled t h)⟩

theorem note {g : Gateway} (hclusters : g.clusters = w.state.gateway.clusters)
    (hresources : g.resources = w.state.gateway.resources) :
    Still w (w.modify fun d => { d with gateway := g }) :=
  ⟨⟨hclusters, hresources, rfl⟩, rfl, rfl, rfl, fun _ => rfl, Nat.le_refl _, fun _ h => h⟩

theorem lock (lock : PassLock) : Still w (w.modify fun d => { d with lock := lock }) :=
  ⟨⟨rfl, rfl, rfl⟩, rfl, rfl, rfl, fun _ => rfl, Nat.le_refl _, fun _ h => h⟩

end Still

theorem Meanwhile.still (h : Meanwhile spared v w) : Still v w := by
  refine ⟨⟨?_, ?_, ?_⟩, ?_, ?_, ?_, fun x => ?_, h.clock, h.cancelled⟩ <;> rw [h.state]

/-- Time passes in scenes of which something is known. -/
def during (I : World Deployment → Prop) : Rely Deployment where
  others v w := Still v w ∧ I w
  own v w := Still v w ∧ w.cancelled = v.cancelled
  attentive := True
  others_trans h1 h2 := ⟨h1.1.trans h2.1, h2.2⟩
  own_refl w := ⟨.refl w, rfl⟩
  own_others h1 h2 := ⟨h1.1.trans h2.1, h2.2⟩
  clock_le _ _ _ h := h.1.clock
  cancelled _ _ _ _ h := h.1.cancelled _

/-- Remote arrays may take turns: no loopback array changes. -/
theorem during_dial (I : World Deployment → Prop) : LetsDial (during I) := by
  intro u v client r r' _ hr
  refine ⟨⟨⟨rfl, rfl, rfl⟩, rfl, rfl, rfl, fun x => ?_, Nat.le_refl _, fun _ h => h⟩, rfl⟩
  have hlt : client.place < v.state.shelf.backends.length := (List.getElem?_eq_some_iff.mp hr).1
  show (v.state.shelf.set client (.remote r')).loopback? x = v.state.shelf.loopback? x
  unfold Shelf.loopback? Shelf.get? Shelf.set
  by_cases hx : client.place = x.place
  · have hold : v.state.shelf.backends[x.place]? = some (.remote r) := hx ▸ hr
    rw [hold, ← hx, List.getElem?_set_self hlt]
  · rw [List.getElem?_set_ne hx]

theorem during_note (I : World Deployment → Prop) : LetsNote (during I) :=
  fun _ _ hclusters hresources => ⟨.note hclusters hresources, rfl⟩

/-! ## In step -/

/-- A gateway over the built-in vendors that spares nobody, and whose clusters are a fleet. -/
structure Ready (d : Deployment) : Prop where
  factory : d.factory = .standard
  settings : d.settings = ⟨false, none⟩
  source : d.source.IsPlain
  fleet : Fleet d.gateway.clusters d.shelf

/-- **The gateway is in step with its arrays**: besides, the owners are what the clusters hold. -/
structure InStep (d : Deployment) : Prop extends Ready d where
  inLine : InLine d.gateway.resources d.gateway.clusters d.shelf

/-- What is held depends on the loopback arrays only. -/
theorem Still.held_iff (h : Still v w) {r : Resource} :
    Held w.state.gateway.clusters w.state.shelf r ↔
      Held v.state.gateway.clusters v.state.shelf r := by
  unfold Held
  simp only [h.clusters, h.loopbacks]

theorem Ready.still (hd : Ready v.state) (h : Still v w) : Ready w.state := by
  refine ⟨h.factory.trans hd.factory, h.settings.trans hd.settings, h.source ▸ hd.source, ?_, ?_⟩
  · rw [h.clusters, h.kept]
    exact hd.fleet.ofClient
  · rw [h.kept]
    simp only [h.loopbacks]
    exact hd.fleet.ofKept

theorem InStep.still (hd : InStep v.state) (h : Still v w) : InStep w.state := by
  refine ⟨hd.toReady.still h, fun r => ?_⟩
  rw [h.resources, h.held_iff]
  exact hd.inLine r

/-- The gateway is in step once its owners are in line. -/
theorem Ready.inStep (h : Ready d) {g : Gateway} (hclusters : g.clusters = d.gateway.clusters)
    (hline : InLine g.resources d.gateway.clusters d.shelf) : InStep { d with gateway := g } := by
  refine ⟨⟨h.factory, h.settings, h.source, ?_⟩, ?_⟩
  · show Fleet g.clusters d.shelf
    rw [hclusters]
    exact h.fleet
  · show InLine g.resources g.clusters d.shelf
    rw [hclusters]
    exact hline

/-- Notes of the gateway keep it in step. -/
theorem InStep.note (h : InStep d) {g : Gateway} (hclusters : g.clusters = d.gateway.clusters)
    (hresources : g.resources = d.gateway.resources) : InStep { d with gateway := g } :=
  h.toReady.inStep hclusters (hresources ▸ h.inLine)

/-- The gateway stays in step as time passes. -/
theorem InStep.drift (h : InStep v.state) (hw : (meanwhile spared).may v w) : InStep w.state :=
  h.still (Meanwhile.still hw)

/-! ## Reads -/

/-- **A read leaves the gateway in step.** -/
theorem read_leads {α : Type} {p : Work α}
    (hp : Safe (during fun _ => True) (fun _ => True) p w) (h : InStep w.state) :
    Leads (meanwhile spared) (fun _ w' => InStep w'.state) p w :=
  (Leads.of_safe (R := during fun _ => True) (J := fun w => InStep w.state)
    (fun _ _ hJ hw => ⟨⟨Meanwhile.still hw, trivial⟩, hJ.still (Meanwhile.still hw)⟩)
    (fun _ _ hJ hw => hJ.still hw.1) h hp).mono fun _ _ h => h.2

/-! ## Calls about one resource -/

variable {client : Client} {a next : Loopback}

/-- The world after a loopback array has been replaced. -/
def serving (w : World Deployment) (client : Client) (next : Loopback) : World Deployment :=
  withShelf w (w.state.shelf.set client (.loopback next))

/-- Replacing an array before or after the world has drifted comes to the same. -/
theorem Still.serving (h : Still v w) (ha : v.state.shelf.loopback? client = some a)
    (next : Loopback) : Still (serving v client next) (serving w client next) := by
  refine ⟨⟨h.clusters, h.resources, h.settings⟩, h.factory, h.source, h.kept, fun x => ?_, h.clock,
    h.cancelled⟩
  show (w.state.shelf.set client _).loopback? x = (v.state.shelf.set client _).loopback? x
  rw [Shelf.loopback?_set ha, Shelf.loopback?_set ((h.loopbacks client).trans ha), h.loopbacks]

/-- Replacing an array by itself changes nothing. -/
theorem Still.serving_same (ha : v.state.shelf.loopback? client = some a) :
    Still v (Deployment.serving v client a) := by
  refine ⟨⟨rfl, rfl, rfl⟩, rfl, rfl, rfl, fun x => ?_, Nat.le_refl _, fun _ h => h⟩
  show (v.state.shelf.set client _).loopback? x = v.state.shelf.loopback? x
  rw [Shelf.loopback?_set ha]
  by_cases hx : x = client
  · rw [if_pos hx, hx, ha]
  · rw [if_neg hx]

/-- **Asking a loopback array within a bound**: the array does what it does, unless the token is
cancelled already. -/
theorem callArray_leads {α : Type} {operation : String} {c : Call}
    {f : Except Failure c.Answer → Except Failure α}
    (ha : w.state.shelf.loopback? client = some a) :
    Leads (meanwhile spared)
      (fun answer w' =>
        (∃ v, Meanwhile spared w v ∧ v.isCancelled b.token = true ∧ Still w w' ∧
          ∃ failure, answer = .error failure) ∨
        ∃ now, answer = f (a.perform now c).2 ∧ Still (serving w client (a.perform now c).1) w')
      (b.run operation ((callArray b client c).map f)) w := by
  refine Leads.follow fun w1 h1 => ?_
  have hs1 : Still w w1 := Meanwhile.still h1
  by_cases hcancelled : w1.isCancelled b.token = true
  · rw [if_pos hcancelled]
    refine Leads.done fun w2 h2 => Or.inl ⟨w1, h1, hcancelled, ?_, _, rfl⟩
    exact hs1.trans (Meanwhile.still h2)
  · rw [if_neg hcancelled]
    -- the array is looked up and then asked, and both times it is the one of the beginning
    intro w2 h2
    have hs2 : Still w w2 := hs1.trans (Meanwhile.still h2)
    have hget2 : w2.state.shelf.get? client = some (.loopback a) :=
      Shelf.loopback?_eq_some.mp ((hs2.loopbacks client).trans ha)
    simp only [id_eq, hget2]
    intro w3 h3
    have hs3 : Still w w3 := hs2.trans (Meanwhile.still h3)
    have hget3 : w3.state.shelf.get? client = some (.loopback a) :=
      Shelf.loopback?_eq_some.mp ((hs3.loopbacks client).trans ha)
    simp only [hget3]
    intro w4 h4
    exact Or.inr ⟨w3.state.now, rfl, (hs3.serving ha _).trans (Meanwhile.still h4)⟩

/-- Where an owned resource's calls go. -/
theorem route_ok {g : Gateway} {id : String} {target : Target} (h : g.route id = .ok target) :
    g.clusters.clientOf target.clusterId = .ok target.client := by
  unfold Gateway.route at h
  obtain ⟨c, -, h⟩ := bind_eq_ok h
  obtain ⟨hc, hclient⟩ := targetOf_ok h
  rw [hc]
  exact hclient

/-- **A call that is accepted goes to a cluster's client.** -/
theorem accept_ok {g : Gateway} {c : Call} {target : Target} (h : (g.accept c).1 = .ok target) :
    g.clusters.clientOf target.clusterId = .ok target.client := by
  cases c with
  | createVolume r =>
    simp only [Gateway.accept] at h
    cases hcheck : Gateway.checkCreate r with
    | error failure =>
      rw [hcheck] at h
      cases h
    | ok _ =>
      rw [hcheck] at h
      have hquiet := (clusterFor_quiet g r).1
      generalize g.clusterFor r = found at h hquiet
      obtain ⟨cluster, g'⟩ := found
      cases cluster with
      | error failure => cases h
      | ok c =>
        obtain ⟨hc, hclient⟩ := targetOf_ok h
        rw [hc, ← hquiet]
        exact hclient
  | createSnapshot r =>
    simp only [Gateway.accept] at h
    cases hcheck : Gateway.refuseEmpty r.name "snapshot name" with
    | error failure =>
      rw [hcheck] at h
      cases h
    | ok _ =>
      rw [hcheck] at h
      exact route_ok h
  | getVolume id => exact route_ok h
  | resizeVolume r => exact route_ok h
  | deleteVolume id => exact route_ok h
  | attachVolume l => exact route_ok h
  | detachVolume l => exact route_ok h
  | getSnapshot id => exact route_ok h
  | deleteSnapshot id => exact route_ok h

/-- **A call that has succeeded leaves the gateway in step**: what the array has done is settled
among the owners. -/
theorem InStep.conclude_ok {clusterId : String} {c : Call} {answer : c.Answer}
    (h : InStep v.state) (hclient : v.state.gateway.clusters.clientOf clusterId = .ok client)
    (ha : v.state.shelf.loopback? client = some a)
    (hchange : a.Change next (c.created answer) c.deleted) (hw : Still (serving v client next) w) :
    InStep { w.state with
      gateway := (w.state.gateway.conclude clusterId c (.ok answer)).1 } := by
  obtain ⟨hclusters, hresources⟩ := Gateway.conclude_ok w.state.gateway clusterId c answer
  have hready : Ready (serving v client next).state :=
    ⟨h.factory, h.settings, h.source, h.fleet.change hclient ha hchange⟩
  have hline := h.inLine.change h.fleet hclient ha hchange
  refine (hready.still hw).inStep (by rw [hclusters]) fun r => ?_
  rw [hresources, hw.resources, hw.held_iff]
  exact hline r

/-- The world after a call has been accepted or refused. -/
def accepting (w : World Deployment) (c : Call) : World Deployment :=
  w.modify fun d => { d with gateway := (d.gateway.accept c).2 }

/-- **A call about one resource leaves the gateway in step**, whatever it asks for and within
whatever bound. -/
theorem perform_leads (c : Call) (h : InStep w.state) :
    Leads (meanwhile spared) (fun _ w' => InStep w'.state) (perform b c) w := by
  refine Leads.step_bind fun w1 h1 => ?_
  have hin1 : InStep w1.state := h.still (Meanwhile.still h1)
  obtain ⟨hclusters, hresources⟩ := accept_quiet w1.state.gateway c
  have hin2 : InStep (accepting w1 c).state := hin1.note hclusters hresources
  dsimp only
  cases htarget : (w1.state.gateway.accept c).1 with
  | error failure =>
    refine Leads.step fun w2 h2 w3 h3 => InStep.drift ?_ h3
    exact (InStep.drift hin2 h2).note rfl rfl
  | ok target =>
    have hclient : (accepting w1 c).state.gateway.clusters.clientOf target.clusterId =
        .ok target.client := by
      show (w1.state.gateway.accept c).2.clusters.clientOf target.clusterId = _
      rw [hclusters]
      exact accept_ok htarget
    obtain ⟨a, ha, -, -⟩ := hin2.fleet.array hclient
    have hcall : Leads (meanwhile spared) _
        (b.run c.operation ((callArray b target.client c).map id)) (accepting w1 c) :=
      callArray_leads ha
    rw [Activity.map_id] at hcall
    show Leads _ _ _ (accepting w1 c)
    refine Leads.bind (fun answer w2 h2 => ?_) hcall
    refine Leads.step fun w3 h3 w4 h4 => InStep.drift ?_ h4
    -- a call that is given up, or that the array refuses, changes nothing on either side
    rcases h2 with ⟨-, -, -, hstill, failure, rfl⟩ | ⟨now, rfl, hserved⟩
    · exact (InStep.drift (hin2.still hstill) h3).note rfl rfl
    · rcases a.perform_change now c with ⟨failure, hfail⟩ | ⟨next, answer, hok, hchange⟩
      · rw [hfail] at hserved ⊢
        exact (InStep.drift (hin2.still ((Still.serving_same ha).trans hserved)) h3).note rfl rfl
      · rw [hok] at hserved ⊢
        exact InStep.conclude_ok hin2 hclient ha hchange (hserved.trans (Meanwhile.still h3))

/-- **A request leaves the gateway in step.** -/
theorem request_leads (r : Request) (h : InStep w.state) :
    Leads (meanwhile spared) (fun _ w' => InStep w'.state) (r.work b) w := by
  cases r with
  | call c => exact perform_leads c h
  | list kind => exact read_leads (listAll_safe (during_dial _) (during_note _) b kind) h
  | health => exact read_leads (health_safe (during_dial _) b) h
  | status => exact read_leads (status_safe (during_note _)) h

/-! ## One resource of one cluster -/

/-- A token is not cancelled while it is spared. -/
theorem Meanwhile.uncancelled (h : Meanwhile spared v w) (ht : token ∈ spared)
    (hv : v.isCancelled token = false) : w.isCancelled token = false := h.spared token ht hv

/-- **Whether a resource is there** is answered truly. -/
def Verified (a : Loopback) (r : Resync) (verified : Except Failure Unit) : Prop :=
  (a.holds r.kind r.resourceId = true ∧ verified = .ok ()) ∨
    (a.holds r.kind r.resourceId = false ∧
      ∃ failure, verified = .error failure ∧ failure.isNotFound = true)

theorem verified_volume {id : String} {c : String} :
    Verified a ⟨id, c, .volume⟩ ((a.findVolume id).map fun _ => ()) := by
  unfold Verified Loopback.findVolume Loopback.holds Keyed.contains
  cases hv : a.volumes.get? id with
  | none => exact Or.inr ⟨by simp [hv], _, rfl, rfl⟩
  | some v => exact Or.inl ⟨by simp [hv], rfl⟩

theorem verified_snapshot {id : String} {c : String} :
    Verified a ⟨id, c, .snapshot⟩ ((a.findSnapshot id).map fun _ => ()) := by
  unfold Verified Loopback.findSnapshot Loopback.holds Keyed.contains
  cases hs : a.snapshots.get? id with
  | none => exact Or.inr ⟨by simp [hs], _, rfl, rfl⟩
  | some s => exact Or.inl ⟨by simp [hs], rfl⟩

/-- Asking an array for a resource, and nothing else, tells whether the resource is there. -/
theorem lookUp_leads {r : Resync} {c : Call} {found : Except Failure c.Answer}
    (ht : b.token ∈ spared) (htoken : w.isCancelled b.token = false)
    (ha : w.state.shelf.loopback? client = some a)
    (hperform : ∀ now, a.perform now c = (a, found))
    (hverified : Verified a r (found.map fun _ => ())) :
    Leads (meanwhile spared) (fun verified w' => Verified a r verified ∧ Still w w')
      (b.run resyncOperation ((callArray b client c).map fun x => x.map fun _ => ())) w := by
  refine (callArray_leads (f := fun x => x.map fun _ => ()) ha).mono ?_
  rintro answer w' (⟨v, hv, hcancelled, -⟩ | ⟨now, rfl, hserved⟩)
  · rw [hv.uncancelled ht htoken] at hcancelled
    cases hcancelled
  · rw [hperform now] at hserved ⊢
    exact ⟨hverified, (Still.serving_same ha).trans hserved⟩

theorem verify_leads {r : Resync} (ht : b.token ∈ spared) (htoken : w.isCancelled b.token = false)
    (ha : w.state.shelf.loopback? client = some a) (htidy : a.Tidy) :
    Leads (meanwhile spared) (fun verified w' => Verified a r verified ∧ Still w w')
      (b.run resyncOperation (verify b client r)) w := by
  obtain ⟨id, c, kind⟩ := r
  cases kind with
  | volume =>
    exact lookUp_leads ht htoken ha (fun now => htidy.getVolume now id) verified_volume
  | snapshot =>
    exact lookUp_leads ht htoken ha (fun now => htidy.getSnapshot now id) verified_snapshot

/-- **Whether a request to take a resource for a cluster's is right**: it names the cluster and the
kind that hold the resource, or nobody holds it. -/
def IsRight (d : Deployment) (r : Resync) : Prop :=
  Held d.gateway.clusters d.shelf r.resource ∨
    ∀ q, Held d.gateway.clusters d.shelf q → q.id ≠ r.resourceId

/-- How taking a resource for a cluster's begins. -/
theorem beginResync_cases (g : Gateway) (r : Resync) :
    (∃ failure, g.beginResync r = .error failure) ∨
      ∃ target, g.beginResync r = .ok (target, g.own r.resource) ∧
        g.clusters.clientOf r.clusterId = .ok target.client := by
  unfold Gateway.beginResync
  cases Gateway.refuseEmpty r.resourceId "resource_id" with
  | error failure => exact Or.inl ⟨failure, rfl⟩
  | ok _ =>
    cases htarget : g.targetOf r.clusterId with
    | error failure => exact Or.inl ⟨failure, rfl⟩
    | ok target => exact Or.inr ⟨target, rfl, (targetOf_ok htarget).2⟩

/-- The world once a resource has been taken for a cluster's. -/
def owning (w : World Deployment) (r : Resource) : World Deployment :=
  w.modify fun d => { d with gateway := d.gateway.own r }

/-- **Once the cluster has answered truly, the gateway is in step again.** -/
theorem InStep.endResync {r : Resync} {verified : Except Failure Unit} (h : InStep v.state)
    (hright : IsRight v.state r)
    (hclient : v.state.gateway.clusters.clientOf r.clusterId = .ok client)
    (ha : v.state.shelf.loopback? client = some a) (hverified : Verified a r verified)
    (hw : Still (owning v r.resource) w) :
    InStep { w.state with gateway := (w.state.gateway.endResync r verified).1 } := by
  have hready : Ready (owning v r.resource).state := ⟨h.factory, h.settings, h.source, h.fleet⟩
  have hres : w.state.gateway.resources = v.state.gateway.resources.map r.resource := hw.resources
  have hline : ∀ {o : Ownership},
      InLine o v.state.gateway.clusters v.state.shelf →
        InLine o w.state.gateway.clusters w.state.shelf := by
    intro o ho q
    rw [hw.held_iff]
    exact ho q
  rcases hverified with ⟨hholds, rfl⟩ | ⟨hlacks, failure, rfl, hfound⟩
  · -- the cluster holds the resource, so the owner was recorded before
    have hheld : Held v.state.gateway.clusters v.state.shelf r.resource :=
      (held_iff hclient ha).mpr hholds
    refine (hready.still hw).inStep rfl ?_
    show InLine w.state.gateway.resources _ _
    rw [hres]
    exact hline (h.inLine.own_held hheld)
  · -- nobody holds the resource, so the owner is dropped again
    have hnone : ∀ q, Held v.state.gateway.clusters v.state.shelf q → q.id ≠ r.resource.id := by
      refine hright.resolve_left fun hheld => ?_
      exact Bool.false_ne_true (hlacks.symm.trans ((held_iff hclient ha).mp hheld))
    have hrecord : w.state.gateway.resources.record? r.resourceId = some r.resource := by
      rw [hres, Ownership.record?_map]
      exact if_pos rfl
    have hend : (w.state.gateway.endResync r (.error failure)).1 =
        w.state.gateway.disown r.resourceId := by
      simp [Gateway.endResync, hfound, hrecord, Resync.resource]
    rw [hend]
    refine (hready.still hw).inStep rfl ?_
    show InLine (w.state.gateway.resources.unmap r.resourceId) _ _
    rw [hres]
    exact hline (h.inLine.own_disown hnone)

/-- What is held stays held as time passes. -/
theorem IsRight.still {r : Resync} (h : IsRight v.state r) (hw : Still v w) :
    IsRight w.state r := by
  unfold IsRight at h ⊢
  simp only [hw.held_iff]
  exact h

/-- **A right request to take a resource for a cluster's leaves the gateway in step.** -/
theorem resync_leads {r : Resync} (ht : b.token ∈ spared) (htoken : w.isCancelled b.token = false)
    (hright : IsRight w.state r) (h : InStep w.state) :
    Leads (meanwhile spared) (fun _ w' => InStep w'.state) (resync b r) w := by
  unfold resync
  refine Leads.step_bind fun w1 h1 => ?_
  have hin1 : InStep w1.state := h.drift h1
  have hright1 : IsRight w1.state r := hright.still (Meanwhile.still h1)
  have htoken1 : w1.isCancelled b.token = false := Meanwhile.uncancelled h1 ht htoken
  rcases beginResync_cases w1.state.gateway r with ⟨failure, hbegin⟩ | ⟨target, hbegin, hclient⟩
  · simp only [hbegin]
    refine Leads.step fun w2 h2 w3 h3 => InStep.drift ?_ h3
    exact (InStep.drift (v := w1) hin1 h2).note rfl rfl
  · simp only [hbegin]
    obtain ⟨a, ha, -, htidy⟩ := hin1.fleet.array hclient
    have hverify := verify_leads (w := owning w1 r.resource) (r := r) ht htoken1 ha htidy
    refine Leads.bind (fun verified w2 h2 => ?_) hverify
    refine Leads.step fun w3 h3 w4 h4 => InStep.drift ?_ h4
    exact (hin1.endResync hright1 hclient ha h2.1 (h2.2.trans (Meanwhile.still h3))).note rfl rfl

end Deployment

end FederatedStorage
