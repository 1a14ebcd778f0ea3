import FederatedStorage.Proofs.Gateway.Passes
import Mathlib.Logic.Relation

/-!
# Histories of a gateway

A gateway over the built-in vendors starts empty. Then calls are made and completed one after the
other: requests of any kind, passes, requests to take a resource for a cluster's, and changes of the
configuration. In whatever order they come, the gateway stays in step with its arrays.

## Main statement

* `owners_are_held`: the owners are exactly what the registered clusters hold.
-/

namespace FederatedStorage.Deployment

open Schedule Gateway

/-- Beside the only call nothing happens but that time passes and tokens are cancelled. -/
def Apart (spared : List Token) (x y : Scene Deployment Unit) : Prop :=
  Meanwhile spared x.world y.world

/-- A call that has no deadline, and whose token is not cancelled yet. -/
structure Unbounded (b : Bound) (w : World Deployment) : Prop where
  deadline : b.deadline = none
  uncancelled : w.isCancelled b.token = false

/-- **One completed call**, or what happens between two. Requests may be bounded in any way; passes
and requests to take a resource for a cluster's are neither given up nor cancelled. -/
inductive Completed : World Deployment → World Deployment → Prop
  | request {v w : World Deployment} (r : Request) (b : Bound) {t : List (Scene Deployment Unit)}
      {answer : r.Answer} (h : Runs (Apart []) (r.work b) ⟨v, ()⟩ t (.done answer) ⟨w, ()⟩) :
      Completed v w
  | reload {v w : World Deployment} (b : Bound) {t : List (Scene Deployment Unit)}
      {result : Except Failure PassReport} (hb : Unbounded b v)
      (h : Runs (Apart [b.token]) (reload b) ⟨v, ()⟩ t (.done result) ⟨w, ()⟩) : Completed v w
  | resyncAll {v w : World Deployment} (b : Bound) {t : List (Scene Deployment Unit)}
      {report : ResourceSyncReport} (hb : Unbounded b v)
      (h : Runs (Apart [b.token]) (resyncAll b) ⟨v, ()⟩ t (.done report) ⟨w, ()⟩) : Completed v w
  | resync {v w : World Deployment} (b : Bound) (r : Resync) {t : List (Scene Deployment Unit)}
      {answer : Except Failure ResyncAnswer} (hb : Unbounded b v) (hright : IsRight v.state r)
      (h : Runs (Apart [b.token]) (resync b r) ⟨v, ()⟩ t (.done answer) ⟨w, ()⟩) : Completed v w
  /-- The configuration is replaced by one that is good or bad. -/
  | configure {v : World Deployment} (source : ClusterSource) (hplain : source.IsPlain) :
      Completed v (v.modify fun d => { d with source := source })
  | meanwhile {v w : World Deployment} (h : Meanwhile [] v w) : Completed v w

/-- **A completed call leaves the gateway in step.** -/
theorem InStep.completed {v w : World Deployment} (h : InStep v.state) (hcall : Completed v w) :
    InStep w.state := by
  -- calls are runs, and what an activity leads to holds at the end of its runs
  cases hcall with
  | request r b hrun => exact Leads.of_runs hrun (fun _ _ hxy => hxy) (request_leads r h)
  | reload b hb hrun =>
    exact Leads.of_runs hrun (fun _ _ hxy => hxy)
      (reload_leads hb.deadline List.mem_cons_self ⟨h, hb.uncancelled⟩)
  | resyncAll b hb hrun =>
    exact Leads.of_runs hrun (fun _ _ hxy => hxy)
      (resyncAll_leads hb.deadline List.mem_cons_self ⟨h, hb.uncancelled⟩)
  | resync b r hb hright hrun =>
    exact Leads.of_runs hrun (fun _ _ hxy => hxy)
      (resync_leads List.mem_cons_self hb.uncancelled hright h)
  | configure source hplain => exact ⟨⟨h.factory, h.settings, hplain, h.fleet⟩, h.inLine⟩
  | meanwhile hw => exact h.still hw.still

/-- **A history leaves the gateway in step.** -/
theorem InStep.history {v w : World Deployment} (h : InStep v.state)
    (hcalls : Relation.ReflTransGen Completed v w) : InStep w.state := by
  induction hcalls with
  | refl => exact h
  | tail _ hcall ih => exact ih.completed hcall

/-- A gateway that has just been made is in step. -/
theorem inStep_new (seed : UInt64) {source : ClusterSource} (hsource : source.IsPlain)
    (now : Time.Timestamp) : InStep (new seed .standard .empty source ⟨false, none⟩ now) :=
  ⟨⟨rfl, rfl, hsource, fleet_empty.1⟩, fleet_empty.2⟩

/-- **Calls go where the resource is held** if the gateway is in step. -/
theorem InStep.route_iff {d : Deployment} (h : InStep d) (id : String) (target : Target) :
    d.gateway.route id = .ok target ↔
      d.gateway.clusters.clientOf target.clusterId = .ok target.client ∧
        ∃ kind, Held d.gateway.clusters d.shelf ⟨id, target.clusterId, kind⟩ := by
  unfold Gateway.route Ownership.owner Ownership.find
  constructor
  · intro hroute
    obtain ⟨c, howner, htarget⟩ := bind_eq_ok hroute
    obtain ⟨hc, hclient⟩ := targetOf_ok htarget
    cases hr : d.gateway.resources.record? id with
    | none =>
      rw [hr] at howner
      cases howner
    | some r =>
      rw [hr] at howner
      cases howner
      have hid : r.id = id := Ownership.id_of_record? hr
      refine ⟨hc ▸ hclient, r.kind, ?_⟩
      rw [hc, ← hid]
      exact (h.inLine r).mp (hid ▸ hr)
  · rintro ⟨hclient, kind, hheld⟩
    have hr : d.gateway.resources.record? id = some ⟨id, target.clusterId, kind⟩ :=
      (h.inLine _).mpr hheld
    rw [hr]
    show d.gateway.targetOf target.clusterId = .ok target
    unfold Gateway.targetOf
    rw [hclient]
    rfl

/-- **The gateway's view is the arrays' truth.** A gateway over the built-in vendors spares no
cluster and sets no time for inventories; its configurations name only loopback arrays without a
stem of their own, and vendors that nobody knows. Then after every history the owners are exactly
what the registered clusters with a client hold. Hence the calls about a resource go to the cluster
that holds it, and to no other. -/
theorem owners_are_held (seed : UInt64) (source : ClusterSource) (now : Time.Timestamp)
    (v w : World Deployment) (hsource : source.IsPlain)
    (hnew : v.state = new seed .standard .empty source ⟨false, none⟩ now)
    (hcalls : Relation.ReflTransGen Completed v w) :
    (∀ r, w.state.gateway.resources.record? r.id = some r ↔
      Held w.state.gateway.clusters w.state.shelf r) ∧
    ∀ id target, w.state.gateway.route id = .ok target ↔
      w.state.gateway.clusters.clientOf target.clusterId = .ok target.client ∧
        ∃ kind, Held w.state.gateway.clusters w.state.shelf ⟨id, target.clusterId, kind⟩ := by
  have hstart : InStep v.state := hnew ▸ inStep_new seed hsource now
  have hend : InStep w.state := hstart.history hcalls
  exact ⟨hend.inLine, hend.route_iff⟩

/-! ## A history -/

/-- A list of plain descriptors is a plain source. -/
theorem plain_list {ds : List ClusterDescriptor} (h : ∀ d ∈ ds, d.IsPlain) :
    (ClusterSource.list ds).IsPlain := by
  intro es hload
  have hvalid : ((ClusterDescriptor.validate ds).map fun _ => ds) = .ok es := hload
  cases hv : ClusterDescriptor.validate ds with
  | error failure =>
    rw [hv] at hvalid
    cases hvalid
  | ok _ =>
    rw [hv] at hvalid
    cases hvalid
    exact h

/-- Two clusters, of a vendor that is known and of one that is not. -/
def twoVendors : List ClusterDescriptor :=
  [⟨"a", "Memory", .empty, .null⟩, ⟨"b", "nobody", .empty, .null⟩]

theorem twoVendors_plain : ∀ d ∈ twoVendors, d.IsPlain := by
  intro d hd
  rcases List.mem_cons.mp hd with rfl | hd
  · refine Or.inl ⟨by decide +kernel, fun config hconfig => ?_⟩
    cases hconfig
    rfl
  · rw [List.mem_singleton.mp hd]
    exact Or.inr (Option.isNone_iff_eq_none.mp (by decide +kernel))

/-- What nobody bounds. -/
def free : Bound := ⟨.root, none⟩

/-- The world after an activity that nothing holds up. -/
def doing {α : Type} (w : World Deployment) (p : Work α) : World Deployment := (p.advance w false).1

/-- The world after the configuration is replaced and loaded. -/
def reloading (w : World Deployment) (ds : List ClusterDescriptor) : World Deployment :=
  doing (w.modify fun d => { d with source := .list ds }) (reload free)

theorem completed_request {w : World Deployment} (r : Request)
    (h : ((r.work free).advance w false).2.1.result?.isSome) :
    Completed w (doing w (r.work free)) := by
  obtain ⟨answer, hrun⟩ := exists_runs_of_isSome _ () h
  exact .request r free hrun

theorem completed_reloading {w : World Deployment} {ds : List ClusterDescriptor}
    (hds : ∀ d ∈ ds, d.IsPlain) (hw : w.cancelled = [])
    (h : ((reload free).advance (w.modify fun d => { d with source := .list ds })
      false).2.1.result?.isSome) :
    Relation.ReflTransGen Completed w (reloading w ds) := by
  obtain ⟨result, hrun⟩ := exists_runs_of_isSome _ () h
  have hfree : Unbounded free (w.modify fun d => { d with source := .list ds }) := by
    refine ⟨rfl, ?_⟩
    show w.cancelled.any _ = false
    rw [hw]
    rfl
  have hconfigured : Relation.ReflTransGen Completed w _ :=
    .single (.configure _ (plain_list hds))
  exact hconfigured.tail (.reload free hfree hrun)

/-- A gateway that has just been made. -/
def freshWorld : World Deployment :=
  .start (new 2 .standard .empty (.list []) ⟨false, none⟩ (Time.Timestamp.yearStart 2000))

/-- A volume has been created on a cluster. -/
def createdWorld : World Deployment :=
  doing (reloading freshWorld twoVendors)
    ((Request.call (.createVolume ⟨"v", 1, .new, .empty, .empty⟩)).work free)

/-- The cluster leaves: its volume is owned by nobody. It comes back, and so does its volume. -/
theorem owners_are_held_leftAndBack :
    (let left := reloading createdWorld []
    left.state.gateway.resources.ids = [] ∧
      ¬ Held left.state.gateway.clusters left.state.shelf ⟨"a-vol-000001", "a", .volume⟩) ∧
    let back := reloading (reloading createdWorld []) twoVendors
    back.state.gateway.resources.ids = ["a-vol-000001"] ∧
      Held back.state.gateway.clusters back.state.shelf ⟨"a-vol-000001", "a", .volume⟩ := by
  have hnothing : ∀ d ∈ ([] : List ClusterDescriptor), d.IsPlain := fun d hd => by cases hd
  have hcreated : Relation.ReflTransGen Completed freshWorld createdWorld :=
    .tail (completed_reloading twoVendors_plain rfl (by decide +kernel))
      (completed_request _ (by decide +kernel))
  have hleft : Relation.ReflTransGen Completed freshWorld (reloading createdWorld []) :=
    hcreated.trans (completed_reloading hnothing (by decide +kernel) (by decide +kernel))
  have hback : Relation.ReflTransGen Completed freshWorld
      (reloading (reloading createdWorld []) twoVendors) :=
    hleft.trans (completed_reloading twoVendors_plain (by decide +kernel) (by decide +kernel))
  have hsource : (ClusterSource.list []).IsPlain := plain_list hnothing
  obtain ⟨hheldLeft, -⟩ := owners_are_held 2 (.list []) (Time.Timestamp.yearStart 2000) freshWorld _
    hsource rfl hleft
  obtain ⟨hheldBack, -⟩ := owners_are_held 2 (.list []) (Time.Timestamp.yearStart 2000) freshWorld _
    hsource rfl hback
  refine ⟨⟨by decide +kernel, fun hheld => ?_⟩, by decide +kernel, ?_⟩
  · have hrecord := (hheldLeft _).mpr hheld
    exact absurd hrecord (by decide +kernel)
  · exact (hheldBack ⟨"a-vol-000001", "a", .volume⟩).mp (by decide +kernel)

end FederatedStorage.Deployment
