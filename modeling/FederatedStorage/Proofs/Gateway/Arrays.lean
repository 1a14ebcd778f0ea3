import FederatedStorage.Gateway.Deployment
import FederatedStorage.Proofs.Schedule.Rely

/-!
# What arrays may answer

The gateway asks arrays while others move, so an answer is that of the array at the moment of
asking, or of the network at the moment of an attempt. `MayList` says what a listing may answer as
the world is, and `MayListIn` what it may answer in some world that the others allow. The rules here
say of each way to ask an array that it gives such an answer, and what it may change meanwhile: it
makes remote arrays take turns, and only a call about a resource changes a loopback array.

## Main statements

* `callArray_safe`, `listArray_safe`, `checkArray_safe`: one array.
* `fetchInventory_safe`, `gather_safe`: the inventories of a pass.
-/

namespace FederatedStorage.Deployment

open Schedule Http

variable {R : Rely Deployment} {w : World Deployment} {client : Client} {b : Bound}

/-- The world with another shelf. -/
def withShelf (w : World Deployment) (shelf : Shelf) : World Deployment :=
  w.modify fun d => { d with shelf := shelf }

/-- Remote arrays may take turns. -/
def LetsDial (R : Rely Deployment) : Prop :=
  ∀ u v client r r', R.others u v → v.state.shelf.get? client = some (.remote r) →
    R.own v (withShelf v (v.state.shelf.set client (.remote r')))

/-- Arrays of all kinds may change. -/
def LetsCall (R : Rely Deployment) : Prop := ∀ v shelf, R.own v (withShelf v shelf)

theorem LetsCall.dial (h : LetsCall R) : LetsDial R := fun _ v _ _ _ _ _ => h v _

/-- The gateway may note what concerns neither clusters nor owners. -/
def LetsNote (R : Rely Deployment) : Prop :=
  ∀ (v : World Deployment) (g : Gateway), g.clusters = v.state.gateway.clusters →
    g.resources = v.state.gateway.resources → R.own v (v.modify fun d => { d with gateway := g })

/-! ## Acts that leave the owners alone -/

/-- Clusters, owners and settings are as they were. -/
structure Quiet (v w : World Deployment) : Prop where
  clusters : w.state.gateway.clusters = v.state.gateway.clusters
  resources : w.state.gateway.resources = v.state.gateway.resources
  settings : w.state.settings = v.state.settings

namespace Quiet

theorem refl (w : World Deployment) : Quiet w w := ⟨rfl, rfl, rfl⟩

theorem trans {u v w : World Deployment} (h1 : Quiet u v) (h2 : Quiet v w) : Quiet u w :=
  ⟨h2.clusters.trans h1.clusters, h2.resources.trans h1.resources, h2.settings.trans h1.settings⟩

theorem targetOf {v w : World Deployment} (h : Quiet v w) (clusterId : String) :
    w.state.gateway.targetOf clusterId = v.state.gateway.targetOf clusterId := by
  simp [Gateway.targetOf, h.clusters]

theorem openPass {v w : World Deployment} (h : Quiet v w) :
    w.state.gateway.openPass = v.state.gateway.openPass := by
  simp [Gateway.openPass, h.clusters, h.resources]

end Quiet

/-- Nothing to count on, and quiet acts only. -/
def quietly : Rely Deployment := .nothing Quiet Quiet.refl

theorem quietly_call : LetsCall quietly := fun _ _ => ⟨rfl, rfl, rfl⟩

theorem quietly_note : LetsNote quietly :=
  fun _ _ hclusters hresources => ⟨hclusters, hresources, rfl⟩

/-! ## Listings -/

/-- **What a listing may answer** as the world is. A remote array may always fail, and what its answer
is read as does not depend on the words for what cannot be read. -/
def MayList (d : Deployment) (client : Client) (kind : ResourceKind)
    (answer : Except Failure (List kind.Item)) : Prop :=
  match d.shelf.get? client with
  | some (.loopback a) => answer = a.list kind
  | some (.remote _) =>
    (∃ failure, answer = .error failure) ∨
      ∃ host status payload complaint,
        d.network.deliver host (Remote.listRequest kind) = .answered status payload ∧
          isSuccess status = true ∧ answer = Remote.itemsOf complaint kind payload
  | none => ∃ failure, answer = .error failure

/-- What a listing may answer in a world that the others allow. -/
def MayListIn (R : Rely Deployment) (client : Client) (kind : ResourceKind)
    (answer : Except Failure (List kind.Item)) : Prop :=
  ∃ u v, R.others u v ∧ MayList v.state client kind answer

/-- A remote array has answered a request with a success. -/
def Delivered (R : Rely Deployment) (client : Client) (request : RemoteRequest)
    (payload : List UInt8) : Prop :=
  ∃ u v r host status, R.others u v ∧ v.state.shelf.get? client = some (.remote r) ∧
    v.state.network.deliver host request = .answered status payload ∧ isSuccess status = true

/-! ## Remote arrays -/

/-- A payload comes from a response with a success. -/
theorem answered_of_judge {r : Remote} {request : RemoteRequest} {status : Nat}
    {payload p : List UInt8} (h : r.judge request status payload = .answered p) :
    p = payload ∧ isSuccess status = true := by
  unfold Remote.judge at h
  by_cases hs : isSuccess status = true
  · rw [if_pos hs] at h
    cases h
    exact ⟨rfl, hs⟩
  · rw [if_neg hs] at h
    split at h
    · cases h
    · split at h
      · cases h
      · split at h <;> cases h

/-- A payload comes from a response that some host gave. -/
theorem answered_of_attempt {network : Network} {r : Remote} {request : RemoteRequest}
    {payload : List UInt8} (h : (r.attempt network request).2 = .answered payload) :
    ∃ host status, network.deliver host request = .answered status payload ∧
      isSuccess status = true := by
  unfold Remote.attempt at h
  split at h
  · cases h
  · next connection _ =>
    have hx : Remote.converse network r request connection.address = .answered payload := h
    unfold Remote.converse at hx
    split at hx
    · cases hx
    · unfold Remote.exchange at hx
      split at hx
      · cases hx
      · cases hd : network.deliver connection.address request with
        | answered status p =>
          rw [hd] at hx
          obtain ⟨rfl, hs⟩ := answered_of_judge hx
          exact ⟨_, status, hd, hs⟩
        | lost reason => rw [hd] at hx; cases hx
        | silent => rw [hd] at hx; cases hx

theorem attempt_safe (hdial : LetsDial R) (request : RemoteRequest) (number : Nat) :
    Safe R (fun o => ∀ payload, o.1 = .answered payload → Delivered R client request payload)
      (attempt client request number) w := by
  refine Safe.step fun v hv => ?_
  cases hr : v.state.shelf.get? client with
  | none => exact ⟨by simpa [hr] using R.own_refl v, by simp [hr]⟩
  | some backend =>
    cases backend with
    | loopback a => exact ⟨by simpa [hr] using R.own_refl v, by simp [hr]⟩
    | remote r =>
      have hown := hdial w v client r (r.attempt v.state.network request).1 hv hr
      refine ⟨by simpa [hr, withShelf, World.modify] using hown, fun payload hp => ?_⟩
      have hp' : (r.attempt v.state.network request).2 = .answered payload := by
        simpa [hr] using hp
      obtain ⟨host, status, hd, hs⟩ := answered_of_attempt hp'
      exact ⟨w, v, r, host, status, hv, hr, hd, hs⟩

theorem send_safe (hdial : LetsDial R) (request : RemoteRequest) (maxRetries made : UInt32)
    (number limit : Nat) :
    Safe R (fun o => ∀ payload, o = .answered payload → Delivered R client request payload)
      (send client request maxRetries made number limit) w := by
  -- on the attempts that are followed; only the last outcome is handed on
  induction limit generalizing made number w with
  | zero =>
    refine Safe.bind (fun _ _ _ => ?_) (Safe.forever fun _ => .never)
    intro payload h
    cases h
  | succ limit ih =>
    refine Safe.bind (fun o v ho => ?_) (attempt_safe hdial request number)
    obtain ⟨outcome, pause⟩ := o
    dsimp only
    split
    · exact ho
    · exact Safe.bind (fun _ _ _ => ih (made + 1) (number + 1)) (Safe.sleep pause)

/-- **A request to a remote array** gives a payload only if the array has answered with it. -/
theorem sendWithin_safe (hdial : LetsDial R) (operation : String) (r : Remote)
    (request : RemoteRequest) :
    Safe R (fun a => ∀ payload, a = .ok payload → Delivered R client request payload)
      (sendWithin b operation client r request) w := by
  refine Safe.run (fun _ _ _ _ payload h => by cases h) ?_
  refine Safe.bind (fun o v ho => ?_) (send_safe hdial request r.config.maxRetries 0 0 attemptLimit)
  cases o with
  | answered payload =>
    intro p hp
    cases hp
    exact ho payload rfl
  | failed failure sent =>
    intro p hp
    cases hp
  | waiting =>
    -- a host that is silent for ever: only the bound ends this
    refine Safe.bind (fun _ _ _ => ?_) (Safe.forever fun _ => .never)
    intro p hp
    cases hp

/-! ## Asking an array -/

/-- **A listing** answers as it may in some world that the others allow. -/
theorem listArray_safe (hdial : LetsDial R) (b : Bound) (client : Client) (kind : ResourceKind) :
    Safe R (MayListIn R client kind) (listArray b client kind) w := by
  refine Safe.follow fun v hv => ?_
  cases hs : v.state.shelf.get? client with
  | none => exact ⟨w, v, hv, by simp [MayList, hs]⟩
  | some backend =>
    cases backend with
    | loopback a =>
      -- the answer is fixed now, even if it is given only after the latency
      have hlist : MayListIn R client kind (a.list kind) := ⟨w, v, hv, by simp [MayList, hs]⟩
      cases ha : a.list kind with
      | error failure =>
        rw [ha] at hlist
        cases a.config.listLatencyMs <;> simpa [Safe, ha] using hlist
      | ok items =>
        rw [ha] at hlist
        cases hms : a.config.listLatencyMs with
        | none => simpa [Safe, ha, hms] using hlist
        | some ms =>
          simp only [ha, hms]
          refine Safe.bind (fun _ _ _ => ?_) (Safe.waitUntil _)
          exact hlist
    | remote r =>
      refine Safe.bind (fun payload _ hp => ?_)
        (sendWithin_safe hdial kind.listing r (Remote.listRequest kind))
      cases payload with
      | error failure => exact ⟨w, v, hv, by simp [MayList, hs, Except.bind]⟩
      | ok payload =>
        obtain ⟨u, x, q, host, status, hx, hq, hd, hsuccess⟩ := hp payload rfl
        refine ⟨u, x, hx, ?_⟩
        simp only [MayList, hq]
        exact Or.inr ⟨host, status, payload, _, hd, hsuccess, rfl⟩

theorem checkArray_safe (hdial : LetsDial R) :
    Safe R (fun _ => True) (checkArray b client) w := by
  refine Safe.follow fun v _ => ?_
  cases v.state.shelf.get? client with
  | none => trivial
  | some backend =>
    cases backend with
    | loopback a => trivial
    | remote r =>
      refine Safe.bind (fun answer _ _ => ?_)
        (sendWithin_safe hdial "health_check" r Remote.healthRequest)
      cases answer with
      | ok _ => trivial
      | error failure => cases h : failure.isTransient <;> simp only [h] <;> trivial

/-- **A call about a resource** changes nothing but arrays. -/
theorem callArray_safe (hcall : LetsCall R) (c : Call) :
    Safe R (fun _ => True) (callArray b client c) w := by
  refine Safe.follow fun v _ => ?_
  cases v.state.shelf.get? client with
  | none => trivial
  | some backend =>
    cases backend with
    | loopback a =>
      -- between the look and the call the client may have come to stand for something else
      refine Safe.step fun x hx => ⟨?_, trivial⟩
      cases hs : x.state.shelf.get? client with
      | none => simpa [hs] using R.own_refl x
      | some backend =>
        cases backend with
        | loopback a => simpa [hs, withShelf, World.modify] using hcall x _
        | remote r => simpa [hs] using R.own_refl x
    | remote r =>
      refine Safe.bind (fun _ _ _ => ?_)
        (sendWithin_safe hcall.dial c.operation r (Remote.requestOf c))
      trivial

/-! ## Inventories -/

/-- **What the asking for an inventory may give**, and why. -/
inductive MayFetch (R : Rely Deployment) (b : Bound) (clusterId : String) :
    Gateway.Inventory → Prop
  /-- The cluster is not managed, or has no client. -/
  | missing {u v : World Deployment} {failure : Failure} (h : R.others u v)
      (htarget : v.state.gateway.targetOf clusterId = .error failure) :
      MayFetch R b clusterId ⟨clusterId, .error failure⟩
  /-- Both listings have succeeded. -/
  | listed {u v : World Deployment} {target : Gateway.Target} {volumes : List Volume}
      {snapshots : List Snapshot} (h : R.others u v)
      (htarget : v.state.gateway.targetOf clusterId = .ok target)
      (hvolumes : MayListIn R target.client .volume (.ok volumes))
      (hsnapshots : MayListIn R target.client .snapshot (.ok snapshots)) :
      MayFetch R b clusterId ⟨clusterId, .ok (Gateway.inventoryOf clusterId volumes snapshots)⟩
  /-- A listing has failed. -/
  | failed {u v : World Deployment} {target : Gateway.Target} {kind : ResourceKind}
      {failure : Failure} (h : R.others u v)
      (htarget : v.state.gateway.targetOf clusterId = .ok target)
      (hkind : MayListIn R target.client kind (.error failure)) :
      MayFetch R b clusterId ⟨clusterId, .error failure⟩
  /-- The listings were given up. -/
  | stopped {u v x y : World Deployment} {target : Gateway.Target} (hv : R.others u v)
      (htarget : v.state.gateway.targetOf clusterId = .ok target) (hy : R.others x y)
      (hstop : R.attentive →
        (inventoryBound b v.state.settings v.clock).interrupts y = true) (operation : String) :
      MayFetch R b clusterId ⟨clusterId,
        .error ((inventoryBound b v.state.settings v.clock).interruption y operation)⟩

theorem fetchInventory_safe (hdial : LetsDial R) (clusterId : String) :
    Safe R (MayFetch R b clusterId) (fetchInventory b clusterId) w := by
  refine Safe.follow fun v hv => ?_
  cases htarget : v.state.gateway.targetOf clusterId with
  | error failure => exact .missing hv htarget
  | ok target =>
    let Q : Except Failure (List Volume × List Snapshot) → Prop := fun r =>
      MayFetch R b clusterId ⟨clusterId, r.map fun l => Gateway.inventoryOf clusterId l.1 l.2⟩
    have hboth := Safe.both (w := v) (listArray_safe hdial b target.client .volume)
      (listArray_safe hdial b target.client .snapshot)
    refine Safe.bind (Q := Q) (fun r _ hr => ?_) ?_
    · exact hr
    · refine Safe.run (fun x y hy hstop => .stopped hv htarget hy hstop "fetch_inventory")
        (hboth.mono fun r hr => ?_)
      cases r with
      | ok l => exact .listed hv htarget hr.1 hr.2
      | error failure =>
        rcases hr with hr | hr
        · exact .failed hv htarget hr
        · exact .failed hv htarget hr

/-- **The inventories of a pass**, one for each managed cluster. -/
theorem gather_safe (hdial : LetsDial R) (opened : Gateway.OpenPass) :
    Safe R (List.Forall₂ (MayFetch R b) opened.managed) (gather b opened) w :=
  Safe.all fun c _ => fetchInventory_safe hdial c

end FederatedStorage.Deployment
