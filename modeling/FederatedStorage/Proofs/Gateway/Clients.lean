import FederatedStorage.Proofs.Gateway.Callers

/-!
# Clients of any kind

The gateway asks its clients in three ways: about one resource, for a listing, and whether the array
is well. Nothing that it does depends on what else a client is. So its activities make sense over
clients of any kind, which answer what they like whenever they like, and with the arrays on the
shelf for clients they are the gateway's own.

## Main definitions

* `Clients`: how clients are asked.
* `Clients.arrays`: the arrays on the shelf.
* `Clients.perform`, `Clients.listAll`, `Clients.resync`, `Clients.reload`, `Clients.resyncAll`: what
  the gateway does over such clients.

## Main statements

* `perform_arrays`, `reload_arrays` and so on: over the arrays this is what the gateway does.
* `Clients.perform_ends`, `Clients.listAll_quiet`, `Clients.health_quiet`: what a request may change.
-/

namespace FederatedStorage.Deployment

open Schedule

/-- **How clients are asked.** They leave clusters, owners and settings of the gateway alone. -/
structure Clients where
  call : Bound → Client → (c : Call) → Work (Except Failure c.Answer)
  list : Bound → Client → (kind : ResourceKind) → Work (Except Failure (List kind.Item))
  check : Bound → Client → Work (Except Failure Bool)
  call_safe : ∀ b x c w, Safe quietly (fun _ => True) (call b x c) w
  list_safe : ∀ b x kind w, Safe quietly (fun _ => True) (list b x kind) w
  check_safe : ∀ b x w, Safe quietly (fun _ => True) (check b x) w

namespace Clients

/-- **The arrays on the shelf.** -/
def arrays : Clients where
  call := callArray
  list := listArray
  check := checkArray
  call_safe _ _ c _ := callArray_safe quietly_call c
  list_safe b x kind _ := (listArray_safe quietly_call.dial b x kind).mono fun _ _ => trivial
  check_safe _ _ _ := checkArray_safe quietly_call.dial

variable (V : Clients) (b : Bound)

/-! ## Requests -/

def perform (c : Call) : Work (Except Failure c.Answer) := do
  match ← onGateway fun g => ((g.accept c).2, (g.accept c).1) with
  | .error failure =>
    onGateway fun g =>
      (g.observe c.operation (.error failure : Except Failure Unit), .error failure)
  | .ok target =>
    let answer ← b.run c.operation (V.call b target.client c)
    onGateway fun g => g.conclude target.clusterId c answer

def contribute (kind : ResourceKind) (clusterId : String) :
    Work (Gateway.Contribution kind.Item) := do
  match ← ask fun d => d.gateway.targetOf clusterId with
  | .error failure => return ⟨clusterId, .error failure⟩
  | .ok target => return ⟨clusterId, ← b.run kind.listing (V.list b target.client kind)⟩

def listAll (kind : ResourceKind) : Work (Except Failure (Listing kind.Item)) := do
  let ids ← ask fun d => d.gateway.clusters.ids
  let contributions ← Activity.all (ids.map (V.contribute b kind))
  let result := Gateway.gather kind contributions
  onGateway fun g => (g.observe kind.listing result, result)

def checkCluster (clusterId : String) : Work (String × Bool) := do
  match ← ask fun d => d.gateway.targetOf clusterId with
  | .error _ => return (clusterId, false)
  | .ok target =>
    match ← b.run "health_check" (V.check b target.client) with
    | .ok healthy => return (clusterId, healthy)
    | .error _ => return (clusterId, false)

def health : Work (List (String × Bool)) := do
  let ids ← ask fun d => d.gateway.clusters.ids
  Activity.all (ids.map (V.checkCluster b))

/-- What the gateway does for a request. -/
def work : (r : Request) → Work r.Answer
  | .call c => V.perform b c
  | .list kind => V.listAll b kind
  | .health => V.health b
  | .status => Deployment.status

/-! ## One resource of one cluster -/

def verify (client : Client) (r : Resync) : Work (Except Failure Unit) :=
  match r.kind with
  | .volume => do return (← V.call b client (.getVolume r.resourceId)).map fun _ => ()
  | .snapshot => do return (← V.call b client (.getSnapshot r.resourceId)).map fun _ => ()

def resync (r : Resync) : Work (Except Failure ResyncAnswer) := do
  let begun : Except Failure Gateway.Target ← onGateway fun g =>
    match g.beginResync r with
    | .ok (target, g) => (g, .ok target)
    | .error failure => (g, .error failure)
  match begun with
  | .error failure =>
    onGateway fun g =>
      (g.observe resyncOperation (.error failure : Except Failure Unit), .error failure)
  | .ok target =>
    let verified ← b.run resyncOperation (V.verify b target.client r)
    onGateway fun g =>
      let (g, answer) := g.endResync r verified
      (g.observe resyncOperation answer, answer)

/-! ## Passes -/

def fetchInventory (clusterId : String) : Work Gateway.Inventory :=
  .follow fun w => do
    match w.state.gateway.targetOf clusterId with
    | .error failure => return ⟨clusterId, .error failure⟩
    | .ok target =>
      let bound := inventoryBound b w.state.settings w.clock
      let listed ← bound.run "fetch_inventory" <|
        Activity.both (V.list b target.client .volume) (V.list b target.client .snapshot)
      return ⟨clusterId, listed.map fun l => Gateway.inventoryOf clusterId l.1 l.2⟩

def gather (opened : Gateway.OpenPass) : Work (List Gateway.Inventory) :=
  Activity.all (opened.managed.map (V.fetchInventory b))

def syncResources : Work ResourceSyncReport := do
  let opened ← ask fun d => d.gateway.openPass
  let inventories ← V.gather b opened
  Activity.step (takeOver b opened inventories)

def reconcile : Work (Except Failure PassReport) :=
  alone do
    let started ← ask now
    match ← loadClusters with
    | .error failure => return .error failure
    | .ok clusters =>
      let resources ← V.syncResources b
      Activity.onState fun d =>
        let report : PassReport := ⟨clusters, resources, started, d.now⟩
        ({ d with gateway := d.gateway.finishPass report }, .ok report)

def reload : Work (Except Failure PassReport) := do
  let result ← V.reconcile b
  onGateway fun g => (g.observe "reload" result, result)

def resyncAll : Work ResourceSyncReport := do
  let report ← alone (V.syncResources b)
  onGateway fun g =>
    (g.refreshSizes.observe "resync_all" (.ok report : Except Failure ResourceSyncReport), report)

/-! ## Over the arrays -/

theorem perform_arrays (c : Call) : arrays.perform b c = Deployment.perform b c := rfl

theorem work_arrays (r : Request) : arrays.work b r = r.work b := by
  cases r <;> rfl

theorem resync_arrays (r : Resync) : arrays.resync b r = Deployment.resync b r := rfl

theorem reload_arrays : arrays.reload b = Deployment.reload b := rfl

theorem resyncAll_arrays : arrays.resyncAll b = Deployment.resyncAll b := rfl

/-! ## What may change -/

variable {V b} {w : World Deployment}

/-- A call that has been accepted only asks its client. -/
theorem called_quiet {operation : String} {c : Call} {x : Client} :
    Safe quietly (fun _ => True) (b.run operation (V.call b x c)) w :=
  Safe.run (fun _ _ _ _ => trivial) (V.call_safe b x c w)

theorem accepts_quiet (c : Call) :
    Safe quietly (fun _ => True) (onGateway fun g => ((g.accept c).2, (g.accept c).1)) w :=
  onGateway_safe fun _ _ => ⟨⟨(accept_quiet _ c).1, (accept_quiet _ c).2, rfl⟩, trivial⟩

/-- **A call ends with the act that concludes it**, and leaves the owners alone before. -/
theorem perform_ends (c : Call) : Ends quietly (Concludes (.call c)) (V.perform b c) := by
  refine Ends.bind (fun target => ?_) fun _ => accepts_quiet c
  cases target with
  | error failure => exact Ends.step fun w => ⟨rfl, by cases c <;> rfl, rfl⟩
  | ok target =>
    refine Ends.bind (fun answer => ?_) fun _ => called_quiet
    refine Ends.step fun w => ?_
    obtain ⟨hclusters, hresources⟩ := conclude_settled w.state.gateway target.clusterId c answer
    exact ⟨hclusters, hresources, rfl⟩

theorem listAll_quiet (kind : ResourceKind) :
    Safe quietly (fun _ => True) (V.listAll b kind) w := by
  refine Safe.bind (fun ids v _ => ?_) (Safe.look (Q := fun _ => True) fun _ _ => trivial)
  have hone : ∀ c ∈ ids, Safe quietly (fun _ => True) (V.contribute b kind c) v := by
    intro c _
    refine Safe.bind (fun target x _ => ?_) (Safe.look (Q := fun _ => True) fun _ _ => trivial)
    cases target with
    | error failure => trivial
    | ok target =>
      refine Safe.bind (fun _ _ _ => ?_)
        (Safe.run (fun _ _ _ _ => trivial) (V.list_safe b target.client kind x))
      trivial
  refine Safe.bind (fun _ _ _ => ?_) (Safe.all hone)
  exact onGateway_safe fun _ _ => ⟨⟨rfl, rfl, rfl⟩, trivial⟩

theorem health_quiet : Safe quietly (fun _ => True) (V.health b) w := by
  refine Safe.bind (fun ids v _ => ?_) (Safe.look (Q := fun _ => True) fun _ _ => trivial)
  have hone : ∀ c ∈ ids, Safe quietly (fun _ => True) (V.checkCluster b c) v := by
    intro c _
    refine Safe.bind (fun target x _ => ?_) (Safe.look (Q := fun _ => True) fun _ _ => trivial)
    cases target with
    | error failure => trivial
    | ok target =>
      refine Safe.bind (fun answer _ _ => ?_)
        (Safe.run (fun _ _ _ _ => trivial) (V.check_safe b target.client x))
      cases answer <;> trivial
  exact (Safe.all hone).mono fun _ _ => trivial

theorem verify_quiet (x : Client) (r : Resync) :
    Safe quietly (fun _ => True) (V.verify b x r) w := by
  unfold verify
  cases r.kind with
  | volume =>
    refine Safe.bind (fun _ _ _ => ?_) (V.call_safe b x (.getVolume r.resourceId) w)
    trivial
  | snapshot =>
    refine Safe.bind (fun _ _ _ => ?_) (V.call_safe b x (.getSnapshot r.resourceId) w)
    trivial

end Clients

end FederatedStorage.Deployment
