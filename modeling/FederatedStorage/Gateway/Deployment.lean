import FederatedStorage.Cluster.Source
import FederatedStorage.Gateway.Pass
import FederatedStorage.Schedule.Bound

/-!
# A running gateway

A gateway together with what surrounds it: the shelf of its arrays, the network, the source of its
configuration and the lock that keeps passes apart. The gateway's operations are activities on it:
what they decide is decided in one act each, by the functions of `FederatedStorage.Gateway.State`
and `FederatedStorage.Gateway.Pass`, and between those acts they wait for arrays.

## Main definitions

* `perform`: a call about one resource.
* `listAll`, `resync`, `health`: the other requests.
* `reload`, `resyncAll`, `syncOnly`, `periodic`: passes.
-/

namespace FederatedStorage

open Schedule Time

/-- Who may run a pass, and who waits for it. -/
structure PassLock where
  holder : Option Nat
  queue : List Nat
  nextTicket : Nat
deriving DecidableEq, Repr

namespace PassLock

/-- Nobody runs a pass. -/
def free : PassLock := ⟨none, [], 0⟩

/-- Takes a ticket, and the lock if it is free. -/
def enter (l : PassLock) : PassLock × Nat :=
  let t := l.nextTicket
  match l.holder with
  | none => (⟨some t, l.queue, t + 1⟩, t)
  | some h => (⟨some h, l.queue ++ [t], t + 1⟩, t)

/-- Hands the lock to the ticket that has waited longest. -/
def leave (l : PassLock) : PassLock :=
  match l.queue with
  | [] => { l with holder := none }
  | t :: rest => { l with holder := some t, queue := rest }

end PassLock

/-- How passes treat clusters that do not answer. -/
structure PassSettings where
  /-- Whether the owners of a failed cluster's resources are kept. -/
  preserve : Bool
  /-- How long a cluster may take for its inventory. -/
  fetchTimeoutMs : Option Nat
deriving DecidableEq, Repr

/-- **A running gateway.** -/
structure Deployment where
  gateway : Gateway
  shelf : Shelf
  factory : Factory
  network : Network
  source : ClusterSource
  settings : PassSettings
  lock : PassLock
  /-- The time that arrays and reports are stamped with. -/
  now : Timestamp

namespace Deployment

/-- A deployment before its first pass. -/
def new (seed : UInt64) (factory : Factory) (shelf : Shelf) (source : ClusterSource)
    (settings : PassSettings) (now : Timestamp) : Deployment :=
  ⟨.new seed, shelf, factory, .unreachable, source, settings, .free, now⟩

/-- The activities of a deployment. -/
abbrev Work (α : Type) := Activity Deployment α

/-- An act on the gateway. -/
def onGateway {α : Type} (f : Gateway → Gateway × α) : Work α :=
  .onState fun d => ({ d with gateway := (f d.gateway).1 }, (f d.gateway).2)

/-- Looks at the deployment. -/
def ask {α : Type} (f : Deployment → α) : Work α := .look fun w => f w.state

/-! ## Arrays -/

/-- One attempt on a remote array: its outcome, and the pause after it. -/
def attempt (client : Client) (request : RemoteRequest) (number : Nat) : Work (Outcome × Nat) :=
  .onState fun d =>
    match d.shelf.get? client with
    | some (.remote r) =>
      let (r, outcome) := r.attempt d.network request
      ({ d with shelf := d.shelf.set client (.remote r) },
        (outcome, pauseMs r.config.retryInitialMs.toNat number))
    | _ => (d, (.waiting, 0))

/-- **Attempts on a remote array** until an outcome is final. They are counted with 32 bits: `made` is
the count so far, and it comes round after the largest number. No branch of an activity is infinite,
so the attempts are followed up to a limit, and what has come to it waits for ever. -/
def send (client : Client) (request : RemoteRequest) (maxRetries made : UInt32) (number : Nat) :
    Nat → Work Outcome
  | 0 => (Activity.await fun _ => false).map fun _ => .waiting
  | limit + 1 =>
    (attempt client request number).bind fun (outcome, pause) =>
      if outcome.isFinal request.method.isIdempotent (isLastAttempt maxRetries (made + 1)) then
        .done outcome
      else
        (Activity.sleep pause).bind fun _ =>
          send client request maxRetries (made + 1) (number + 1) limit

/-- How many attempts of a request are followed: as many as can be counted. Only with the largest
number of repetitions, of which no attempt is the last, may there be more. -/
def attemptLimit : Nat := UInt32.size

/-- A whole request to a remote array, within its caller's bound. A request that is never answered
waits for the bound. -/
def sendWithin (b : Bound) (operation : String) (client : Client) (r : Remote)
    (request : RemoteRequest) : Work (Except Failure (List UInt8)) :=
  b.run operation do
    match ← send client request r.config.maxRetries 0 0 attemptLimit with
    | .answered payload => return .ok payload
    | .failed failure _ => return .error failure
    | .waiting =>
      Activity.await fun _ => false
      return .error (.timeout operation)

/-- Asks an array about one resource. -/
def callArray (b : Bound) (client : Client) (c : Call) : Work (Except Failure c.Answer) :=
  .follow fun w =>
    match w.state.shelf.get? client with
    | some (.loopback _) =>
      Activity.onState fun d =>
        match d.shelf.get? client with
        | some (.loopback a) =>
          let (a, answer) := a.perform d.now c
          ({ d with shelf := d.shelf.set client (.loopback a) }, answer)
        | _ => (d, .error (.internal "no such array"))
    | some (.remote r) => do
      let request := Remote.requestOf c
      let payload ← sendWithin b c.operation client r request
      return payload.bind fun p => Remote.answerOf (w.state.network.complaint request p) c p
    | none => .done (.error (.internal "no such array"))

/-- Asks an array for its resources of a kind. The answer shows the array as of the asking; a
loopback array may take its time to give it. -/
def listArray (b : Bound) (client : Client) (kind : ResourceKind) :
    Work (Except Failure (List kind.Item)) :=
  .follow fun w =>
    match w.state.shelf.get? client with
    | some (.loopback a) =>
      match a.list kind, a.config.listLatencyMs with
      | .ok items, some ms => do
        Activity.waitUntil (w.clock + ms.toNat)
        return .ok items
      | answer, _ => .done answer
    | some (.remote r) => do
      let request := Remote.listRequest kind
      let payload ← sendWithin b kind.listing client r request
      return payload.bind fun p => Remote.itemsOf (w.state.network.complaint request p) kind p
    | none => .done (.error (.internal "no such array"))

/-- Asks an array whether it is well. -/
def checkArray (b : Bound) (client : Client) : Work (Except Failure Bool) :=
  .follow fun w =>
    match w.state.shelf.get? client with
    | some (.loopback a) => .done (.ok a.isHealthy)
    | some (.remote r) => do
      match ← sendWithin b "health_check" client r Remote.healthRequest with
      | .ok _ => return .ok true
      | .error failure => return if failure.isTransient then .ok false else .error failure
    | none => .done (.error (.internal "no such array"))

/-! ## Requests -/

/-- **A call about one resource**: it is accepted or not, forwarded to one cluster, and concluded.
-/
def perform (b : Bound) (c : Call) : Work (Except Failure c.Answer) := do
  match ← onGateway fun g => ((g.accept c).2, (g.accept c).1) with
  | .error failure =>
    onGateway fun g =>
      (g.observe c.operation (.error failure : Except Failure Unit), .error failure)
  | .ok target =>
    let answer ← b.run c.operation (callArray b target.client c)
    onGateway fun g => g.conclude target.clusterId c answer

/-- What one cluster contributes to a listing. -/
def contribute (b : Bound) (kind : ResourceKind) (clusterId : String) :
    Work (Gateway.Contribution kind.Item) := do
  match ← ask fun d => d.gateway.targetOf clusterId with
  | .error failure => return ⟨clusterId, .error failure⟩
  | .ok target => return ⟨clusterId, ← b.run kind.listing (listArray b target.client kind)⟩

/-- **The resources of a kind on all clusters.** -/
def listAll (b : Bound) (kind : ResourceKind) : Work (Except Failure (Listing kind.Item)) := do
  let ids ← ask fun d => d.gateway.clusters.ids
  let contributions ← Activity.all (ids.map (contribute b kind))
  let result := Gateway.gather kind contributions
  onGateway fun g => (g.observe kind.listing result, result)

/-- The call that verifies a resource, of which only success or failure matters. -/
def verify (b : Bound) (client : Client) (r : Resync) : Work (Except Failure Unit) :=
  match r.kind with
  | .volume => do return (← callArray b client (.getVolume r.resourceId)).map fun _ => ()
  | .snapshot => do return (← callArray b client (.getSnapshot r.resourceId)).map fun _ => ()

/-- The name of a resync among the metrics. -/
def resyncOperation : String := "resync_resource"

/-- **Takes a resource for a cluster's**, and looks whether it is there. -/
def resync (b : Bound) (r : Resync) : Work (Except Failure ResyncAnswer) := do
  let begun : Except Failure Gateway.Target ← onGateway fun g =>
    match g.beginResync r with
    | .ok (target, g) => (g, .ok target)
    | .error failure => (g, .error failure)
  match begun with
  | .error failure =>
    onGateway fun g =>
      (g.observe resyncOperation (.error failure : Except Failure Unit), .error failure)
  | .ok target =>
    let verified ← b.run resyncOperation (verify b target.client r)
    onGateway fun g =>
      let (g, answer) := g.endResync r verified
      (g.observe resyncOperation answer, answer)

/-- Whether one cluster is well; a cluster that cannot be asked is not. -/
def checkCluster (b : Bound) (clusterId : String) : Work (String × Bool) := do
  match ← ask fun d => d.gateway.targetOf clusterId with
  | .error _ => return (clusterId, false)
  | .ok target =>
    match ← b.run "health_check" (checkArray b target.client) with
    | .ok healthy => return (clusterId, healthy)
    | .error _ => return (clusterId, false)

/-- **Whether each cluster is well.** -/
def health (b : Bound) : Work (List (String × Bool)) := do
  let ids ← ask fun d => d.gateway.clusters.ids
  Activity.all (ids.map (checkCluster b))

/-- The state in numbers. -/
def status : Work GatewayStatus := onGateway fun g => (g.status.2, g.status.1)

/-! ## Passes -/

/-- Runs an activity alone among those that hold the lock. -/
def alone {α : Type} (p : Work α) : Work α := do
  let ticket ← Activity.onState fun (d : Deployment) =>
    ({ d with lock := d.lock.enter.1 }, d.lock.enter.2)
  Activity.await fun w => w.state.lock.holder == some ticket
  let a ← p
  Activity.onState fun d => ({ d with lock := d.lock.leave }, a)

/-- **Loads the configuration** and registers its clusters. A configuration that is no good changes
nothing. -/
def loadClusters : Work (Except Failure ClusterSyncReport) :=
  .onState fun d =>
    match d.source.load with
    | .error failure => (d, .error failure)
    | .ok descriptors =>
      let s := Gateway.syncClusters d.factory d.now descriptors d.gateway.clusters d.shelf
      ({ d with gateway := { d.gateway with clusters := s.clusters }, shelf := s.shelf },
        .ok s.report)

/-- The bound of asking for one inventory: a limit of its own goes before the caller's deadline. -/
def inventoryBound (b : Bound) (settings : PassSettings) (clock : Nat) : Bound :=
  match settings.fetchTimeoutMs with
  | some ms => { b with deadline := some (clock + ms) }
  | none => b

/-- **Asks one cluster for its inventory**: both kinds of resources at once. -/
def fetchInventory (b : Bound) (clusterId : String) : Work Gateway.Inventory :=
  .follow fun w => do
    match w.state.gateway.targetOf clusterId with
    | .error failure => return ⟨clusterId, .error failure⟩
    | .ok target =>
      let bound := inventoryBound b w.state.settings w.clock
      let listed ← bound.run "fetch_inventory" <|
        Activity.both (listArray b target.client .volume) (listArray b target.client .snapshot)
      return ⟨clusterId, listed.map fun l => Gateway.inventoryOf clusterId l.1 l.2⟩

/-- Asks every managed cluster for its inventory. -/
def gather (b : Bound) (opened : Gateway.OpenPass) : Work (List Gateway.Inventory) :=
  Activity.all (opened.managed.map (fetchInventory b))

/-- The world once the inventories are taken over, and what became of the resources. -/
def takeOver (b : Bound) (opened : Gateway.OpenPass) (inventories : List Gateway.Inventory)
    (w : World Deployment) : World Deployment × ResourceSyncReport :=
  let (g, report) :=
    w.state.gateway.closePass opened inventories (w.isCancelled b.token) w.state.settings.preserve
  ({ w with state := { w.state with gateway := g } }, report)

/-- **Asks for all inventories** and brings the owners in line with them. -/
def syncResources (b : Bound) : Work ResourceSyncReport := do
  let opened ← ask fun d => d.gateway.openPass
  let inventories ← gather b opened
  Activity.step (takeOver b opened inventories)

/-- **A whole pass.** -/
def reconcile (b : Bound) : Work (Except Failure PassReport) :=
  alone do
    let started ← ask now
    match ← loadClusters with
    | .error failure => return .error failure
    | .ok clusters =>
      let resources ← syncResources b
      Activity.onState fun d =>
        let report : PassReport := ⟨clusters, resources, started, d.now⟩
        ({ d with gateway := d.gateway.finishPass report }, .ok report)

/-- A whole pass that somebody asked for. -/
def reload (b : Bound) : Work (Except Failure PassReport) := do
  let result ← reconcile b
  onGateway fun g => (g.observe "reload" result, result)

/-- **The resources' part of a pass** alone. -/
def resyncAll (b : Bound) : Work ResourceSyncReport := do
  let report ← alone (syncResources b)
  onGateway fun g =>
    (g.refreshSizes.observe "resync_all" (.ok report : Except Failure ResourceSyncReport), report)

/-- The clusters' part of a pass alone. -/
def syncOnly : Work (Except Failure ClusterSyncReport) := alone loadClusters

/-- When a pass that was due at an instant is followed by the next: a pass that comes too late moves
all that follow. -/
def nextDue (due intervalMs clock : Nat) : Nat :=
  if due + 5 < clock then clock + intervalMs else due + intervalMs

/-- Passes at an interval, the next at the instant `due`, until the token is cancelled, for at most
so many rounds. -/
def rounds (token : Token) (intervalMs due : Nat) : Nat → Work Unit
  | 0 => .done ()
  | n + 1 =>
    .wait (fun w => w.isCancelled token || due ≤ w.clock) (some due) <|
      .follow fun w =>
        if w.isCancelled token then .done ()
        else do
          let own ← Activity.step fun w => ((w.newToken token).2, (w.newToken token).1)
          let _ ← reconcile ⟨own, none⟩
          rounds token intervalMs (nextDue due intervalMs w.clock) n

/-- **A pass every so often**, the first after one interval, until the token is cancelled. An
interval of nothing is none: then no pass runs, and the answer is no. -/
def periodic (token : Token) (intervalMs limit : Nat) : Work Bool :=
  if intervalMs == 0 then .done false
  else .follow fun w => (rounds token intervalMs (w.clock + intervalMs) limit).map fun _ => true

end Deployment

end FederatedStorage
