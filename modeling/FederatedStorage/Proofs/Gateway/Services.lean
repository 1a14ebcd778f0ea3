import FederatedStorage.Proofs.Gateway.Clients
import FederatedStorage.Proofs.Gateway.Evolution
import FederatedStorage.Proofs.Schedule.Customers

/-!
# What the gateway is asked for, and what it costs

Everything that can be asked of the gateway, over clients of any kind that keep their hands off it.
Books are kept of each: whatever it does to the gateway is made of the changes that can happen to
one, the counters grow by what its answer is to be billed, neither more nor less and on every way
that it may take, and where the sizes of the registries are to be shown in the end they are noted
after the last wait.

## Main definitions

* `Asking`, `Demand`: what is asked for, and within which bound.
* `Asking.bill`: what an answer adds to the counters.
* `Clients.serve`: what the gateway does for a demand.
* `Books`, `books`: what is noted of it.
* `periodicScript`: passes at an interval, as a script.

## Main statements

* `Clients.serve_audited`: the books of every demand are in order.
* `activity_periodicScript`: the script is what the gateway does.
-/

namespace FederatedStorage.Deployment

open Schedule Gateway

/-! ## What is asked for -/

/-- **What can be asked of the gateway**: a request, a resource to be taken for a cluster's, and
passes and their parts. Those that the gateway makes by itself are among them. -/
inductive Asking
  | request (r : Request)
  | resync (r : Resync)
  | reload
  | resyncAll
  | reconcile
  | syncResources
  | syncClusters

namespace Asking

/-- The type of the answer. -/
abbrev Answer : Asking → Type
  | request r => r.Answer
  | resync _ => Except Failure ResyncAnswer
  | reload => Except Failure PassReport
  | resyncAll => ResourceSyncReport
  | reconcile => Except Failure PassReport
  | syncResources => ResourceSyncReport
  | syncClusters => Except Failure ClusterSyncReport

/-- The operation that is counted, if one is. -/
def operation? : Asking → Option Operation
  | request (.call c) => some (.ofCall c)
  | request (.list kind) => some (.ofListing kind)
  | resync _ => some .resyncResource
  | reload => some .reload
  | resyncAll => some .resyncAll
  | _ => none

/-- The outcome that an answer is counted with: that all went well, or the kind of the failure. -/
def outcome : (k : Asking) → k.Answer → String
  | request (.call _), r => Metrics.outcomeName r
  | request (.list _), r => Metrics.outcomeName r
  | resync _, r => Metrics.outcomeName r
  | reload, r => Metrics.outcomeName r
  | _, _ => "ok"

/-- The report of a whole pass, if the answer is one. -/
def report? : (k : Asking) → k.Answer → Option PassReport
  | reload, .ok report => some report
  | reconcile, .ok report => some report
  | _, _ => none

/-- Whether the metrics show the sizes of the registries after this. -/
def Refreshes : (k : Asking) → k.Answer → Prop
  | request .status, _ => True
  | reload, .ok _ => True
  | reconcile, .ok _ => True
  | resyncAll, _ => True
  | _, _ => False

/-- **What an answer adds to a counter.** -/
def bill (c : Counter) (k : Asking) (a : k.Answer) : Nat :=
  (k.operation?.elim 0 fun op => c.addedByRequest op (k.outcome a))
    + (k.report? a).elim 0 fun report => c.addedByPass report.resources.fetchFailures.length

end Asking

/-- Something that is asked for within a bound. -/
structure Demand where
  bound : Bound
  asking : Asking

/-- The type of a demand's answer. -/
abbrev Demand.Answer (d : Demand) : Type := d.asking.Answer

/-! ## What the gateway does -/

/-- The gateway is as it was. -/
def Detached (v w : World Deployment) : Prop := w.state.gateway = v.state.gateway

/-- Nothing to count on, and acts that leave the gateway alone. -/
def detachedly : Rely Deployment := .nothing Detached fun _ => rfl

theorem detachedly_call : LetsCall detachedly := fun _ _ => rfl

namespace Clients

/-- **Clients that keep their hands off the gateway.** -/
structure Discreet (V : Clients) : Prop where
  call : ∀ b x c w, Safe detachedly (fun _ => True) (V.call b x c) w
  list : ∀ b x kind w, Safe detachedly (fun _ => True) (V.list b x kind) w
  check : ∀ b x w, Safe detachedly (fun _ => True) (V.check b x) w

/-- The arrays on the shelf are such clients. -/
theorem arrays_discreet : Discreet arrays where
  call _ _ c _ := callArray_safe detachedly_call c
  list b x kind _ := (listArray_safe detachedly_call.dial b x kind).mono fun _ _ => trivial
  check _ _ _ := checkArray_safe detachedly_call.dial

/-- What the gateway does for what it is asked. -/
def meet (V : Clients) (b : Bound) : (k : Asking) → Work k.Answer
  | .request r => V.work b r
  | .resync r => V.resync b r
  | .reload => V.reload b
  | .resyncAll => V.resyncAll b
  | .reconcile => V.reconcile b
  | .syncResources => alone (V.syncResources b)
  | .syncClusters => syncOnly

/-- **What the gateway does for a demand.** -/
def serve (V : Clients) (d : Demand) : Work d.Answer := V.meet d.bound d.asking

end Clients

/-! ## Books -/

/-- **What is noted of an activity**: what it has added to the counters, and whether it has noted the
sizes of the registries since its last wait. -/
structure Books where
  added : Counter → Nat
  noted : Bool

/-- Nothing is noted yet. -/
def Books.blank : Books := ⟨fun _ => 0, false⟩

/-- **The audit of the gateway**: only what can happen to it happens, every counter grows by what the
books say, and when they say so the sizes are shown. -/
def books : Audit Deployment Books where
  act v w m m' :=
    Evolves v.state.gateway w.state.gateway ∧
    (∃ added, (∀ c, m'.added c = m.added c + added c) ∧
      Counts v.state.gateway added w.state.gateway) ∧
    ((m.noted = true → ShowsSizes v.state.gateway) → m'.noted = true → ShowsSizes w.state.gateway)
  wait m m' := m'.added = m.added ∧ m'.noted = false

/-- The books when something has been met. -/
def Settles (k : Asking) (a : k.Answer) (m : Books) : Prop :=
  (∀ c, m.added c = k.bill c a) ∧ (k.Refreshes a → m.noted = true)

section Rules

variable {α β : Type} {Q : α → Books → Prop} {S : β → Books → Prop} {m : Books}

/-- What leaves the gateway alone needs no note. -/
theorem books_detached {v w : World Deployment} (h : Detached v w) : books.act v w m m := by
  have h : w.state.gateway = v.state.gateway := h
  refine ⟨?_, ⟨fun _ => 0, fun _ => rfl, counts_nothing ?_ ?_⟩, ?_⟩
  · rw [h]
  · rw [h]
  · rw [h]
  · rw [h]
    exact id

/-- A wait with blank books. -/
theorem books_wait : books.wait .blank .blank := ⟨rfl, rfl⟩

/-- What leaves the gateway alone, waits and all. -/
theorem audited_of_discreet {P : α → Prop} {p : Work α} {w : World Deployment}
    (h : Safe detachedly P p w) : Audited books (fun _ m => m = .blank) p .blank := by
  refine (Audited.of_safe (I := fun m => m = .blank) ?_ ?_ h rfl).mono fun _ _ hm => hm.2
  · rintro u v m hdetached rfl
    exact ⟨.blank, books_detached hdetached, rfl⟩
  · rintro m rfl
    exact ⟨.blank, books_wait, rfl⟩

/-- What changes the gateway, but none of its metrics and not its report. -/
theorem books_uncounted {v w : World Deployment} (h : Evolves v.state.gateway w.state.gateway)
    (hmetrics : w.state.gateway.metrics = v.state.gateway.metrics)
    (hreport : w.state.gateway.lastReport = v.state.gateway.lastReport) :
    books.act v w .blank .blank := by
  refine ⟨h, ⟨fun _ => 0, fun _ => rfl, counts_nothing hmetrics hreport⟩, fun _ hnoted => ?_⟩
  cases hnoted

/-- **A request that is counted** after some change to the gateway. -/
theorem books_request {v w : World Deployment} {g : Gateway} {op : Operation} {operation : String}
    {result : Except Failure α} (hname : op.name = operation) (hg : Evolves v.state.gateway g)
    (hcounts : Counts v.state.gateway (fun _ => 0) g)
    (hw : w.state.gateway = g.observe operation result) :
    books.act v w .blank ⟨Counter.addedByRequest op (Metrics.outcomeName result), false⟩ := by
  subst hname
  refine ⟨?_, ⟨_, fun c => (Nat.zero_add _).symm, ?_⟩, fun _ hnoted => ?_⟩
  · rw [hw]
    exact hg.tail (.request g op.name result)
  · rw [hw]
    exact hcounts.after_nothing (counts_observe g op result)
  · cases hnoted

/-- What is counted as a request and as nothing else. -/
theorem settles_request {k : Asking} {a : k.Answer} {op : Operation} {outcome : String}
    (hop : k.operation? = some op) (hreport : k.report? a = none) (hsizes : ¬ k.Refreshes a)
    (houtcome : outcome = k.outcome a) : Settles k a ⟨Counter.addedByRequest op outcome, false⟩ := by
  subst houtcome
  refine ⟨fun c => ?_, fun h => absurd h hsizes⟩
  simp [Asking.bill, hop, hreport]

/-- What is not counted. -/
theorem settles_blank {k : Asking} {a : k.Answer} (hop : k.operation? = none)
    (hreport : k.report? a = none) (hsizes : ¬ k.Refreshes a) : Settles k a .blank := by
  refine ⟨fun c => ?_, fun h => absurd h hsizes⟩
  simp [Asking.bill, hop, hreport, Books.blank]

/-- A look at the deployment, and then another activity. -/
theorem ask_audited {f : Deployment → α} {g : α → Work β}
    (h : ∀ w : World Deployment, Audited books S (g (f w.state)) m) :
    Audited books S ((ask f).bind g) m := fun w => ⟨m, books_detached rfl, h w⟩

/-- **Alone among those that hold the lock** an activity is audited as it is anyway. -/
theorem alone_audited {p : Work α} (h : Audited books Q p .blank) :
    Audited books Q (alone p) .blank := by
  unfold alone
  refine Audited.step_bind fun w => ⟨.blank, books_detached rfl, ?_⟩
  refine Audited.await_bind books_wait ?_
  refine Audited.bind (fun a m hQ => ?_) h
  exact Audited.step fun w => ⟨m, books_detached rfl, hQ⟩

end Rules

/-! ## Requests -/

namespace Clients

variable {V : Clients} {b : Bound}

/-- **A call is counted once**, with the outcome that it is answered with. -/
theorem perform_audited (hV : V.Discreet) (c : Call) :
    Audited books (Settles (.request (.call c))) (V.perform b c) .blank := by
  have hname := Operation.name_ofCall c
  have hsettles : ∀ r : Except Failure c.Answer, ∀ outcome, outcome = Metrics.outcomeName r →
      Settles (.request (.call c)) r ⟨Counter.addedByRequest (.ofCall c) outcome, false⟩ :=
    fun r outcome houtcome => settles_request rfl rfl id houtcome
  refine Audited.step_bind fun w => ⟨.blank, ?_, ?_⟩
  · obtain ⟨d, hd⟩ := accept_draws w.state.gateway c
    have hmetrics : (w.state.gateway.accept c).2.metrics = w.state.gateway.metrics := by rw [hd]
    have hreport : (w.state.gateway.accept c).2.lastReport = w.state.gateway.lastReport := by rw [hd]
    exact books_uncounted (accept_evolves _ c) hmetrics hreport
  · dsimp only
    cases (w.state.gateway.accept c).1 with
    | error failure =>
      refine Audited.step fun w => ⟨_, books_request hname .refl (counts_nothing rfl rfl) rfl, ?_⟩
      exact hsettles _ _ rfl
    | ok target =>
      have hcalled : Safe detachedly (fun _ => True)
          (b.run c.operation (V.call b target.client c)) w :=
        Safe.run (fun _ _ _ _ => trivial) (hV.call b target.client c w)
      refine Audited.bind (fun answer m hm => ?_) (audited_of_discreet hcalled)
      subst hm
      refine Audited.step fun w => ?_
      obtain ⟨o, ho⟩ := conclude_owners w.state.gateway target.clusterId c answer
      refine ⟨_, books_request hname (.single (.owners _ o)) ?_ ho, hsettles _ _ rfl⟩
      exact counts_nothing rfl rfl

theorem contribute_detached (hV : V.Discreet) (kind : ResourceKind) (clusterId : String)
    (w : World Deployment) :
    Safe detachedly (fun _ => True) (V.contribute b kind clusterId) w := by
  refine Safe.bind (fun target x _ => ?_) (Safe.look (Q := fun _ => True) fun _ _ => trivial)
  cases target with
  | error failure => trivial
  | ok target =>
    refine Safe.bind (fun _ _ _ => ?_)
      (Safe.run (fun _ _ _ _ => trivial) (hV.list b target.client kind x))
    trivial

/-- **A listing is counted once**, however many clusters contribute to it. -/
theorem listAll_audited (hV : V.Discreet) (kind : ResourceKind) :
    Audited books (Settles (.request (.list kind))) (V.listAll b kind) .blank := by
  unfold listAll
  refine ask_audited fun w => ?_
  have hall : Safe detachedly _
      (Activity.all (w.state.gateway.clusters.ids.map (V.contribute b kind))) w :=
    Safe.all fun c _ => contribute_detached hV kind c w
  refine Audited.bind (fun contributions m hm => ?_) (audited_of_discreet hall)
  subst hm
  have hname := Operation.name_ofListing kind
  refine Audited.step fun w => ⟨_, books_request hname .refl (counts_nothing rfl rfl) rfl, ?_⟩
  exact settles_request rfl rfl id rfl

theorem checkCluster_detached (hV : V.Discreet) (clusterId : String) (w : World Deployment) :
    Safe detachedly (fun _ => True) (V.checkCluster b clusterId) w := by
  refine Safe.bind (fun target x _ => ?_) (Safe.look (Q := fun _ => True) fun _ _ => trivial)
  cases target with
  | error failure => trivial
  | ok target =>
    refine Safe.bind (fun answer _ _ => ?_)
      (Safe.run (fun _ _ _ _ => trivial) (hV.check b target.client x))
    cases answer <;> trivial

/-- Looking after the clusters is not counted. -/
theorem health_audited (hV : V.Discreet) :
    Audited books (Settles (.request .health)) (V.health b) .blank := by
  unfold health
  refine ask_audited fun w => ?_
  have hall : Safe detachedly _
      (Activity.all (w.state.gateway.clusters.ids.map (V.checkCluster b))) w :=
    Safe.all fun c _ => checkCluster_detached hV c w
  refine (audited_of_discreet hall).mono fun _ m hm => ?_
  subst hm
  exact settles_blank rfl rfl id

/-- Nor is looking at the state, but it notes the sizes. -/
theorem status_audited : Audited books (Settles (.request .status)) status .blank := by
  refine Audited.step fun w => ⟨⟨fun _ => 0, true⟩, ⟨?_, ?_, fun _ _ => ?_⟩, fun c => ?_, ?_⟩
  · exact .single (.sizes w.state.gateway)
  · exact ⟨fun _ => 0, fun _ => rfl, counts_refreshSizes w.state.gateway⟩
  · exact showsSizes_refreshSizes w.state.gateway
  · rfl
  · exact fun _ => rfl

/-! ## One resource of one cluster -/

theorem verify_detached (hV : V.Discreet) (x : Client) (r : Resync) (w : World Deployment) :
    Safe detachedly (fun _ => True) (V.verify b x r) w := by
  unfold verify
  cases r.kind with
  | volume =>
    refine Safe.bind (fun _ _ _ => ?_) (hV.call b x (.getVolume r.resourceId) w)
    trivial
  | snapshot =>
    refine Safe.bind (fun _ _ _ => ?_) (hV.call b x (.getSnapshot r.resourceId) w)
    trivial

/-- **A resync is counted once**, and the call that it makes is not counted by itself. -/
theorem resync_audited (hV : V.Discreet) (r : Resync) :
    Audited books (Settles (.resync r)) (V.resync b r) .blank := by
  have hname : Operation.resyncResource.name = resyncOperation := rfl
  refine Audited.step_bind fun w => ⟨Books.blank, ?_⟩
  cases hbegin : w.state.gateway.beginResync r with
  | error failure =>
    simp only [hbegin]
    refine ⟨books_detached rfl, ?_⟩
    refine Audited.step fun w => ⟨_, books_request hname .refl (counts_nothing rfl rfl) rfl, ?_⟩
    exact settles_request rfl rfl id rfl
  | ok begun =>
    obtain ⟨target, g⟩ := begun
    simp only [hbegin]
    have hg := beginResync_owners hbegin
    subst hg
    refine ⟨books_uncounted (.single (.owners _ _)) rfl rfl, ?_⟩
    have hverified : Safe detachedly (fun _ => True)
        (b.run resyncOperation (V.verify b target.client r)) w :=
      Safe.run (fun _ _ _ _ => trivial) (verify_detached hV target.client r w)
    refine Audited.bind (fun verified m hm => ?_) (audited_of_discreet hverified)
    subst hm
    refine Audited.step fun w => ?_
    obtain ⟨o, ho⟩ := endResync_owners w.state.gateway r verified
    refine ⟨_, books_request hname (.single (.owners _ o)) (counts_nothing rfl rfl) ?_,
      settles_request rfl rfl id rfl⟩
    rw [← ho]

/-! ## Passes -/

theorem fetchInventory_detached (hV : V.Discreet) (clusterId : String) (w : World Deployment) :
    Safe detachedly (fun _ => True) (V.fetchInventory b clusterId) w := by
  refine Safe.follow fun v _ => ?_
  cases v.state.gateway.targetOf clusterId with
  | error failure => trivial
  | ok target =>
    have hboth := Safe.both (hV.list b target.client .volume v) (hV.list b target.client .snapshot v)
    refine Safe.bind (Q := fun _ => True) (fun _ _ _ => ?_)
      (Safe.run (fun _ _ _ _ => trivial) (hboth.mono fun _ _ => trivial))
    trivial

/-- **The resources' part of a pass** counts nothing. -/
theorem syncResources_audited (hV : V.Discreet) :
    Audited books (fun _ m => m = .blank) (V.syncResources b) .blank := by
  unfold syncResources
  refine ask_audited fun w => ?_
  have hall : Safe detachedly _ (V.gather b w.state.gateway.openPass) w :=
    Safe.all fun c _ => fetchInventory_detached hV c w
  refine Audited.bind (fun inventories m hm => ?_) (audited_of_discreet hall)
  subst hm
  refine Audited.step fun v => ⟨Books.blank, ?_, rfl⟩
  obtain ⟨o, ho⟩ := closePass_owners v.state.gateway w.state.gateway.openPass inventories
    (v.isCancelled b.token) v.state.settings.preserve
  have hclosed : (takeOver b w.state.gateway.openPass inventories v).1.state.gateway =
      { v.state.gateway with resources := o } := ho
  refine books_uncounted ?_ ?_ ?_
  · rw [hclosed]
    exact .single (.owners _ o)
  · show (takeOver b w.state.gateway.openPass inventories v).1.state.gateway.metrics = _
    rw [hclosed]
  · show (takeOver b w.state.gateway.openPass inventories v).1.state.gateway.lastReport = _
    rw [hclosed]

/-- **Loading the configuration** counts nothing. -/
theorem loadClusters_audited : Audited books (fun _ m => m = .blank) loadClusters .blank := by
  refine Audited.step fun w => ⟨Books.blank, ?_, rfl⟩
  dsimp only
  cases w.state.source.load with
  | error failure => exact books_detached rfl
  | ok ds => exact books_uncounted (.single (.clusters _ w.state.factory w.state.now ds _)) rfl rfl

/-- **A whole pass is counted once**, if it comes to report anything, and notes the sizes then. -/
theorem reconcile_audited (hV : V.Discreet) :
    Audited books (Settles .reconcile) (V.reconcile b) .blank := by
  refine alone_audited ?_
  refine ask_audited fun w => ?_
  refine Audited.bind (fun loaded m hm => ?_) loadClusters_audited
  subst hm
  cases loaded with
  | error failure => exact settles_blank rfl rfl id
  | ok clusters =>
    refine Audited.bind (fun resources m hm => ?_) (syncResources_audited hV)
    subst hm
    refine Audited.step fun v => ?_
    let report : PassReport := ⟨clusters, resources, w.state.now, v.state.now⟩
    let added := Counter.addedByPass resources.fetchFailures.length
    refine ⟨⟨added, true⟩, ⟨.single (.pass v.state.gateway report), ⟨added, fun c => ?_, ?_⟩,
      fun _ _ => ?_⟩, fun c => ?_, fun _ => rfl⟩
    · exact (Nat.zero_add _).symm
    · exact counts_finishPass v.state.gateway report
    · exact showsSizes_finishPass v.state.gateway report
    · simp [added, Asking.bill, Asking.operation?, Asking.report?]

/-- **A reload is counted once**, beside the pass that it is. -/
theorem reload_audited (hV : V.Discreet) :
    Audited books (Settles .reload) (V.reload b) .blank := by
  refine Audited.bind (fun result m hm => ?_) (reconcile_audited hV)
  obtain ⟨hadded, hnoted⟩ := hm
  refine Audited.step fun w => ?_
  let observed := Counter.addedByRequest .reload (Metrics.outcomeName result)
  refine ⟨⟨fun c => m.added c + observed c, m.noted⟩, ⟨?_, ⟨observed, fun c => rfl, ?_⟩,
    fun h hm => ?_⟩, fun c => ?_, fun h => hnoted ?_⟩
  · exact .single (.request w.state.gateway "reload" result)
  · exact counts_observe w.state.gateway .reload result
  · exact (h hm).observe "reload" result
  · dsimp only [observed]
    rw [hadded c, Nat.add_comm]
    cases result <;> simp [Asking.bill, Asking.operation?, Asking.report?, Asking.outcome]
  · cases result with
    | ok report => trivial
    | error failure => exact h

/-- **A resync of all resources is counted once**, and notes the sizes. -/
theorem resyncAll_audited (hV : V.Discreet) :
    Audited books (Settles .resyncAll) (V.resyncAll b) .blank := by
  refine Audited.bind (fun report m hm => ?_) (alone_audited (syncResources_audited hV))
  subst hm
  refine Audited.step fun w => ?_
  let noted := w.state.gateway.refreshSizes
  let result : Except Failure ResourceSyncReport := .ok report
  let added := Counter.addedByRequest .resyncAll "ok"
  refine ⟨⟨added, true⟩, ⟨?_, ⟨added, fun c => (Nat.zero_add _).symm, ?_⟩, fun _ _ => ?_⟩,
    fun c => ?_, fun _ => rfl⟩
  · exact .tail (.single (.sizes w.state.gateway)) (.request noted "resync_all" result)
  · exact (counts_refreshSizes w.state.gateway).after_nothing
      (counts_observe noted .resyncAll result)
  · exact (showsSizes_refreshSizes w.state.gateway).observe "resync_all" result
  · simp [added, Asking.bill, Asking.operation?, Asking.report?, Asking.outcome]

/-! ## All of them -/

/-- **The books of every demand are in order.** -/
theorem serve_audited (hV : V.Discreet) (d : Demand) :
    Audited books (Settles d.asking) (V.serve d) .blank := by
  obtain ⟨bound, asking⟩ := d
  cases asking with
  | request r =>
    cases r with
    | call c => exact perform_audited hV c
    | list kind => exact listAll_audited hV kind
    | health => exact health_audited hV
    | status => exact status_audited
  | resync r => exact resync_audited hV r
  | reload => exact reload_audited hV
  | resyncAll => exact resyncAll_audited hV
  | reconcile => exact reconcile_audited hV
  | syncResources =>
    refine (alone_audited (syncResources_audited hV)).mono fun _ m hm => ?_
    subst hm
    exact settles_blank rfl rfl id
  | syncClusters =>
    refine (alone_audited loadClusters_audited).mono fun _ m hm => ?_
    subst hm
    exact settles_blank rfl rfl id

end Clients

/-! ## Passes at an interval -/

/-- Passes at an interval, as a script: so many rounds, the next at the instant `due`. -/
def roundsScript (token : Token) (intervalMs due : Nat) :
    Nat → Script Deployment Demand.Answer Unit
  | 0 => .done ()
  | n + 1 =>
    .wait (fun w => w.isCancelled token || due ≤ w.clock) (some due) <|
      .follow fun w =>
        if w.isCancelled token then .done ()
        else
          .act (fun v => (v.newToken token).2) fun v =>
            .demand ⟨⟨(v.newToken token).1, none⟩, .reconcile⟩ fun _ =>
              roundsScript token intervalMs (nextDue due intervalMs w.clock) n

/-- **Passes at an interval**, as a script that demands one pass after the other. -/
def periodicScript (token : Token) (intervalMs limit : Nat) :
    Script Deployment Demand.Answer Bool :=
  if intervalMs == 0 then .done false
  else
    .follow fun w => (roundsScript token intervalMs (w.clock + intervalMs) limit).map fun _ => true

theorem activity_roundsScript (token : Token) (intervalMs due n : Nat) :
    (roundsScript token intervalMs due n).activity Clients.arrays.serve =
      rounds token intervalMs due n := by
  induction n generalizing due with
  | zero => rfl
  | succ n ih =>
    refine congrArg (Activity.wait _ (some due)) (congrArg (Activity.act id) (funext fun w => ?_))
    dsimp only
    by_cases hcancelled : w.isCancelled token = true
    · rw [if_pos hcancelled, if_pos hcancelled]
      rfl
    · rw [if_neg hcancelled, if_neg hcancelled]
      refine congrArg (Activity.act _) (funext fun v => ?_)
      exact congrArg (Activity.bind _) (funext fun _ => ih _)

/-- **The script is what the gateway does.** -/
theorem activity_periodicScript (token : Token) (intervalMs limit : Nat) :
    (periodicScript token intervalMs limit).activity Clients.arrays.serve =
      periodic token intervalMs limit := by
  unfold periodicScript periodic
  by_cases hzero : (intervalMs == 0) = true
  · rw [if_pos hzero, if_pos hzero]
    rfl
  · rw [if_neg hzero, if_neg hzero]
    refine congrArg (Activity.act id) (funext fun w => ?_)
    rw [Script.activity_map, activity_roundsScript]

theorem roundsScript_does (token : Token) (intervalMs due n : Nat) :
    (roundsScript token intervalMs due n).Does Detached := by
  induction n generalizing due with
  | zero => trivial
  | succ n ih =>
    intro w
    refine ⟨rfl, ?_⟩
    dsimp only
    split
    · trivial
    · exact fun v => ⟨rfl, fun _ => ih _⟩

/-- Beside its passes it leaves the gateway alone. -/
theorem periodicScript_does (token : Token) (intervalMs limit : Nat) :
    (periodicScript token intervalMs limit).Does Detached := by
  unfold periodicScript
  split
  · trivial
  · refine fun w => ⟨rfl, Script.Does.bind (fun _ => ?_) (roundsScript_does _ _ _ _)⟩
    trivial

end FederatedStorage.Deployment
