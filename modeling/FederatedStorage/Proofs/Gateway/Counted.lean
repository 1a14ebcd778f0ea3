import FederatedStorage.Proofs.Gateway.History
import FederatedStorage.Proofs.Http.Scripts

/-!
# Every call is counted once

Customers of any number ask the gateway for anything, directly, over HTTP or at an interval, side by
side and in any order. When nothing is under way, every counter has grown by what the answers say:
the requests of an operation with an outcome by the number of its calls that had this outcome, the
passes by the number of reports, and the failed inventories by those that the reports name. What is
refused before the gateway is asked is no call. The counters have 64 bits, so they grow in this
arithmetic.

The sizes of the registries are shown after a reload with a report, a resync of all resources and a
look at the state: from their last wait on they need nobody's patience, so the sizes are right when
they end, unless others move in between and change a registry.

## Main statements

* `counted_when_idle`, `counted_at_all_times`: the counters, when nothing is under way and before.
* `sizes_shown`: the sizes at the end of what shows them.
* `kept_of_atWork`: what holds of the gateway at all times.
* `calls_are_counted`: both, for all ways to ask.
-/

namespace FederatedStorage.Deployment

open Schedule Gateway Http

/-- All customers of the gateway. -/
abbrev Clientele : Type := Customers Deployment Demand.Answer

/-- **The gateway at work**: customers with their demands, and what happens beside them leaves it
alone. -/
abbrev Clients.AtWork (V : Clients) : Scene Deployment Clientele → Scene Deployment Clientele → Prop :=
  Customers.Run V.serve Detached

/-! ## Counters -/

/-- Whether a call that was answered is one of an operation, with an outcome. -/
def isCall (op : Operation) (outcome : String) (d : Met Demand.Answer) : Bool :=
  d.1.asking.operation? = some op && d.1.asking.outcome d.2 = outcome

/-- The reports of all whole passes that came to one. -/
def reports (met : List (Met Demand.Answer)) : List PassReport :=
  met.filterMap fun d => d.1.asking.report? d.2

/-- The bill of a demand. -/
def Demand.bill (c : Counter) (d : Demand) (a : d.Answer) : Nat := d.asking.bill c a

/-- **How far a counter has come** since a gateway was as it was. The counters come round, so what has
been added is not all that they show; and the gateway is ready once a whole pass has been counted. -/
structure HasCounted (g : Gateway) (c : Counter) (w : World Deployment) (total : Nat) : Prop where
  value : w.state.gateway.metrics.value c = g.metrics.value c + UInt64.ofNat total
  ready : c = .passes → (w.state.gateway.isReady = true ↔ g.isReady = true ∨ 0 < total)

section Bills

variable (d : Met Demand.Answer) (met : List (Met Demand.Answer))

/-- Calls are billed to their operation and outcome. -/
theorem bill_requests (op : Operation) (outcome : String) :
    d.1.bill (.requests op outcome) d.2 = if isCall op outcome d = true then 1 else 0 := by
  have hreport : ((d.1.asking.report? d.2).elim 0 fun report =>
      Counter.addedByPass report.resources.fetchFailures.length (.requests op outcome)) = 0 := by
    cases d.1.asking.report? d.2 <;> rfl
  unfold Demand.bill Asking.bill isCall
  rw [hreport, Nat.add_zero]
  cases d.1.asking.operation? with
  | none => simp
  | some own =>
    by_cases hcall : own = op ∧ d.1.asking.outcome d.2 = outcome
    · simp [Counter.addedByRequest, hcall]
    · have hother : ¬ (op = own ∧ outcome = d.1.asking.outcome d.2) :=
        fun h => hcall ⟨h.1.symm, h.2.symm⟩
      simp [Counter.addedByRequest, hcall, hother]

theorem billed_requests (op : Operation) (outcome : String) :
    Customers.billed (Demand.bill (.requests op outcome)) met =
      met.countP (isCall op outcome) := by
  induction met with
  | nil => rfl
  | cons d met ih =>
    rw [List.countP_cons, ← ih, Nat.add_comm, ← bill_requests]
    simp [Customers.billed]

/-- What no request adds to is billed to the reports. -/
theorem billed_reports {c : Counter} (hc : ∀ op outcome, c.addedByRequest op outcome = 0) :
    Customers.billed (Demand.bill c) met =
      ((reports met).map fun r => c.addedByPass r.resources.fetchFailures.length).sum := by
  induction met with
  | nil => rfl
  | cons d met ih =>
    have hrequest : (d.1.asking.operation?.elim 0 fun op =>
        c.addedByRequest op (d.1.asking.outcome d.2)) = 0 := by
      cases d.1.asking.operation? with
      | none => rfl
      | some op => exact hc op _
    have hcons : Customers.billed (Demand.bill c) (d :: met) =
        d.1.bill c d.2 + Customers.billed (Demand.bill c) met := by
      simp [Customers.billed]
    rw [hcons, ih, Demand.bill, Asking.bill, hrequest, Nat.zero_add]
    unfold reports
    cases hreport : d.1.asking.report? d.2 with
    | none => simp [hreport]
    | some report => simp [hreport]

theorem billed_passes :
    Customers.billed (Demand.bill .passes) met = (reports met).length := by
  rw [billed_reports met fun _ _ => rfl]
  simp [Counter.addedByPass]

end Bills

variable {V : Clients} {v : World Deployment} {x : Scene Deployment Clientele}

/-- A gateway has counted nothing since it was as it is. -/
theorem hasCounted_zero (w : World Deployment) (c : Counter) :
    HasCounted w.state.gateway c w 0 := by
  refine ⟨(UInt64.add_zero _).symm, fun _ => ?_⟩
  rw [or_iff_left (Nat.lt_irrefl 0)]

/-- What is counted in turn is counted together. -/
theorem HasCounted.add {g : Gateway} {c : Counter} {u w : World Deployment} {total : Nat}
    {added : Counter → Nat} (h : HasCounted g c u total)
    (hadded : Counts u.state.gateway added w.state.gateway) :
    HasCounted g c w (total + added c) := by
  refine ⟨?_, ?_⟩
  · rw [hadded.value, h.value, UInt64.ofNat_add, UInt64.add_assoc]
  · rintro rfl
    rw [hadded.ready, h.ready rfl, or_assoc, Nat.add_pos_iff_pos_or_pos]

theorem HasCounted.detached {g : Gateway} {c : Counter} {u w : World Deployment} {total : Nat}
    (hsame : Detached u w) (h : HasCounted g c u total) : HasCounted g c w total := by
  have hsame : w.state.gateway = u.state.gateway := hsame
  refine ⟨?_, ?_⟩
  · rw [hsame]
    exact h.value
  · rw [hsame]
    exact h.ready

/-- A counter grows by the bill of each demand. -/
theorem serve_counted (hV : V.Discreet) (g : Gateway) (c : Counter) (d : Demand) :
    Audited (Customers.addingTo (HasCounted g c)) (fun a n => n = d.bill c a) (V.serve d) 0 := by
  -- of the books only this counter is of interest
  refine Audited.abridge (A := books) (Q := Settles d.asking) (fun m => m.added c) ?_
    (fun _ _ hwait => congrFun hwait.1 c) (fun _ _ hm => hm.1 c) (Clients.serve_audited hV d)
  intro u w m m' hact
  obtain ⟨added, hm', hadded⟩ := hact.2.1
  exact ⟨added c, hm' c, fun total h => h.add hadded⟩

/-- **When nothing is under way**, a counter has grown by the bills of all that was met. -/
theorem counted_when_idle (hV : V.Discreet) (hrun : V.AtWork ⟨v, .nobody⟩ x) (hidle : x.others.Idle)
    (c : Counter) :
    HasCounted v.state.gateway c x.world (Customers.billed (Demand.bill c) x.others.met) :=
  Customers.accounts (serve_counted hV _ c) (fun _ _ _ hsame h => h.detached hsame)
    (hasCounted_zero v c) hrun hidle

/-- At any time it has grown by no less. -/
theorem counted_at_all_times (hV : V.Discreet) (hrun : V.AtWork ⟨v, .nobody⟩ x) (c : Counter) :
    ∃ n, HasCounted v.state.gateway c x.world
      (Customers.billed (Demand.bill c) x.others.met + n) := by
  have haccounted := Customers.Accounted.runs (serve_counted hV v.state.gateway c)
    (fun _ _ _ hsame h => h.detached hsame) (hasCounted_zero v c) hrun
  obtain ⟨n, -, htotal⟩ := haccounted
  exact ⟨n, htotal⟩

/-! ## Sizes -/

/-- Others who do not spoil sizes that are shown rightly. -/
def sparingSizes : Drift Deployment where
  may v w := ShowsSizes v.state.gateway → ShowsSizes w.state.gateway
  refl _ := id
  trans h1 h2 := h2 ∘ h1

/-- What has not begun, or waits. -/
def AtRest (V : Clients) (d : Demand) (rest : Work d.Answer) : Prop :=
  rest = V.serve d ∨ ∃ ready due next, rest = .wait ready due next

/-- The books of what rests say nothing of the sizes yet. -/
theorem audited_of_atRest (hV : V.Discreet) {d : Demand} {rest : Work d.Answer}
    (hrest : AtRest V d rest) {m : Books} (h : Audited books (Settles d.asking) rest m) :
    ∃ m', m'.noted = false ∧ Audited books (Settles d.asking) rest m' := by
  rcases hrest with rfl | ⟨ready, due, next, rfl⟩
  · exact ⟨.blank, rfl, Clients.serve_audited hV d⟩
  · obtain ⟨m', hwait, hnext⟩ := h
    exact ⟨⟨m.added, false⟩, rfl, m', hwait, hnext⟩

/-- **What shows the sizes shows them rightly in the end**, if from its last wait on nobody else spoils
them. -/
theorem sizes_shown (hV : V.Discreet) {d : Demand} {rest : Work d.Answer}
    (hrest : AtRest V d rest) {m : Books} (h : Audited books (Settles d.asking) rest m) {ε : Type}
    {moves : Scene Deployment ε → Scene Deployment ε → Prop} {s s' : Scene Deployment ε}
    {t : List (Scene Deployment ε)} {a : d.Answer}
    (hmoves : ∀ y z, moves y z → sparingSizes.may y.world z.world)
    (hruns : Runs moves rest s t (.done a) s') (ha : d.asking.Refreshes a) :
    ShowsSizes s'.world.state.gateway := by
  obtain ⟨m', hblank, haudited⟩ := audited_of_atRest hV hrest h
  -- what the books say holds along the run; after a wait they say nothing
  let J : World Deployment → Books → Prop := fun w m => m.noted = true → ShowsSizes w.state.gateway
  have hunsaid : ∀ {w : World Deployment} {m : Books}, m.noted = false → J w m := by
    intro w m hnoted hsaid
    rw [hnoted] at hsaid
    cases hsaid
  have hleads : Leads sparingSizes (fun a w => ∃ m, Settles d.asking a m ∧ J w m) rest s.world :=
    Audited.leads (A := books) (D := sparingSizes) (J := J) (fun u w m m' hact => hact.2.2)
      (fun w m m' hwait _ => hunsaid hwait.2) (fun u w m hmay hshown hnoted => hmay (hshown hnoted))
      haudited (hunsaid hblank)
  obtain ⟨m'', hsettles, hshown⟩ := Leads.of_runs hruns hmoves hleads
  exact hshown (hsettles.2 ha)

/-- **What nothing breaks that can happen to the gateway** holds at all times. -/
theorem kept_of_atWork {I : Gateway → Prop} (hI : ∀ g h, Change g h → I g → I h) (hV : V.Discreet)
    (hv : I v.state.gateway) (hrun : V.AtWork ⟨v, .nobody⟩ x) : I x.world.state.gateway := by
  have hact : ∀ u w m m', books.act u w m m' → I u.state.gateway → I w.state.gateway := by
    intro u w m m' hbooks hu
    exact hbooks.1.keeps hI hu
  have hapart : ∀ u w, Detached u w → I u.state.gateway → I w.state.gateway := by
    intro u w hsame hu
    have hsame : w.state.gateway = u.state.gateway := hsame
    rw [hsame]
    exact hu
  have hkept := Customers.Kept.runs (A := books) (Q := fun d : Demand => Settles d.asking)
    (I := fun w => I w.state.gateway) (Clients.serve_audited hV) hact hapart hv hrun
  exact hkept.world

/-- Books are kept of all demands under way. -/
theorem audited_of_busy (hV : V.Discreet) (hrun : V.AtWork ⟨v, .nobody⟩ x) {d : Demand}
    {rest : Work d.Answer} {next : d.Answer → Script Deployment Demand.Answer Unit}
    (hbusy : .busy d rest next ∈ x.others.stages) :
    ∃ m, Audited books (Settles d.asking) rest m := by
  have hkept := Customers.Kept.runs (A := books) (Q := fun d : Demand => Settles d.asking)
    (I := fun _ => True) (Clients.serve_audited hV) (fun _ _ _ _ _ _ => trivial)
    (fun _ _ _ _ => trivial) trivial hrun
  exact hkept.busy _ hbusy

/-! ## All of it -/

/-- **Every call is counted once.**

In every run of customers, over any clients that keep their hands off the gateway, with calls that
are cancelled at any time, with any configuration and any failures: whenever nothing is under way,
each operation has been counted with each outcome as often as a call of it had that outcome, as many
passes have been counted as have come to a report, and as many failed inventories as the reports
name. And when a demand that shows the sizes ends, they are right, if from its last wait on nobody
else has spoiled them.

A request over HTTP is such a customer, with at most one demand; one that is refused has none, and
leaves the world as it is. So are passes at an interval. -/
theorem calls_are_counted :
    (∀ (V : Clients) (v : World Deployment) (x : Scene Deployment Clientele), V.Discreet →
      V.AtWork ⟨v, .nobody⟩ x →
        (x.others.Idle →
          (∀ op outcome, x.world.state.gateway.metrics.requestCount op.name outcome =
            v.state.gateway.metrics.requestCount op.name outcome
              + UInt64.ofNat (x.others.met.countP (isCall op outcome))) ∧
          x.world.state.gateway.metrics.passes =
            v.state.gateway.metrics.passes + UInt64.ofNat (reports x.others.met).length ∧
          x.world.state.gateway.metrics.inventoryFailures =
            v.state.gateway.metrics.inventoryFailures + UInt64.ofNat
              ((reports x.others.met).map fun r => r.resources.fetchFailures.length).sum) ∧
        ∀ (d : Demand) (rest : Work d.Answer)
          (next : d.Answer → Script Deployment Demand.Answer Unit),
          .busy d rest next ∈ x.others.stages → AtRest V d rest →
            ∀ {ε : Type} (moves : Scene Deployment ε → Scene Deployment ε → Prop) (e : ε)
              (t : List (Scene Deployment ε)) (a : d.Answer) (s : Scene Deployment ε),
              (∀ y z, moves y z → ShowsSizes y.world.state.gateway →
                ShowsSizes z.world.state.gateway) →
              Runs moves rest ⟨x.world, e⟩ t (.done a) s → d.asking.Refreshes a →
                ShowsSizes s.world.state.gateway) ∧
    (∀ timeoutMs r, (Api.script timeoutMs r).activity Clients.arrays.serve =
        Api.handle timeoutMs r ∧ (Api.script timeoutMs r).Does Detached) ∧
    (∀ timeoutMs r response, Api.Refused r response →
      (Api.script timeoutMs r = .done response ∨
        Api.script timeoutMs r = .follow fun _ => .done response) ∧
      ∀ w moved, ((Api.handle timeoutMs r).advance w moved).1 = w ∧
        ((Api.handle timeoutMs r).advance w moved).2.1 = .done response) ∧
    ∀ token intervalMs limit,
      (periodicScript token intervalMs limit).activity Clients.arrays.serve =
        periodic token intervalMs limit ∧
      (periodicScript token intervalMs limit).Does Detached := by
  refine ⟨?_, ?_, ?_, ?_⟩
  · intro V v x hV hrun
    constructor
    · intro hidle
      have hcount := fun c => (counted_when_idle hV hrun hidle c).value
      refine ⟨?_, ?_, ?_⟩
      · intro op outcome
        have hrequests := hcount (.requests op outcome)
        rw [billed_requests] at hrequests
        exact hrequests
      · have hpasses := hcount .passes
        rw [billed_passes] at hpasses
        exact hpasses
      · have hfailures := hcount .inventoryFailures
        rw [billed_reports _ fun _ _ => rfl] at hfailures
        exact hfailures
    · intro d rest next hbusy hrest ε moves e t a s hmoves hruns ha
      obtain ⟨m, hm⟩ := audited_of_busy hV hrun hbusy
      exact sizes_shown hV hrest hm hmoves hruns ha
  · intro timeoutMs r
    exact ⟨Api.activity_script timeoutMs r, Api.script_does timeoutMs r⟩
  · intro timeoutMs r response h
    exact ⟨Api.script_of_refused timeoutMs h, Api.refused_advance timeoutMs h⟩
  · intro token intervalMs limit
    exact ⟨activity_periodicScript token intervalMs limit,
      periodicScript_does token intervalMs limit⟩

/-! ## A run -/

/-- The world and the customers after a demand, if nothing holds it up. -/
def served (x : Scene Deployment Clientele) (d : Demand) : Scene Deployment Clientele :=
  match ((Clients.arrays.serve d).advance x.world false).2.1.result? with
  | some a =>
    ⟨((Clients.arrays.serve d).advance x.world false).1,
      ⟨x.others.stages ++ [.idle (.done ())], x.others.met ++ [⟨d, a⟩]⟩⟩
  | none => x

theorem atWork_served {x y : Scene Deployment Clientele} (hrun : Clients.arrays.AtWork x y)
    (d : Demand) : Clients.arrays.AtWork x (served y d) := by
  unfold served
  cases h : ((Clients.arrays.serve d).advance y.world false).2.1.result? with
  | some a => exact hrun.trans (Customers.Run.serves d _ _ h)
  | none => exact hrun

/-- A gateway that has just been made, over two vendors. -/
def beforeCalls : Scene Deployment Clientele :=
  ⟨freshWorld.modify fun d => { d with source := .list twoVendors }, .nobody⟩

/-- A demand to load the configuration. -/
def reloads : Demand := ⟨free, .reload⟩

/-- A configuration is loaded, a volume is created, and one that nobody owns is asked for. -/
def threeCalls : Scene Deployment Clientele :=
  served
    (served (served beforeCalls reloads)
      ⟨free, .request (.call (.createVolume ⟨"v", 1, .new, .empty, .empty⟩))⟩)
    ⟨free, .request (.call (.getVolume "w"))⟩

theorem atWork_threeCalls : Clients.arrays.AtWork beforeCalls threeCalls :=
  atWork_served (atWork_served (atWork_served .refl _) _) _

/-- Each of the three is counted once, and the reload shows that there are two clusters. -/
theorem calls_are_counted_three :
    (let metrics := threeCalls.world.state.gateway.metrics
    metrics.requestCount "reload" "ok" = 1 ∧ metrics.requestCount "create_volume" "ok" = 1 ∧
      metrics.requestCount "get_volume" "resource_unmapped" = 1 ∧ metrics.passes = 1 ∧
        metrics.inventoryFailures = 1) ∧
    (doing beforeCalls.world (Clients.arrays.serve reloads)).state.gateway.metrics.managedClusters =
      2 := by
  have hidle : threeCalls.others.Idle := by
    unfold Customers.Idle
    decide +kernel
  obtain ⟨hcalls, hpasses, hfailures⟩ :=
    (calls_are_counted.1 _ _ threeCalls Clients.arrays_discreet atWork_threeCalls).1 hidle
  refine ⟨⟨?_, ?_, ?_, ?_, ?_⟩, ?_⟩
  · exact (hcalls .reload "ok").trans (by decide +kernel)
  · exact (hcalls .createVolume "ok").trans (by decide +kernel)
  · exact (hcalls .getVolume "resource_unmapped").trans (by decide +kernel)
  · exact hpasses.trans (by decide +kernel)
  · exact hfailures.trans (by decide +kernel)
  · -- the reload has begun, and nobody moves beside it
    have hbegun : Clients.arrays.AtWork beforeCalls _ := .begins reloads [] []
    have hshown := (calls_are_counted.1 _ _ _ Clients.arrays_discreet hbegun).2 reloads _ _
      List.mem_cons_self (Or.inl rfl) (fun _ _ => False) ()
    have hok : (((Clients.arrays.serve reloads).advance beforeCalls.world false).2.1.result?.elim
        false Except.isOk) = true := by decide +kernel
    cases h : ((Clients.arrays.serve reloads).advance beforeCalls.world false).2.1.result? with
    | none =>
      rw [h] at hok
      cases hok
    | some a =>
      rw [h] at hok
      have ha : reloads.asking.Refreshes a := by
        cases a with
        | ok report => trivial
        | error failure => cases hok
      have hruns := runs_of_result (fun _ _ => False) () h
      have hsizes := (hshown _ a _ (fun _ _ h => h.elim) hruns ha).clusters
      have htwo : (doing beforeCalls.world
          (Clients.arrays.serve reloads)).state.gateway.clusters.size = 2 := by decide +kernel
      exact hsizes.trans (congrArg Int64.ofNat htwo)

end FederatedStorage.Deployment
