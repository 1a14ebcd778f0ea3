import FederatedStorage.Gateway.Pass
import Mathlib.Logic.Relation

/-!
# What can happen to a gateway

Whatever the gateway is asked, six things can happen to it: owners change, a new volume is placed by
chance, a request is counted, the sizes of the registries are noted among the metrics, the clusters
of a configuration are registered, and a whole pass is counted and reported. Every act of the gateway
is made of these. So what none of them breaks holds at all times.

Some of the metrics only count, and of each of the six it is known what it adds to each counter. They
are 64-bit words, so a counter is its first value and the word of all that was added to it. The
gateway keeps a report from the moment when a whole pass is counted. The other metrics show the sizes
of the registries; they are right when these have just been noted, and stay right while no registry
changes.

## Main definitions

* `Gateway.Change`, `Gateway.Evolves`: what can happen.
* `Operation`, `Counter`: what is counted.
* `Gateway.Counts`: what is added to the counters.
* `Gateway.ShowsSizes`: the metrics show the sizes of the registries.

## Main statements

* `Gateway.counts_observe`, `Gateway.counts_finishPass`: what a request and a whole pass add.
* `Gateway.showsSizes_refreshSizes`: sizes that have just been noted are right.
-/

namespace FederatedStorage

/-! ## Counters -/

/-- **The operations whose requests are counted.** -/
inductive Operation
  | getVolume
  | createVolume
  | resizeVolume
  | deleteVolume
  | attachVolume
  | detachVolume
  | getSnapshot
  | createSnapshot
  | deleteSnapshot
  | listVolumes
  | listSnapshots
  | resyncResource
  | resyncAll
  | reload
deriving DecidableEq

namespace Operation

/-- The name of an operation among the metrics. -/
def name : Operation → String
  | getVolume => "get_volume"
  | createVolume => "create_volume"
  | resizeVolume => "resize_volume"
  | deleteVolume => "delete_volume"
  | attachVolume => "attach_volume"
  | detachVolume => "detach_volume"
  | getSnapshot => "get_snapshot"
  | createSnapshot => "create_snapshot"
  | deleteSnapshot => "delete_snapshot"
  | listVolumes => "list_volumes"
  | listSnapshots => "list_snapshots"
  | resyncResource => "resync_resource"
  | resyncAll => "resync_all"
  | reload => "reload"

/-- Different operations are counted under different names. -/
theorem name_inj {a b : Operation} : a.name = b.name ↔ a = b := by
  cases a <;> cases b <;> simp [name]

/-- The operation of a call. -/
def ofCall : Call → Operation
  | .getVolume _ => getVolume
  | .createVolume _ => createVolume
  | .resizeVolume _ => resizeVolume
  | .deleteVolume _ => deleteVolume
  | .attachVolume _ => attachVolume
  | .detachVolume _ => detachVolume
  | .getSnapshot _ => getSnapshot
  | .createSnapshot _ => createSnapshot
  | .deleteSnapshot _ => deleteSnapshot

/-- The operation of a listing. -/
def ofListing : ResourceKind → Operation
  | .volume => listVolumes
  | .snapshot => listSnapshots

theorem name_ofCall (c : Call) : (ofCall c).name = c.operation := by
  cases c <;> rfl

theorem name_ofListing (kind : ResourceKind) : (ofListing kind).name = kind.listing := by
  cases kind <;> rfl

end Operation

/-- **What is counted**: requests by operation and outcome, passes, and failed inventories. -/
inductive Counter
  | requests (operation : Operation) (outcome : String)
  | passes
  | inventoryFailures
deriving DecidableEq

namespace Counter

/-- What a request adds to a counter. -/
def addedByRequest (operation : Operation) (outcome : String) (c : Counter) : Nat :=
  if c = requests operation outcome then 1 else 0

/-- What a whole pass adds to a counter. -/
def addedByPass (failures : Nat) : Counter → Nat
  | requests _ _ => 0
  | passes => 1
  | inventoryFailures => failures

end Counter

namespace Metrics

/-- The value of a counter. -/
def value (m : Metrics) : Counter → UInt64
  | .requests operation outcome => m.requestCount operation.name outcome
  | .passes => m.passes
  | .inventoryFailures => m.inventoryFailures

/-- **A request** is counted once, for its operation and its outcome. -/
theorem value_recordRequest {α : Type} (m : Metrics) (op : Operation) (result : Except Failure α)
    (c : Counter) :
    (m.recordRequest op.name result).value c =
      m.value c + UInt64.ofNat (Counter.addedByRequest op (outcomeName result) c) := by
  cases c with
  | requests operation outcome =>
    have hcount := requestCount_countRequest m op.name (outcomeName result) operation.name outcome
    simp only [Operation.name_inj] at hcount
    refine hcount.trans (congrArg (m.requestCount operation.name outcome + ·) ?_)
    by_cases hsame : operation = op ∧ outcome = outcomeName result
    · simp [Counter.addedByRequest, hsame]
    · simp [Counter.addedByRequest, hsame]
  | passes => exact (UInt64.add_zero _).symm
  | inventoryFailures => exact (UInt64.add_zero _).symm

/-- **A whole pass** is counted once, with its failed inventories. -/
theorem value_recordPass (m : Metrics) (failures : Nat) (c : Counter) :
    (m.recordPass failures).value c = m.value c + UInt64.ofNat (Counter.addedByPass failures c) := by
  cases c with
  | requests operation outcome => exact (UInt64.add_zero _).symm
  | passes => rfl
  | inventoryFailures => rfl

end Metrics

namespace Gateway

/-! ## Changes -/

/-- **What can happen to a gateway.** -/
inductive Change : Gateway → Gateway → Prop
  | owners (g : Gateway) (o : Ownership) : Change g { g with resources := o }
  | draws (g : Gateway) (d : Placement.Draws) : Change g { g with draws := d }
  | request {α : Type} (g : Gateway) (operation : String) (result : Except Failure α) :
      Change g (g.observe operation result)
  | sizes (g : Gateway) : Change g g.refreshSizes
  | clusters (g : Gateway) (factory : Factory) (now : Time.Timestamp) (ds : List ClusterDescriptor)
      (shelf : Shelf) :
      Change g { g with clusters := (syncClusters factory now ds g.clusters shelf).clusters }
  | pass (g : Gateway) (report : PassReport) : Change g (g.finishPass report)

/-- **Some of it happens**, in some order. -/
abbrev Evolves : Gateway → Gateway → Prop := Relation.ReflTransGen Change

/-- What nothing breaks that can happen stays as it is. -/
theorem Evolves.keeps {I : Gateway → Prop} (hI : ∀ g h, Change g h → I g → I h) {g h : Gateway}
    (hgh : Evolves g h) (hg : I g) : I h := by
  induction hgh with
  | refl => exact hg
  | tail _ hchange ih => exact hI _ _ hchange ih

/-- Accepting a call at most draws. -/
theorem accept_draws (g : Gateway) (c : Call) : ∃ d, (g.accept c).2 = { g with draws := d } := by
  cases c with
  | createVolume r =>
    simp only [accept]
    cases checkCreate r with
    | error failure => exact ⟨g.draws, rfl⟩
    | ok _ =>
      have hplaced : ∃ d, (g.clusterFor r).2 = { g with draws := d } := by
        unfold clusterFor
        cases r.source with
        | new => exact ⟨_, rfl⟩
        | snapshot id => exact ⟨g.draws, rfl⟩
      generalize g.clusterFor r = found at hplaced
      obtain ⟨cluster, placed⟩ := found
      cases cluster <;> exact hplaced
  | createSnapshot r =>
    simp only [accept]
    cases refuseEmpty r.name "snapshot name" <;> exact ⟨g.draws, rfl⟩
  | _ => exact ⟨g.draws, rfl⟩

theorem accept_evolves (g : Gateway) (c : Call) : Evolves g (g.accept c).2 := by
  obtain ⟨d, hd⟩ := accept_draws g c
  rw [hd]
  exact .single (.draws g d)

/-- Concluding a call changes owners and counts it. -/
theorem conclude_owners (g : Gateway) (clusterId : String) (c : Call)
    (answer : Except Failure c.Answer) :
    ∃ o, (g.conclude clusterId c answer).1 =
      Gateway.observe { g with resources := o } c.operation (g.conclude clusterId c answer).2 := by
  cases answer with
  | error failure => exact ⟨g.resources, rfl⟩
  | ok a => cases c <;> exact ⟨_, rfl⟩

/-- Taking a resource for a cluster's changes its owner. -/
theorem beginResync_owners {g g' : Gateway} {r : Resync} {target : Target}
    (h : g.beginResync r = .ok (target, g')) :
    g' = { g with resources := g.resources.map r.resource } := by
  unfold beginResync at h
  cases hempty : refuseEmpty r.resourceId "resource_id" with
  | error failure =>
    rw [hempty] at h
    cases h
  | ok _ =>
    rw [hempty] at h
    cases htarget : g.targetOf r.clusterId with
    | error failure =>
      rw [htarget] at h
      cases h
    | ok x =>
      rw [htarget] at h
      cases h
      rfl

/-- What the cluster's answer to a resync changes are owners. -/
theorem endResync_owners (g : Gateway) (r : Resync) (verified : Except Failure Unit) :
    ∃ o, (g.endResync r verified).1 = { g with resources := o } := by
  unfold endResync
  cases verified with
  | ok _ => exact ⟨g.resources, rfl⟩
  | error failure =>
    by_cases hnot : failure.isNotFound = true
    · simp only [hnot, if_true]
      split
      · exact ⟨_, rfl⟩
      · exact ⟨g.resources, rfl⟩
    · simp only [hnot]
      exact ⟨g.resources, rfl⟩

/-- So are those of the closing of a pass. -/
theorem closePass_owners (g : Gateway) (opened : OpenPass) (inventories : List Inventory)
    (cancelled preserve : Bool) :
    ∃ o, (g.closePass opened inventories cancelled preserve).1 = { g with resources := o } := by
  unfold closePass
  split
  · exact ⟨_, rfl⟩
  · exact ⟨_, rfl⟩

/-! ## Counting -/

/-- **What is counted**: so much is added to each counter, and a report is kept once a whole pass is
among it. -/
structure Counts (g : Gateway) (added : Counter → Nat) (h : Gateway) : Prop where
  value : ∀ c, h.metrics.value c = g.metrics.value c + UInt64.ofNat (added c)
  ready : h.isReady = true ↔ g.isReady = true ∨ 0 < added .passes

/-- What leaves the metrics and the report alone counts nothing. -/
theorem counts_nothing {g h : Gateway} (hmetrics : h.metrics = g.metrics)
    (hreport : h.lastReport = g.lastReport) : Counts g (fun _ => 0) h where
  value c := by
    rw [hmetrics]
    exact (UInt64.add_zero _).symm
  ready := by
    unfold isReady
    rw [hreport]
    simp

/-- What is counted in turn is counted together. -/
theorem Counts.trans {g h k : Gateway} {a b : Counter → Nat} (hgh : Counts g a h)
    (hhk : Counts h b k) : Counts g (fun c => a c + b c) k where
  value c := by rw [hhk.value, hgh.value, UInt64.ofNat_add, UInt64.add_assoc]
  ready := by rw [hhk.ready, hgh.ready, or_assoc, Nat.add_pos_iff_pos_or_pos]

theorem Counts.after_nothing {g h k : Gateway} {b : Counter → Nat} (hgh : Counts g (fun _ => 0) h)
    (hhk : Counts h b k) : Counts g b k := by
  simpa only [Nat.zero_add] using hgh.trans hhk

/-- **A request** is counted once, for its operation and its outcome. -/
theorem counts_observe {α : Type} (g : Gateway) (op : Operation) (result : Except Failure α) :
    Counts g (Counter.addedByRequest op (Metrics.outcomeName result)) (g.observe op.name result) where
  value := g.metrics.value_recordRequest op result
  ready := by simp [Counter.addedByRequest, isReady, observe]

/-- **A whole pass** is counted once, with its failed inventories, and reported. -/
theorem counts_finishPass (g : Gateway) (report : PassReport) :
    Counts g (Counter.addedByPass report.resources.fetchFailures.length) (g.finishPass report) where
  value := g.metrics.value_recordPass report.resources.fetchFailures.length
  ready := ⟨fun _ => Or.inr Nat.one_pos, fun _ => rfl⟩

/-- Noting the sizes counts nothing. -/
theorem counts_refreshSizes (g : Gateway) : Counts g (fun _ => 0) g.refreshSizes where
  value c := by
    cases c <;> exact (UInt64.add_zero _).symm
  ready := by simp [isReady, refreshSizes]

/-! ## Sizes -/

/-- **The metrics show the sizes** of the two registries, as 64-bit words. -/
structure ShowsSizes (g : Gateway) : Prop where
  clusters : g.metrics.managedClusters = Int64.ofNat g.clusters.size
  resources : g.metrics.mappedResources =
    some (Int64.ofNat g.resources.counts.volumes, Int64.ofNat g.resources.counts.snapshots)

/-- **Sizes that have just been noted** are right. -/
theorem showsSizes_refreshSizes (g : Gateway) : ShowsSizes g.refreshSizes := ⟨rfl, rfl⟩

/-- Counting a request does not touch them. -/
theorem ShowsSizes.observe {α : Type} {g : Gateway} (h : ShowsSizes g) (operation : String)
    (result : Except Failure α) : ShowsSizes (g.observe operation result) :=
  ⟨h.clusters, h.resources⟩

theorem showsSizes_finishPass (g : Gateway) (report : PassReport) :
    ShowsSizes (g.finishPass report) := ⟨rfl, rfl⟩

end Gateway

end FederatedStorage
