import FederatedStorage.Proofs.Gateway.Parts
import FederatedStorage.Proofs.Schedule.Blind

/-!
# What a pass does not see

A pass looks neither at the lock nor at the metrics while it has its turn. So whoever comes to wait
for the lock meanwhile, or is counted among the requests, does not disturb it: it does the same in
every world that differs only in these.

## Main statements

* `Alike`: worlds that differ only in the lock and the metrics.
* `syncResources_blind`, `loadClusters_blind`, `finish_blind`: the parts of a pass.
-/

namespace FederatedStorage.Deployment

open Schedule Gateway

/-- The deployment with another lock and other metrics. -/
def dress (d : Deployment) (lock : PassLock) (metrics : Metrics) : Deployment :=
  { d with lock := lock, gateway := { d.gateway with metrics := metrics } }

/-- **The same world, but for the lock and the metrics.** -/
def Alike (v w : World Deployment) : Prop :=
  ∃ lock metrics, w = v.modify fun d => d.dress lock metrics

namespace Alike

variable {u v w : World Deployment}

theorem trans (h : Alike u v) (h' : Alike v w) : Alike u w := by
  obtain ⟨lock, metrics, rfl⟩ := h
  obtain ⟨lock', metrics', rfl⟩ := h'
  exact ⟨lock', metrics', rfl⟩

theorem symm (h : Alike v w) : Alike w v := by
  obtain ⟨lock, metrics, rfl⟩ := h
  exact ⟨v.state.lock, v.state.gateway.metrics, rfl⟩

end Alike

/-- Who sees neither the lock nor the metrics. -/
def undressed : Likeness Deployment where
  alike := Alike
  refl w := ⟨w.state.lock, w.state.gateway.metrics, rfl⟩
  clock := by
    rintro v _ ⟨lock, metrics, rfl⟩
    rfl
  cancelled := by
    rintro v _ ⟨lock, metrics, rfl⟩
    rfl

variable {α : Type} {b : Bound} {client : Client}

/-- An act on the deployment. -/
theorem onState_blind {f : Deployment → Deployment × α}
    (h : ∀ d lock metrics, (f (d.dress lock metrics)).2 = (f d).2 ∧
      ∃ lock' metrics', (f (d.dress lock metrics)).1 = (f d).1.dress lock' metrics') :
    Blind undressed (Activity.onState f) := by
  refine Blind.ofStep ?_
  rintro v _ ⟨lock, metrics, rfl⟩
  obtain ⟨hresult, lock', metrics', hstate⟩ := h v.state lock metrics
  refine ⟨⟨lock', metrics', ?_⟩, hresult⟩
  exact congrArg (fun d => World.mk v.clock v.cancelled v.nextToken d) hstate

theorem ask_blind {f : Deployment → α} (h : ∀ d lock metrics, f (d.dress lock metrics) = f d) :
    Blind undressed (ask f) := by
  refine Blind.look ?_
  rintro v _ ⟨lock, metrics, rfl⟩
  exact h v.state lock metrics

theorem attempt_blind (request : RemoteRequest) (number : Nat) :
    Blind undressed (attempt client request number) := by
  refine onState_blind fun d lock metrics => ?_
  have hshelf : (d.dress lock metrics).shelf = d.shelf := rfl
  rw [hshelf]
  cases hr : d.shelf.get? client with
  | none => exact ⟨rfl, lock, metrics, rfl⟩
  | some backend => cases backend <;> exact ⟨rfl, lock, metrics, rfl⟩

theorem send_blind (request : RemoteRequest) (maxRetries made : UInt32) (number limit : Nat) :
    Blind undressed (send client request maxRetries made number limit) := by
  induction limit generalizing made number with
  | zero => exact Blind.forever.map
  | succ limit ih =>
    refine Blind.bind (fun o => ?_) (attempt_blind request number)
    dsimp only
    split
    · trivial
    · exact Blind.bind (fun _ => ih (made + 1) (number + 1)) (Blind.sleep o.2)

theorem sendWithin_blind (operation : String) (r : Remote) (request : RemoteRequest) :
    Blind undressed (sendWithin b operation client r request) := by
  refine Blind.run (Blind.bind (fun o => ?_) (send_blind request _ 0 0 _))
  cases o with
  | answered payload => trivial
  | failed failure sent => trivial
  | waiting =>
    refine Blind.bind (fun _ => ?_) Blind.forever
    trivial

theorem listArray_blind (kind : ResourceKind) :
    Blind undressed (listArray b client kind) := by
  refine Blind.follow ?_ fun v => ?_
  · rintro v _ ⟨lock, metrics, rfl⟩
    rfl
  · cases v.state.shelf.get? client with
    | none => trivial
    | some backend =>
      cases backend with
      | loopback a =>
        dsimp only
        split
        · refine Blind.bind (fun _ => ?_) (Blind.waitUntil _)
          trivial
        · trivial
      | remote r =>
        refine Blind.bind (fun _ => ?_) (sendWithin_blind kind.listing r _)
        trivial

theorem fetchInventory_blind (clusterId : String) :
    Blind undressed (fetchInventory b clusterId) := by
  refine Blind.follow ?_ fun v => ?_
  · rintro v _ ⟨lock, metrics, rfl⟩
    rfl
  · cases v.state.gateway.targetOf clusterId with
    | error failure => trivial
    | ok target =>
      refine Blind.bind (fun _ => ?_)
        (Blind.run (Blind.both (listArray_blind .volume) (listArray_blind .snapshot)))
      trivial

theorem gather_blind (opened : OpenPass) : Blind undressed (gather b opened) := by
  refine Blind.all fun p hp => ?_
  obtain ⟨clusterId, -, rfl⟩ := List.mem_map.mp hp
  exact fetchInventory_blind clusterId

theorem takeOver_blind (opened : OpenPass) (inventories : List Inventory) :
    Blind undressed (Activity.step (takeOver b opened inventories)) := by
  refine Blind.ofStep ?_
  rintro v _ ⟨lock, metrics, rfl⟩
  refine ⟨⟨lock, metrics, ?_⟩, ?_⟩
  · simp only [takeOver, closePass_fst]
    rfl
  · simp only [takeOver, closePass_snd]
    rfl

theorem syncResources_blind : Blind undressed (syncResources b) := by
  refine Blind.bind (fun opened => ?_) (ask_blind fun _ _ _ => rfl)
  exact Blind.bind (fun inventories => takeOver_blind opened inventories) (gather_blind opened)

theorem loadClusters_blind : Blind undressed loadClusters := by
  refine onState_blind fun d lock metrics => ?_
  have hsource : (d.dress lock metrics).source = d.source := rfl
  rw [hsource]
  cases d.source.load <;> exact ⟨rfl, lock, metrics, rfl⟩

theorem finish_blind (found : Time.Timestamp × ClusterSyncReport)
    (resources : ResourceSyncReport) : Blind undressed (PassKind.finish found resources) :=
  onState_blind fun _ lock _ => ⟨rfl, lock, _, rfl⟩

end FederatedStorage.Deployment
