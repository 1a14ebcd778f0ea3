import FederatedStorage.Proofs.Cluster.Registry
import FederatedStorage.Proofs.Gateway.Callers
import FederatedStorage.Proofs.Gateway.Parts

/-!
# Resources and their homes

When no resource is held by two clusters, each has one home. Then inventories, taken whenever,
report a resource only from its home, and they do report it if its home shows it all the time.

A resource stays at home: neither a caller's creation nor the taking over of the inventories gives
it to another cluster. `Keeps` says so of a scene, and that the resource is owned once `owned`
holds.

## Main statements

* `MayFetch.homed`, `MayFetch.shown`: what an inventory reports.
* `Keeps.until_closing`, `Keeps.closed`, `Keeps.from_closing`: a resource along a pass.
-/

namespace FederatedStorage.Deployment

open Schedule Gateway

/-- The ID of a listed resource. -/
def itemId : (kind : ResourceKind) → kind.Item → String
  | .volume, v => v.id
  | .snapshot, s => s.id

/-- **No resource is held by two clusters**: what the array of a cluster may list has its home
there. -/
def Housed (home : String → String) (d : Deployment) : Prop :=
  ∀ c client, d.gateway.clusters.clientOf c = .ok client → ∀ kind items,
    MayList d client kind (.ok items) → ∀ item ∈ items, home (itemId kind item) = c

/-- **A cluster shows a resource**: no listing of its array that succeeds lacks it. -/
def Shown (c : String) (kind : ResourceKind) (id : String) (d : Deployment) : Prop :=
  ∀ client, d.gateway.clusters.clientOf c = .ok client → ∀ items,
    MayList d client kind (.ok items) → ∃ item ∈ items, itemId kind item = id

/-! ## Inventories -/

variable {home : String → String} {c id : String} {kind : ResourceKind} {i : Inventory} {b : Bound}

/-- What is known of every world in which clusters are asked: which clusters there are, and more. -/
def AskedIn (clusters : ClusterRegistry) (P : Deployment → Prop) : Rely Deployment :=
  .amid fun w => w.state.gateway.clusters = clusters ∧ P w.state

variable {clusters : ClusterRegistry}

/-- An inventory of a cluster that is asked where its target is known. -/
theorem clientOf_asked {P : Deployment → Prop} {u v x : World Deployment} {target : Target}
    (hv : (AskedIn clusters P).others u v) (hx : x.state.gateway.clusters = clusters)
    (h : v.state.gateway.targetOf c = .ok target) :
    x.state.gateway.clusters.clientOf c = .ok target.client := by
  rw [hx, ← hv.1]
  exact (targetOf_ok h).2

/-- An inventory takes all its resources for its cluster's. -/
theorem MayFetch.of_cluster {R : Rely Deployment} (h : MayFetch R b c i) :
    i.clusterId = c ∧ ∀ r ∈ i.resources, r.clusterId = c := by
  cases h with
  | listed =>
    refine ⟨rfl, fun r hr => ?_⟩
    rcases mem_inventoryOf.mp hr with ⟨_, _, rfl⟩ | ⟨_, _, rfl⟩
    · rfl
    · rfl
  | _ => exact ⟨rfl, fun r hr => absurd hr List.not_mem_nil⟩

/-- **An inventory reports only what has its home at the cluster.** -/
theorem MayFetch.homed (h : MayFetch (AskedIn clusters (Housed home)) b c i) :
    i.clusterId = c ∧ ∀ r ∈ i.resources, r.clusterId = c ∧ home r.id = c := by
  cases h with
  | missing => exact ⟨rfl, fun r hr => absurd hr List.not_mem_nil⟩
  | failed => exact ⟨rfl, fun r hr => absurd hr List.not_mem_nil⟩
  | stopped => exact ⟨rfl, fun r hr => absurd hr List.not_mem_nil⟩
  | @listed u v target volumes snapshots hv htarget hvolumes hsnapshots =>
    refine ⟨rfl, fun r hr => ?_⟩
    rcases mem_inventoryOf.mp hr with ⟨item, hitem, rfl⟩ | ⟨item, hitem, rfl⟩
    · obtain ⟨_, x, hx, hlist⟩ := hvolumes
      exact ⟨rfl, hx.2 c _ (clientOf_asked hv hx.1 htarget) .volume _ hlist item hitem⟩
    · obtain ⟨_, x, hx, hlist⟩ := hsnapshots
      exact ⟨rfl, hx.2 c _ (clientOf_asked hv hx.1 htarget) .snapshot _ hlist item hitem⟩

/-- **An inventory that succeeds reports what the cluster shows** all the time. -/
theorem MayFetch.shown (h : MayFetch (AskedIn clusters (Shown c kind id)) b c i) :
    (∃ failure, i.result = .error failure) ∨ i.reports id = true := by
  cases h with
  | missing => exact Or.inl ⟨_, rfl⟩
  | failed => exact Or.inl ⟨_, rfl⟩
  | stopped => exact Or.inl ⟨_, rfl⟩
  | @listed u v target volumes snapshots hv htarget hvolumes hsnapshots =>
    refine Or.inr (Inventory.reports_iff.mpr ?_)
    cases kind with
    | volume =>
      obtain ⟨_, x, hx, hlist⟩ := hvolumes
      obtain ⟨item, hitem, rfl⟩ := hx.2 _ (clientOf_asked hv hx.1 htarget) _ hlist
      exact ⟨_, mem_inventoryOf.mpr (Or.inl ⟨item, hitem, rfl⟩), rfl⟩
    | snapshot =>
      obtain ⟨_, x, hx, hlist⟩ := hsnapshots
      obtain ⟨item, hitem, rfl⟩ := hx.2 _ (clientOf_asked hv hx.1 htarget) _ hlist
      exact ⟨_, mem_inventoryOf.mpr (Or.inr ⟨item, hitem, rfl⟩), rfl⟩

/-! ## The inventories of a pass -/

section Inventories

variable {k : PassKind} {s s' : Scene Deployment (List Caller)}
  {t : List (Scene Deployment (List Caller))} {result : k.Result}
  {parts : k.Parts Moves b s t result s'}

/-- **Clusters and settings stay** while a pass waits for inventories. -/
theorem clusters_until_closing (hfits : AllFit parts.opening) :
    (∀ x ∈ parts.openScenes,
        x.world.state.gateway.clusters = parts.opening.world.state.gateway.clusters) ∧
      parts.closing.world.state.settings = parts.opening.world.state.settings := by
  have h := parts.until_closing (K := fun _ => True)
    (J := fun x => AllFit x ∧
      x.world.state.gateway.clusters = parts.opening.world.state.gateway.clusters ∧
        x.world.state.settings = parts.opening.world.state.settings)
    (fun x w hw _ hx => ⟨hx.1, hw.clusters.trans hx.2.1, hw.settings.trans hx.2.2⟩)
    (fun x y hxy _ hx => by
      obtain ⟨hfits, hclusters, hsettings, -⟩ := hxy.cases hx.1
      exact ⟨hfits, hclusters.trans hx.2.1, hsettings.trans hx.2.2⟩)
    (fun _ _ => trivial) ⟨hfits, rfl, rfl⟩
  exact ⟨fun x hx => (h.1 x hx).2.1, h.2.2.2⟩

/-- What holds in all scenes of a pass is known while clusters are asked. -/
theorem gathered_in {P : Deployment → Prop} (hfits : AllFit parts.opening)
    (hP : ∀ x ∈ parts.scenes, P x.world.state) :
    List.Forall₂ (MayFetch (AskedIn parts.opening.world.state.gateway.clusters P) b)
      parts.opened.managed parts.inventories := by
  refine parts.gather_runs.result (fun _ _ _ hy => hy) (fun x hx => ?_)
    (gather_safe (fun _ _ _ _ _ _ _ => trivial) _)
  have hopen : x ∈ parts.openScenes := List.mem_append_left _ hx
  exact ⟨(clusters_until_closing hfits).1 x hopen, hP x (List.mem_append_left _ hopen)⟩

/-- **All inventories report resources from their homes.** -/
theorem inventories_homed (hfits : AllFit parts.opening)
    (hhome : ∀ x ∈ parts.scenes, Housed home x.world.state) :
    ∀ i ∈ parts.inventories, ∀ r ∈ i.resources, r.clusterId = home r.id := by
  intro i hi r hr
  -- the inventory is that of some managed cluster, which was asked in a scene of the pass
  obtain ⟨c, -, hc⟩ := exists_of_mem_left (gathered_in hfits hhome).flip i hi
  obtain ⟨-, hres⟩ := MayFetch.homed hc
  obtain ⟨hrc, hrh⟩ := hres r hr
  rw [hrc, hrh]

/-- A cluster that shows a resource has an inventory that reports it, or that is no success. -/
theorem inventory_shown (hfits : AllFit parts.opening) (hc : c ∈ parts.opened.managed)
    (hshown : ∀ x ∈ parts.scenes, Shown c kind id x.world.state) :
    ∃ i ∈ parts.inventories, i.clusterId = c ∧
      ((∃ failure, i.result = .error failure) ∨ i.reports id = true) := by
  obtain ⟨i, hi, hfetch⟩ := exists_of_mem_left (gathered_in hfits hshown) c hc
  refine ⟨i, hi, ?_, MayFetch.shown hfetch⟩
  cases hfetch <;> rfl

end Inventories

/-! ## Callers that create and read -/

variable {x y s' : Scene Deployment (List Caller)} {owned : List Caller → Prop}

/-- Nobody asks for a deletion. -/
def NoDeletes (x : Scene Deployment (List Caller)) : Prop :=
  ∀ r ∈ x.others.map Caller.request, r.isDelete = false

/-- Who does not ask for a deletion is not told of one. -/
theorem NoDeletes.droppedAt (h : NoDeletes s') (hlater : Later x s') (j : Nat) :
    droppedAt x j = none := by
  unfold Deployment.droppedAt
  cases hj : x.others[j]? with
  | none => rfl
  | some c =>
    have hmem : c.request ∈ x.others.map Caller.request :=
      List.mem_map.mpr ⟨c, List.mem_of_getElem? hj, rfl⟩
    have hnot := h c.request (by rw [hlater.requests]; exact hmem)
    show c.rest.result?.bind c.request.dropped = none
    cases c.rest.result? with
    | none => rfl
    | some a => exact Request.dropped_of_not_isDelete hnot a

/-- Whoever has created a resource is its home. -/
def MadeAtHome (home : String → String) (x : Scene Deployment (List Caller)) : Prop :=
  ∀ j r, madeAt x j = some r → home r.id = r.clusterId

/-- A lookup after a creation, or after nothing. -/
theorem record?_settledBy_none (made : Option Resource) (o : Ownership) (id : String) :
    (settledBy made none o).record? id =
      (made.filter fun r => r.id = id).or (o.record? id) := by
  cases made with
  | none => rfl
  | some r =>
    show (o.map r).record? id = _
    rw [Ownership.record?_map, Option.filter_some]
    by_cases hid : id = r.id
    · simp [hid]
    · simp [hid, Ne.symm hid]

/-! ## A resource along a pass -/

/-- **A resource stays at home**, and it is owned once the callers have come so far. -/
structure Keeps (home : String → String) (id : String) (owned : List Caller → Prop)
    (x : Scene Deployment (List Caller)) : Prop where
  fits : AllFit x
  atHome : AtHome home x.world.state.gateway.resources id
  isOwned : owned x.others → ∃ r, x.world.state.gateway.resources.record? id = some r

/-- Who has come so far has come so far before, or has just been told of the resource. -/
def ToldOf (id : String) (owned : List Caller → Prop) : Prop :=
  ∀ x y j, OneMoves x y j → owned y.others →
    owned x.others ∨ ∃ r, madeAt y j = some r ∧ r.id = id

namespace Keeps

/-- An act that changes no owner keeps a resource. -/
theorem own {w : World Deployment}
    (hw : w.state.gateway.resources = x.world.state.gateway.resources)
    (h : Keeps home id owned x) : Keeps home id owned (x.put w) := by
  refine ⟨h.fits, ?_, fun ho => ?_⟩
  · show AtHome home w.state.gateway.resources id
    rw [hw]
    exact h.atHome
  · show ∃ r, w.state.gateway.resources.record? id = some r
    rw [hw]
    exact h.isOwned ho

/-- **A move keeps a resource**: what a caller creates under its ID is created at its home. -/
theorem move (hnodel : NoDeletes s') (hmade : MadeAtHome home s') (htold : ToldOf id owned)
    (hlater : Later y s') (hmove : Moves x y) (h : Keeps home id owned x) :
    Keeps home id owned y := by
  obtain ⟨hfits, -, -, j, hone, hres⟩ := hmove.cases h.fits
  -- nothing is dropped, so a record under the ID is new or was there before
  rw [hnodel.droppedAt hlater] at hres
  have hrec : y.world.state.gateway.resources.record? id =
      ((madeAt y j).filter fun r => r.id = id).or
        (x.world.state.gateway.resources.record? id) := by
    rw [hres, record?_settledBy_none]
  refine ⟨hfits, fun r hr => ?_, fun ho => ?_⟩
  · rw [hrec, Option.or_eq_some_iff] at hr
    rcases hr with hr | ⟨-, hr⟩
    · obtain ⟨hj, hid⟩ := Option.filter_eq_some_iff.mp hr
      rw [← of_decide_eq_true hid]
      exact (hmade j r (hlater.made j r hj)).symm
    · exact h.atHome r hr
  · rw [hrec]
    rcases htold x y j hone ho with hx | ⟨r, hj, hid⟩
    · obtain ⟨r, hr⟩ := h.isOwned hx
      rw [hr]
      cases ((madeAt y j).filter fun r => r.id = id) with
      | none => exact ⟨r, rfl⟩
      | some q => exact ⟨q, rfl⟩
    · refine ⟨r, ?_⟩
      rw [hj, Option.filter_some, decide_eq_true hid]
      rfl

variable {k : PassKind} {s : Scene Deployment (List Caller)}
  {t : List (Scene Deployment (List Caller))} {result : k.Result}
  {parts : k.Parts Moves b s t result s'}

/-- **A resource keeps its home until the closing.** -/
theorem until_closing (hnodel : NoDeletes s') (hmade : MadeAtHome home s') (htold : ToldOf id owned)
    (hlater : ∀ x ∈ parts.scenes, Later x s') (h : Keeps home id owned parts.opening) :
    (∀ x ∈ parts.openScenes, Keeps home id owned x) ∧ Keeps home id owned parts.closing :=
  parts.until_closing (K := fun x => Later x s') (fun _ _ hw _ hx => hx.own hw.resources)
    (fun _ _ hxy hy hx => hx.move hnodel hmade htold hy hxy)
    (fun x hx => hlater x (List.mem_append_left _ hx)) h

/-- **The closing keeps a resource** that it does not drop. -/
theorem closed (hhome : ∀ i ∈ parts.inventories, ∀ r ∈ i.resources, r.clusterId = home r.id)
    (hnot : id ∉ parts.dropped) (h : Keeps home id owned parts.closing) :
    Keeps home id owned parts.closed := by
  refine ⟨h.fits, fun r hr => ?_, fun ho => ?_⟩
  · rw [parts.closed_resources] at hr
    exact takenOver_atHome hhome h.atHome r (takenOver_of_leftOwners hr)
  · -- the taking over may change the record but never loses it
    obtain ⟨r, hr⟩ := h.isOwned ho
    obtain ⟨q, hq⟩ := takenOver_isSome parts.inventories hr
    rw [parts.closed_resources]
    exact ⟨q, leftOwners_of_not_mem_droppedIds hq hnot⟩

/-- A resource keeps its home from the closing to the end. -/
theorem from_closing (hnodel : NoDeletes s') (hmade : MadeAtHome home s') (htold : ToldOf id owned)
    (hlater : ∀ x ∈ parts.scenes, Later x s') (h : Keeps home id owned parts.closed) :
    (∀ x ∈ parts.closed :: parts.endTrace, Keeps home id owned x) ∧ Keeps home id owned s' :=
  parts.from_closing (K := fun x => Later x s') (fun _ _ _ => k.after_safe _ _)
    (fun _ _ hw _ hx => hx.own hw.resources)
    (fun _ _ hxy hy hx => hx.move hnodel hmade htold hy hxy)
    (fun x hx => hlater x (List.mem_append_right _ (List.mem_cons_of_mem _ hx))) h

end Keeps

/-! ## The beginning of a pass -/

/-- **What is known when a pass opens**: everybody is on the way, and who has an owner had one at
the beginning or has been created since. -/
structure OpenedWell (s x : Scene Deployment (List Caller)) : Prop where
  fits : AllFit x
  settings : x.world.state.settings = s.world.state.settings
  known : ∀ id r, x.world.state.gateway.resources.record? id = some r →
    (∃ q, s.world.state.gateway.resources.record? id = some q) ∨
      ∃ j q, madeAt x j = some q ∧ q.id = id

namespace OpenedWell

variable {s : Scene Deployment (List Caller)}

theorem own {w : World Deployment} (hw : PassKind.Calm x.world w) (h : OpenedWell s x) :
    OpenedWell s (x.put w) := by
  refine ⟨h.fits, hw.settings.trans h.settings, fun id r hr => ?_⟩
  have hr' : w.state.gateway.resources.record? id = some r := hr
  rw [hw.resources] at hr'
  exact h.known id r hr'

theorem move (hnodel : NoDeletes s') (hlater : Later y s') (hmove : Moves x y)
    (h : OpenedWell s x) : OpenedWell s y := by
  obtain ⟨hfits, -, hsettings, j, hone, hres⟩ := hmove.cases h.fits
  rw [hnodel.droppedAt hlater] at hres
  refine ⟨hfits, hsettings.trans h.settings, fun id r hr => ?_⟩
  rw [hres, record?_settledBy_none, Option.or_eq_some_iff] at hr
  rcases hr with hr | ⟨-, hr⟩
  · obtain ⟨hj, hid⟩ := Option.filter_eq_some_iff.mp hr
    exact Or.inr ⟨j, r, hj, of_decide_eq_true hid⟩
  · rcases h.known id r hr with hs | ⟨i, q, hq, hid⟩
    · exact Or.inl hs
    · exact Or.inr ⟨i, q, hone.later.made i q hq, hid⟩

variable {k : PassKind} {t : List (Scene Deployment (List Caller))} {result : k.Result}

/-- **A prelude leads to such an opening.** -/
theorem of_prelude {a : Except k.Result k.Found} (hnew : AllNew s) (hnodel : NoDeletes s')
    (hlater : ∀ x ∈ t, Later x s') (h : Runs Moves k.prelude s t (.done a) x) : OpenedWell s x :=
  (h.keep (J := OpenedWell s) (K := fun x => Later x s') (fun _ _ _ _ => trivial)
    (fun _ _ hw _ hx => hx.own hw) (fun _ _ hxy hy hx => hx.move hnodel hy hxy)
    (fun _ _ => trivial) hlater k.prelude_safe
    ⟨hnew.fits, rfl, fun _ r hr => Or.inl ⟨r, hr⟩⟩).2.1

end OpenedWell

end FederatedStorage.Deployment
