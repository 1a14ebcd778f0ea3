import FederatedStorage.Proofs.Gateway.Detour
import FederatedStorage.Proofs.Gateway.Homes

/-!
# A pass loses no live resource

Creation on an array, its entry among the owners, the listings of a pass and its two ends are
separate steps of several activities, in any order. What is created after a pass has opened had no
owner then, so the pass does not drop it. What had an owner is reported by its home, unless that
fails to answer.

## Main statement

* `pass_keeps_live`: which resources are owned during a pass and after it.
-/

namespace FederatedStorage.Deployment

open Schedule Gateway

/-- A cluster owns a resource. -/
def OwnedBy (c id : String) (x : Scene Deployment (List Caller)) : Prop :=
  ∃ r, x.world.state.gateway.resources.record? id = some r ∧ r.clusterId = c

variable {home : String → String} {id c : String} {b : Bound} {k : PassKind}
  {s s' x : Scene Deployment (List Caller)} {t : List (Scene Deployment (List Caller))}
  {result : k.Result}

/-- Everybody has come so far that the resource is owned. -/
def always (_ : List Caller) : Prop := True

/-- A caller has been told that it created a resource. -/
def toldMade (j : Nat) (r : Resource) (callers : List Caller) : Prop :=
  callers[j]?.bind Caller.made = some r

theorem always_told : ToldOf id always := fun _ _ _ _ _ => Or.inl trivial

theorem toldMade_told (j : Nat) (r : Resource) : ToldOf r.id (toldMade j r) := by
  intro x y i hone hy
  by_cases hij : i = j
  · subst hij
    exact Or.inr ⟨r, hy, rfl⟩
  · exact Or.inl ((hone.others j (Ne.symm hij)).1.symm.trans hy)

/-- A resource that is kept and always owned is owned by its home. -/
theorem Keeps.ownedBy {owned : List Caller → Prop} (h : Keeps home id owned x)
    (ho : owned x.others) : OwnedBy (home id) id x := by
  obtain ⟨r, hr⟩ := h.isOwned ho
  exact ⟨r, hr, h.atHome r hr⟩

/-- A resource that is owned by its home is kept. -/
theorem Keeps.of_ownedBy (hfits : AllFit x) (h : OwnedBy (home id) id x) :
    Keeps home id always x := by
  obtain ⟨r, hr, hc⟩ := h
  refine ⟨hfits, fun q hq => ?_, fun _ => ⟨r, hr⟩⟩
  rw [hr] at hq
  cases hq
  exact hc

/-- Nobody asks for a deletion, from the beginning to the end. -/
theorem NoDeletes.later (h : NoDeletes s) (hlater : Later s s') : NoDeletes s' := by
  unfold NoDeletes
  rw [hlater.requests]
  exact h

/-! ## New resources -/

variable {parts : k.Parts Moves b s t result s'}

/-- **What is created during a pass** had no owner when the pass opened. -/
theorem new_at_opening {j : Nat} {r : Resource} (hopened : OpenedWell s parts.opening)
    (hlater : Later parts.opening s')
    (hfresh : ∀ j r, madeAt s' j = some r → r.id ∉ s.world.state.gateway.resources.ids)
    (hdistinct : ∀ i j q r, madeAt s' i = some q → madeAt s' j = some r → q.id = r.id → i = j)
    (hopening : madeAt parts.opening j = none) (hend : madeAt s' j = some r) :
    r.id ∉ parts.opened.knownBefore := by
  intro hknown
  obtain ⟨q, hq⟩ := Ownership.mem_ids_iff.mp hknown
  rcases hopened.known r.id q hq with ⟨p, hp⟩ | ⟨i, p, hp, hid⟩
  -- it would not be fresh, or somebody else would have created it as well
  · exact hfresh j r hend (Ownership.mem_ids_iff.mpr ⟨p, hp⟩)
  · have hij : i = j := hdistinct i j p r (hlater.made i p hp) hend hid
    rw [hij, hopening] at hp
    cases hp

/-- A created resource has its creator for its owner at the end. -/
theorem created_kept {j : Nat} {r : Resource} (hopened : OpenedWell s parts.opening)
    (hlater : ∀ x ∈ parts.scenes, Later x s') (hnodel : NoDeletes s') (hmade : MadeAtHome home s')
    (hhome : ∀ x ∈ parts.scenes, Housed home x.world.state)
    (hnew : r.id ∉ parts.opened.knownBefore) (hopening : madeAt parts.opening j = none)
    (hend : madeAt s' j = some r) (hm : r.clusterId ∈ parts.opened.managed) :
    OwnedBy r.clusterId r.id s' ∧ r.id ∉ parts.dropped := by
  have hr : home r.id = r.clusterId := hmade j r hend
  -- at the opening nobody owns the resource and its creator has not been told of it
  have hstart : Keeps home r.id (toldMade j r) parts.opening := by
    refine ⟨hopened.fits, fun q hq => ?_, fun ho => ?_⟩
    · exact absurd (Ownership.mem_ids_iff.mpr ⟨q, hq⟩) hnew
    · have ho' : madeAt parts.opening j = some r := ho
      rw [hopening] at ho'
      cases ho'
  have hinv := inventories_homed hopened.fits hhome
  have hclosing := (hstart.until_closing hnodel hmade (toldMade_told j r) hlater).2
  have hnot : r.id ∉ parts.dropped :=
    not_mem_droppedIds_of_new (takenOver_atHome hinv hclosing.atHome) (hr.symm ▸ hm) hnew
  have hfinal := ((hclosing.closed hinv hnot).from_closing hnodel hmade (toldMade_told j r)
    hlater).2
  exact ⟨hr ▸ hfinal.ownedBy hend, hnot⟩

/-! ## Old resources -/

/-- **A resource that its home shows** is owned all the time. -/
theorem shown_kept {kind : ResourceKind} (hopened : OpenedWell s parts.opening)
    (hlater : ∀ x ∈ parts.scenes, Later x s') (hnodel : NoDeletes s') (hmade : MadeAtHome home s')
    (hhome : ∀ x ∈ parts.scenes, Housed home x.world.state)
    (howned : OwnedBy (home id) id parts.opening) (hm : home id ∈ parts.opened.managed)
    (hshown : ∀ x ∈ parts.scenes, Shown (home id) kind id x.world.state)
    (hspared : home id ∉ parts.report.fetchFailures ∨ s.world.state.settings.preserve = true) :
    (∀ x ∈ parts.scenes, OwnedBy (home id) id x) ∧ OwnedBy (home id) id s' ∧
      id ∉ parts.dropped := by
  have hstart : Keeps home id always parts.opening := .of_ownedBy hopened.fits howned
  have hinv := inventories_homed hopened.fits hhome
  obtain ⟨hopen, hclosing⟩ := hstart.until_closing hnodel hmade always_told hlater
  -- the inventory of the home reports the resource, or the home is spared
  have hsettings : parts.closing.world.state.settings = s.world.state.settings :=
    (clusters_until_closing hopened.fits).2.trans hopened.settings
  have hnot : id ∉ parts.dropped := by
    obtain ⟨i, hi, hic, hrep⟩ := inventory_shown hopened.fits hm hshown
    rw [parts.report_failures, ← hsettings] at hspared
    exact not_mem_droppedIds_of_shown (takenOver_atHome hinv hclosing.atHome) hm hi hic hrep
      hspared
  obtain ⟨hclosed, hfinal⟩ :=
    (hclosing.closed hinv hnot).from_closing hnodel hmade always_told hlater
  refine ⟨fun x hx => ?_, hfinal.ownedBy trivial, hnot⟩
  rcases List.mem_append.mp hx with hx | hx
  · exact (hopen x hx).ownedBy trivial
  · exact (hclosed x hx).ownedBy trivial

/-- A resource is owned as long as a pass waits for inventories, whatever they will say. -/
theorem gather_keeps {α : Type} {q : Work α} {p : Work α} {opening : Scene Deployment (List Caller)}
    {t1 : List (Scene Deployment (List Caller))} (hopened : OpenedWell s opening)
    (hnodel : NoDeletes x) (hmade : MadeAtHome home x) (howned : OwnedBy (home id) id opening)
    (hp : Safe quietly (fun _ => True) p opening.world) (h : Runs Moves p opening t1 q x) :
    ∀ y ∈ opening :: t1, OwnedBy (home id) id y := by
  have hstart : Keeps home id always opening := .of_ownedBy hopened.fits howned
  obtain ⟨-, -, hall⟩ := h.keep (K := fun y => Later y x) (fun _ _ _ _ => trivial)
    (fun _ _ hw _ hx => hx.own hw.resources)
    (fun _ _ hxy hy hx => hx.move hnodel hmade always_told hy hxy) (fun _ _ => trivial)
    (runs_later h).2 hp hstart
  exact fun y hy => (List.forall_mem_cons.mpr ⟨hstart, hall⟩ y hy).ownedBy trivial

/-! ## Passes -/

/-- **A pass loses no live resource**, however callers that create and read are interleaved with it.
Arrays give fresh IDs, and no resource is held by two clusters. Then what is created after the
opening, on a managed cluster, has that cluster for its owner at the end. And what a managed cluster
owned at the opening and shows all the time, is owned by it in every scene, if the cluster answers
or is spared. Neither is counted among the resources that lose their owner. A resource is owned also
in every scene of a pass that never comes to its closing. -/
theorem pass_keeps_live (k : PassKind) (b : Bound) (s : Scene Deployment (List Caller))
    (home : String → String) (hnew : AllNew s) (hnodel : NoDeletes s) :
    (∀ (t : List (Scene Deployment (List Caller))) (result : k.Result)
      (report : ResourceSyncReport) (s' : Scene Deployment (List Caller)),
      Runs Moves (k.work b) s t (.done result) s' → k.report? result = some report →
      (∀ j r, madeAt s' j = some r → r.id ∉ s.world.state.gateway.resources.ids) →
      (∀ i j q r, madeAt s' i = some q → madeAt s' j = some r → q.id = r.id → i = j) →
      (∀ j r, madeAt s' j = some r → home r.id = r.clusterId) →
      (∀ x ∈ t, Housed home x.world.state) →
        (∃ parts : k.Parts Moves b s t result s', parts.report = report) ∧
        ∀ parts : k.Parts Moves b s t result s', parts.report = report ∧
          report.unmapped = .ofNat parts.dropped.length ∧
          (∀ j r, madeAt parts.opening j = none → madeAt s' j = some r →
            r.clusterId ∈ parts.opened.managed →
              OwnedBy r.clusterId r.id s' ∧ r.id ∉ parts.dropped) ∧
          ∀ c id kind, OwnedBy c id parts.opening → c ∈ parts.opened.managed → home id = c →
            (∀ x ∈ parts.scenes, Shown c kind id x.world.state) →
            (c ∉ report.fetchFailures ∨ s.world.state.settings.preserve = true) →
              (∀ x ∈ parts.scenes, OwnedBy c id x) ∧ OwnedBy c id s' ∧ id ∉ parts.dropped) ∧
    ∀ (t0 t1 : List (Scene Deployment (List Caller))) (found : k.Found)
      (opening x : Scene Deployment (List Caller)) (q : Work (List Inventory)),
      Runs Moves k.prelude s t0 (.done (.ok found)) opening →
      Runs Moves (gather b opening.world.state.gateway.openPass) opening t1 q x →
      (∀ j r, madeAt x j = some r → home r.id = r.clusterId) →
        ∀ c id, OwnedBy c id opening → home id = c → ∀ y ∈ opening :: t1, OwnedBy c id y := by
  constructor
  · intro t result report s' hrun hreport hfresh hdistinct hmade hhome
    obtain ⟨hbegin, hall⟩ := runs_later hrun
    refine ⟨PassKind.exists_parts hrun hreport, fun parts => ?_⟩
    have hsame : parts.report = report := by
      rw [PassKind.report?_eq parts] at hreport
      exact Option.some.inj hreport
    have hlater : ∀ x ∈ parts.scenes, Later x s' := fun x hx => hall x (parts.mem_trace hx)
    have hhoused : ∀ x ∈ parts.scenes, Housed home x.world.state :=
      fun x hx => hhome x (parts.mem_trace hx)
    have hnodel' := hnodel.later hbegin
    have hopened : OpenedWell s parts.opening := by
      refine .of_prelude hnew hnodel' (fun x hx => hall x ?_) parts.prelude_runs
      exact parts.trace_scenes ▸ List.mem_append_left _ hx
    have hopening : Later parts.opening s' := hlater _ List.mem_cons_self
    refine ⟨hsame, by rw [← hsame, parts.report_unmapped], ?_, ?_⟩
    · intro j r hj hend hm
      exact created_kept hopened hlater hnodel' hmade hhoused
        (new_at_opening hopened hopening hfresh hdistinct hj hend) hj hend hm
    · rintro c id kind howned hm rfl hshown hspared
      rw [← hsame] at hspared
      exact shown_kept hopened hlater hnodel' hmade hhoused howned hm hshown hspared
  · rintro t0 t1 found opening x q hprelude hgather hmade c id howned rfl
    obtain ⟨hbegin, hall⟩ := runs_later hprelude
    have hend := (runs_later hgather).1
    have hopened : OpenedWell s opening := .of_prelude hnew (hnodel.later hbegin) hall hprelude
    exact gather_keeps hopened (hnodel.later (hbegin.trans hend)) hmade howned
      ((gather_safe quietly_call.dial _).mono fun _ _ => trivial) hgather

/-! ### A creation beside a pass -/

/-- Whether the loopback array of a cluster lists a resource. -/
def lists (c : String) (kind : ResourceKind) (id : String) (d : Deployment) : Bool :=
  match d.gateway.clusters.clientOf c with
  | .error _ => false
  | .ok client =>
    match (d.shelf.loopback? client).map fun (a : Loopback) => a.list kind with
    | some (.ok items) => items.any fun item => itemId kind item = id
    | _ => false

theorem shown_of_lists {kind : ResourceKind} {d : Deployment} (h : lists c kind id d = true) :
    Shown c kind id d := by
  intro client hclient items hitems
  unfold MayList at hitems
  unfold lists at h
  rw [hclient] at h
  cases hget : d.shelf.get? client with
  | none => simp [Shelf.loopback?, hget] at h
  | some backend =>
    cases backend with
    | remote r => simp [Shelf.loopback?, hget] at h
    | loopback a =>
      have ha : .ok items = a.list kind := by simpa [hget] using hitems
      simp only [Shelf.loopback?, hget, Option.map_some, ← ha] at h
      obtain ⟨item, hitem, hid⟩ := List.any_eq_true.mp h
      exact ⟨item, hitem, of_decide_eq_true hid⟩

/-- The home of whatever the only cluster's array holds. -/
theorem housed_of_single {d : Deployment} (h : d.gateway.clusters.ids = [c]) :
    Housed (fun _ => c) d := by
  intro c' client hclient kind items _ item _
  have hmem := ClusterRegistry.mem_ids_of_clientOf hclient
  rw [h] at hmem
  exact (List.mem_singleton.mp hmem).symm

/-- A creation beside a pass over the slow array: both volumes are owned, the new one at the end and
the old one in every scene. -/
theorem pass_keeps_live_slowArray :
    let d := besideSlow (.call (.createVolume ⟨"v", 1, .new, .empty, .empty⟩))
    (∃ parts : PassKind.resources.Parts Moves d.bound (d.before (.start d.start)) d.trace d.closed.2
        (d.afterwards d.ended.1),
      (OwnedBy "a" "a-vol-000001" (d.afterwards d.ended.1) ∧ "a-vol-000001" ∉ parts.dropped) ∧
        (∀ x ∈ parts.scenes, OwnedBy "a" "a-old" x) ∧
          OwnedBy "a" "a-old" (d.afterwards d.ended.1) ∧ "a-old" ∉ parts.dropped) ∧
      ∀ x ∈ d.before d.opened.1 :: d.servingTrace, OwnedBy "a" "a-old" x := by
  intro d
  have hturn : d.opened.2.1.result? = some (.ok ()) := by decide +kernel
  have hanswers : d.gathered.2.1.result?.isSome := by decide +kernel
  have hmade : d.made = some ⟨"a-vol-000001", "a", .volume⟩ := by decide +kernel
  have hsingle : ∀ x ∈ d.trace, x.world.state.gateway.clusters.ids = ["a"] := by
    have h : (d.trace.all fun x => x.world.state.gateway.clusters.ids = ["a"]) = true := by
      decide +kernel
    exact fun x hx => of_decide_eq_true (List.all_eq_true.mp h x hx)
  have hlists : ∀ x ∈ d.trace, lists "a" .volume "a-old" x.world.state = true := by
    have h : (d.trace.all fun x => lists "a" .volume "a-old" x.world.state) = true := by
      decide +kernel
    exact List.all_eq_true.mp h
  have hold : d.opened.1.state.gateway.resources.record? "a-old" =
      some ⟨"a-old", "a", .volume⟩ := by decide +kernel
  have hfresh : "a-vol-000001" ∉ d.start.gateway.resources.ids := by decide +kernel
  have hmanaged : "a" ∈ d.opened.1.state.gateway.openPass.managed := by decide +kernel
  have hanswered : "a" ∉ d.closed.2.fetchFailures := by decide +kernel
  have hnodel : NoDeletes (d.before (.start d.start)) := by
    intro r hr
    rw [List.mem_singleton.mp hr]
    rfl
  have hnone : madeAt (d.before d.opened.1) 0 = none := ((d.allNew _).untold 0).1
  have hone : ∀ j r, madeAt (d.afterwards d.ended.1) j = some r →
      j = 0 ∧ r = ⟨"a-vol-000001", "a", .volume⟩ := by
    intro j r hj
    obtain ⟨hj0, hr⟩ := (d.madeAt_afterwards _).mp hj
    rw [hmade] at hr
    exact ⟨hj0, (Option.some.inj hr).symm⟩
  obtain ⟨hcompleted, hunderway⟩ :=
    pass_keeps_live .resources d.bound (d.before (.start d.start)) (fun _ => "a") (d.allNew _)
      hnodel
  -- from here on the scenes are not to be computed again
  clear_value d
  refine ⟨⟨d.parts hturn hanswers, ?_⟩, ?_⟩
  · obtain ⟨-, hparts⟩ := hcompleted d.trace d.closed.2 d.closed.2 (d.afterwards d.ended.1)
      (d.runs hturn hanswers) rfl
      (fun j r hj => by rw [(hone j r hj).2]; exact hfresh)
      (fun i j q r hi hj _ => (hone i q hi).1.trans (hone j r hj).1.symm)
      (fun j r hj => by rw [(hone j r hj).2])
      (fun x hx => housed_of_single (hsingle x hx))
    obtain ⟨-, -, hnew, hkept⟩ := hparts (d.parts hturn hanswers)
    refine ⟨hnew 0 ⟨"a-vol-000001", "a", .volume⟩ hnone
      ((d.madeAt_afterwards _).mpr ⟨rfl, hmade⟩) hmanaged, ?_⟩
    exact hkept "a" "a-old" .volume ⟨_, hold, rfl⟩ hmanaged rfl
      (fun x hx => shown_of_lists (hlists x ((d.parts hturn hanswers).mem_trace hx)))
      (Or.inl hanswered)
  · exact hunderway d.preludeTrace d.servingTrace () _ _ _ (d.opens hturn) d.serves
      (fun j r hj => by
        obtain ⟨-, hr⟩ := (d.madeAt_afterwards _).mp hj
        rw [hmade] at hr
        rw [← Option.some.inj hr])
      "a" "a-old" ⟨_, hold, rfl⟩ rfl

end FederatedStorage.Deployment
