import FederatedStorage.Proofs.Gateway.Detour
import FederatedStorage.Proofs.Gateway.Homes

/-!
# Deletions during a pass

An inventory shows an array as of the asking, so it may report a resource that is deleted before the
pass takes the inventory over. The taking over looks neither at the array nor at the callers again,
so it gives the resource an owner once more. That happens whenever an inventory reports the resource
and everybody who was told of its deletion was told before the closing, and it happens only then.

## Main statements

* `deleted_contains_iff`: when a deleted resource has an owner after a pass.
* `deletion_undone`: a pass after which a deleted resource has an owner.
-/

namespace FederatedStorage.Deployment

open Schedule Gateway

variable {id : String} {b : Bound} {k : PassKind} {s s' x y : Scene Deployment (List Caller)}
  {t : List (Scene Deployment (List Caller))} {result : k.Result}

/-- **Nobody creates again what has been deleted**: whoever is told in the end of having created the
resource had been told when the first was told of its deletion. -/
def NeverAnew (id : String) (s' x : Scene Deployment (List Caller)) : Prop :=
  ∀ i, droppedAt x i = some id → ∀ j r, madeAt s' j = some r → r.id = id → madeAt x j = some r

/-- A lookup after something else was made or dropped. -/
theorem record?_settledBy_other {made : Option Resource} {dropped : Option String} (o : Ownership)
    (hmade : ∀ r, made = some r → r.id ≠ id) (hdropped : dropped ≠ some id) :
    (settledBy made dropped o).record? id = o.record? id := by
  cases made with
  | some r =>
    show (o.map r).record? id = o.record? id
    rw [Ownership.record?_map, if_neg fun he => hmade r rfl he.symm]
  | none =>
    cases dropped with
    | none => rfl
    | some d =>
      show (o.unmap d).record? id = o.record? id
      rw [Ownership.record?_unmap, if_neg fun he => hdropped (congrArg some he.symm)]

/-! ## Deletions stay -/

/-- **A deleted resource has no owner** once a caller has been told. -/
structure Gone (id : String) (s' : Scene Deployment (List Caller)) (j : Nat)
    (x : Scene Deployment (List Caller)) : Prop where
  fits : AllFit x
  neverAnew : NeverAnew id s' x
  gone : droppedAt x j = some id → x.world.state.gateway.resources.record? id = none

namespace Gone

variable {j : Nat}

/-- Nothing is gone before anybody has begun. -/
theorem of_new (hnew : AllNew x) : Gone id s' j x := by
  have hnone : ∀ i, droppedAt x i ≠ some id := by
    intro i hi
    rw [(hnew.untold i).2] at hi
    cases hi
  exact ⟨hnew.fits, fun i hi => absurd hi (hnone i), fun hj => absurd hj (hnone j)⟩

/-- An act that changes no owner brings nothing back. -/
theorem own {w : World Deployment}
    (hw : w.state.gateway.resources = x.world.state.gateway.resources) (h : Gone id s' j x) :
    Gone id s' j (x.put w) := by
  refine ⟨h.fits, h.neverAnew, fun hj => ?_⟩
  show w.state.gateway.resources.record? id = none
  rw [hw]
  exact h.gone hj

/-- **A move brings nothing back**: it is no creation of the deleted resource. -/
theorem move (hy : NeverAnew id s' y ∧ Later y s') (hmove : Moves x y) (h : Gone id s' j x) :
    Gone id s' j y := by
  obtain ⟨hanew, hlater⟩ := hy
  obtain ⟨hfits, -, -, i, hone, hres⟩ := hmove.cases h.fits
  refine ⟨hfits, hanew, fun hj => ?_⟩
  rw [hres]
  by_cases hi : droppedAt y i = some id
  · -- this very move tells of the deletion, and drops the owner
    rw [madeAt_of_droppedAt hi, hi]
    show (x.world.state.gateway.resources.unmap id).record? id = none
    rw [Ownership.record?_unmap, if_pos rfl]
  · -- another caller has been told before, so this move creates the resource no more
    have hji : j ≠ i := fun he => hi (he ▸ hj)
    have hx : droppedAt x j = some id := (hone.others j hji).2.symm.trans hj
    rw [record?_settledBy_other _ (fun r hr hid => ?_) hi]
    · exact h.gone hx
    · have hmade := h.neverAnew j hx i r (hlater.made i r hr) hid
      rw [hone.untold.1] at hmade
      cases hmade

/-- What is gone stays so up to the resources' part of a pass. -/
theorem prelude {a : Except k.Result k.Found} (h : Gone id s' j s)
    (hK : ∀ x ∈ t, NeverAnew id s' x ∧ Later x s') (hrun : Runs Moves k.prelude s t (.done a) x) :
    Gone id s' j x :=
  (hrun.keep (R := PassKind.calmly) (J := Gone id s' j)
    (K := fun x => NeverAnew id s' x ∧ Later x s') (fun _ _ _ _ => trivial)
    (fun _ _ hw _ hx => hx.own hw.resources) (fun _ _ hxy hy hx => hx.move hy hxy)
    (fun _ _ => trivial) hK k.prelude_safe h).2.1

variable {parts : k.Parts Moves b s t result s'}

/-- What is gone stays so until the closing. -/
theorem until_closing (hK : ∀ x ∈ parts.scenes, NeverAnew id s' x ∧ Later x s')
    (h : Gone id s' j parts.opening) : Gone id s' j parts.closing :=
  (parts.until_closing (K := fun x => NeverAnew id s' x ∧ Later x s')
    (fun _ _ hw _ hx => hx.own hw.resources) (fun _ _ hxy hy hx => hx.move hy hxy)
    (fun x hx => hK x (List.mem_append_left _ hx)) h).2

/-- What is gone after the closing stays so to the end. -/
theorem from_closing (hK : ∀ x ∈ parts.scenes, NeverAnew id s' x ∧ Later x s')
    (h : Gone id s' j parts.closed) : Gone id s' j s' :=
  (parts.from_closing (K := fun x => NeverAnew id s' x ∧ Later x s')
    (fun _ _ _ => k.after_safe _ _) (fun _ _ hw _ hx => hx.own hw.resources)
    (fun _ _ hxy hy hx => hx.move hy hxy)
    (fun x hx => hK x (List.mem_append_right _ (List.mem_cons_of_mem _ hx))) h).2

end Gone

/-! ## The closing -/

variable {parts : k.Parts Moves b s t result s'}

/-- All inventories come from managed clusters, and take all their resources for their cluster's. -/
theorem inventories_managed {i : Inventory} (hi : i ∈ parts.inventories) :
    i.clusterId ∈ parts.opened.managed ∧ ∀ r ∈ i.resources, r.clusterId = i.clusterId := by
  have hfetched : List.Forall₂ (MayFetch quietly b) parts.opened.managed parts.inventories :=
    parts.gather_runs.result (fun _ _ _ _ => trivial) (fun _ _ => trivial)
      (gather_safe quietly_call.dial _)
  obtain ⟨c, hc, hfetch⟩ := exists_of_mem_left hfetched.flip i hi
  obtain ⟨hic, hres⟩ := MayFetch.of_cluster hfetch
  rw [hic]
  exact ⟨hc, hres⟩

/-- **The closing gives an owner to what had none** exactly if an inventory reports it. -/
theorem contains_closed_iff
    (hnone : parts.closing.world.state.gateway.resources.record? id = none) :
    parts.closed.world.state.gateway.resources.contains id = true ↔
      ∃ i ∈ parts.inventories, i.reports id = true := by
  rw [Ownership.contains_iff, parts.closed_resources]
  constructor
  · rintro ⟨r, hr⟩
    rcases takenOver_cases _ parts.inventories id with ⟨-, hsame⟩ | ⟨i, hi, hrep, -⟩
    · have hfound := takenOver_of_leftOwners hr
      rw [hsame, hnone] at hfound
      cases hfound
    · exact ⟨i, hi, hrep⟩
  · rintro ⟨i, hi, hrep⟩
    obtain ⟨j, hj, r, hr, hid, hrec⟩ := takenOver_of_reports hi hrep
    obtain ⟨hm, hres⟩ := inventories_managed hj
    have hreported : isReported parts.inventories r.clusterId r.id = true :=
      isReported_iff.mpr ⟨j, hj, (hres r hr).symm, Inventory.reports_iff.mpr ⟨r, hr, rfl⟩⟩
    have hfresh : isStale parts.opened parts.inventories
        parts.closing.world.state.settings.preserve r = false :=
      not_isStale_of_reported (hres r hr ▸ hm) hreported
    exact ⟨r, leftOwners_of_not_isStale hrec hfresh⟩

/-! ## After the closing -/

/-- The owner of a resource is what it was right after the closing. -/
structure Stays (id : String) (s' closed x : Scene Deployment (List Caller)) : Prop where
  fits : AllFit x
  neverAnew : NeverAnew id s' x
  later : Later closed x
  same : x.world.state.gateway.resources.record? id =
    closed.world.state.gateway.resources.record? id

namespace Stays

variable {closed : Scene Deployment (List Caller)}

theorem own {w : World Deployment}
    (hw : w.state.gateway.resources = x.world.state.gateway.resources) (h : Stays id s' closed x) :
    Stays id s' closed (x.put w) := by
  refine ⟨h.fits, h.neverAnew, ⟨h.later.requests, h.later.made, h.later.dropped⟩, ?_⟩
  show w.state.gateway.resources.record? id = _
  rw [hw]
  exact h.same

/-- **A move leaves a deleted resource alone** if everybody has been told of the deletion. -/
theorem move {i : Nat} (hi : droppedAt closed i = some id)
    (hall : ∀ j, droppedAt s' j = some id → droppedAt closed j = some id)
    (hy : NeverAnew id s' y ∧ Later y s') (hmove : Moves x y) (h : Stays id s' closed x) :
    Stays id s' closed y := by
  obtain ⟨hanew, hlater⟩ := hy
  obtain ⟨hfits, -, -, j, hone, hres⟩ := hmove.cases h.fits
  refine ⟨hfits, hanew, h.later.trans hone.later, ?_⟩
  rw [hres, record?_settledBy_other _ (fun r hr hid => ?_) fun hd => ?_]
  · exact h.same
  · -- a creation would be one after the deletion
    have hmade := h.neverAnew i (h.later.dropped i id hi) j r (hlater.made j r hr) hid
    rw [hone.untold.1] at hmade
    cases hmade
  · -- who is told of the deletion now would have been told before the closing
    have hbefore := h.later.dropped j id (hall j (hlater.dropped j id hd))
    rw [hone.untold.2] at hbefore
    cases hbefore

end Stays

/-- **Nothing changes after the closing** if everybody had been told of the deletion. -/
theorem record?_from_closing {i : Nat} (hi : droppedAt parts.closed i = some id)
    (hall : ∀ j, droppedAt s' j = some id → droppedAt parts.closed j = some id)
    (hfits : AllFit parts.closed) (hK : ∀ x ∈ parts.scenes, NeverAnew id s' x ∧ Later x s') :
    s'.world.state.gateway.resources.record? id =
      parts.closed.world.state.gateway.resources.record? id := by
  have hclosed : NeverAnew id s' parts.closed :=
    (hK _ (List.mem_append_right _ List.mem_cons_self)).1
  have hstart : Stays id s' parts.closed parts.closed := ⟨hfits, hclosed, .refl _, rfl⟩
  exact (parts.from_closing (J := Stays id s' parts.closed)
    (K := fun x => NeverAnew id s' x ∧ Later x s') (fun _ _ _ => k.after_safe _ _)
    (fun _ _ hw _ hx => hx.own hw.resources) (fun _ _ hxy hy hx => hx.move hi hall hy hxy)
    (fun x hx => hK x (List.mem_append_right _ (List.mem_cons_of_mem _ hx))) hstart).2.same

/-! ## Passes -/

/-- A pass without a resources' part brings nothing back. -/
theorem gone_of_prelude {j : Nat} (hnew : AllNew s) (hK : ∀ x ∈ t, NeverAnew id s' x ∧ Later x s')
    (hrun : Runs Moves (k.work b) s t (.done result) s') (hnone : k.report? result = none) :
    Gone id s' j s' := by
  rw [PassKind.work_eq] at hrun
  rcases PassParts.split hrun with ⟨r, t0, s1, t1, ht, hprelude, hleave⟩ | ⟨⟨parts⟩⟩
  · have h1 : Gone id s' j s1 :=
      (Gone.of_new hnew).prelude (fun x hx => hK x (ht ▸ List.mem_append_left _ hx)) hprelude
    exact (hleave.keep (R := quietly) (Q := fun _ => True) (J := Gone id s' j)
      (K := fun x => NeverAnew id s' x ∧ Later x s') (fun _ _ _ _ => trivial)
      (fun _ _ hw _ hx => hx.own hw.resources) (fun _ _ hxy hy hx => hx.move hy hxy)
      (fun _ _ => trivial) (fun x hx => hK x (ht ▸ List.mem_append_right _ hx))
      PassKind.leave_safe h1).2.1
  · rw [PassKind.report?_eq parts] at hnone
    cases hnone

/-- **When a deleted resource has an owner after a pass.** A resource is deleted by callers beside a
pass, and nobody creates it again. If the pass never comes to its resources' part, the resource has
no owner in the end. Otherwise it has one exactly if an inventory of the pass reports it, and
everybody who has been told of its deletion was told before the closing. -/
theorem deleted_contains_iff (k : PassKind) (b : Bound) (s : Scene Deployment (List Caller))
    (hnew : AllNew s) (t : List (Scene Deployment (List Caller))) (result : k.Result)
    (s' : Scene Deployment (List Caller)) (hrun : Runs Moves (k.work b) s t (.done result) s')
    (id : String) (hdeleted : ∃ i, droppedAt s' i = some id) (honce : ∀ x ∈ t, NeverAnew id s' x) :
    (k.report? result = none → s'.world.state.gateway.resources.contains id = false) ∧
      ∀ report, k.report? result = some report →
        (∃ parts : k.Parts Moves b s t result s', parts.report = report) ∧
        ∀ parts : k.Parts Moves b s t result s', parts.report = report ∧
          (s'.world.state.gateway.resources.contains id = true ↔
            (∃ i ∈ parts.inventories, i.reports id = true) ∧
              ∀ j, droppedAt s' j = some id → droppedAt parts.closing j = some id) := by
  obtain ⟨-, hlater⟩ := runs_later hrun
  have hK : ∀ x ∈ t, NeverAnew id s' x ∧ Later x s' := fun x hx => ⟨honce x hx, hlater x hx⟩
  obtain ⟨i, hi⟩ := hdeleted
  have hlost : ∀ {x : Scene Deployment (List Caller)},
      x.world.state.gateway.resources.record? id = none →
        ¬ x.world.state.gateway.resources.contains id = true := by
    intro x hnone hcontains
    obtain ⟨r, hr⟩ := Ownership.contains_iff.mp hcontains
    rw [hnone] at hr
    cases hr
  constructor
  · intro hnone
    exact Bool.eq_false_iff.mpr (hlost ((gone_of_prelude (j := i) hnew hK hrun hnone).gone hi))
  intro report hreport
  refine ⟨PassKind.exists_parts hrun hreport, fun parts => ⟨?_, ?_⟩⟩
  · rw [PassKind.report?_eq parts] at hreport
    exact Option.some.inj hreport
  have hscenes : ∀ x ∈ parts.scenes, NeverAnew id s' x ∧ Later x s' :=
    fun x hx => hK x (parts.mem_trace hx)
  have hprelude : ∀ x ∈ parts.preludeTrace, NeverAnew id s' x ∧ Later x s' :=
    fun x hx => hK x (parts.trace_scenes ▸ List.mem_append_left _ hx)
  have hclosing : ∀ j, Gone id s' j parts.closing := fun j =>
    ((Gone.of_new hnew).prelude hprelude parts.prelude_runs).until_closing hscenes
  by_cases hall : ∀ j, droppedAt s' j = some id → droppedAt parts.closing j = some id
  · -- everybody was told before the closing, so the closing decides
    have hsame := record?_from_closing (hall i hi) hall (hclosing i).fits hscenes
    rw [and_iff_left hall, ← contains_closed_iff ((hclosing i).gone (hall i hi)),
      Ownership.contains_iff, Ownership.contains_iff, hsame]
  · -- somebody was told after the closing, and nobody creates the resource again
    obtain ⟨j, hj⟩ := not_forall.mp hall
    obtain ⟨hend, hbefore⟩ := Classical.not_imp.mp hj
    have hclosed : Gone id s' j parts.closed :=
      ⟨(hclosing j).fits, (hscenes _ (List.mem_append_right _ List.mem_cons_self)).1,
        fun h => absurd h hbefore⟩
    have hgone := (hclosed.from_closing hscenes).gone hend
    exact ⟨fun h => absurd h (hlost hgone), fun h => absurd h.2 hall⟩

/-- The volume of the slow array is deleted while a pass waits for its listing, which is older. -/
theorem deleted_contains_iff_slowArray :
    let d := besideSlow (.call (.deleteVolume "a-old"))
    droppedAt (d.afterwards d.ended.1) 0 = some "a-old" ∧
      (d.ended.1.state.gateway.resources.contains "a-old" = true ↔
        ∃ i ∈ d.inventories, i.reports "a-old" = true) ∧
      ∃ i ∈ d.inventories, i.reports "a-old" = true := by
  intro d
  have hturn : d.opened.2.1.result? = some (.ok ()) := by decide +kernel
  have hanswers : d.gathered.2.1.result?.isSome := by decide +kernel
  have hmade : d.made = none := by decide +kernel
  have hdeleted : d.deleted = some "a-old" := by decide +kernel
  have hreports : ∃ i ∈ d.inventories, i.reports "a-old" = true := by decide +kernel
  clear_value d
  have hend : droppedAt (d.afterwards d.ended.1) 0 = some "a-old" :=
    (d.droppedAt_afterwards _).mpr ⟨rfl, hdeleted⟩
  have honce : ∀ x ∈ d.trace, NeverAnew "a-old" (d.afterwards d.ended.1) x := by
    intro x _ i _ j r hj
    obtain ⟨-, hr⟩ := (d.madeAt_afterwards _).mp hj
    rw [hmade] at hr
    cases hr
  obtain ⟨-, hreported⟩ := deleted_contains_iff .resources d.bound (d.before (.start d.start))
    (d.allNew _) d.trace d.closed.2 (d.afterwards d.ended.1) (d.runs hturn hanswers) "a-old"
    ⟨0, hend⟩ honce
  obtain ⟨-, hparts⟩ := hreported d.closed.2 rfl
  have hclosing : ∀ j, droppedAt (d.afterwards d.ended.1) j = some "a-old" →
      droppedAt (d.parts hturn hanswers).closing j = some "a-old" :=
    fun j hj => (d.droppedAt_afterwards _).mpr ((d.droppedAt_afterwards _).mp hj)
  refine ⟨hend, ?_, hreports⟩
  exact (hparts (d.parts hturn hanswers)).2.trans (and_iff_left hclosing)

/-- **A deletion that a pass undoes**: the caller is told that the volume is deleted while the pass
is under way, nobody creates anything and nothing is cancelled, and the volume has an owner after
the pass. -/
theorem deletion_undone :
    let d := besideSlow (.call (.deleteVolume "a-old"))
    Runs Moves (PassKind.resources.work d.bound) (d.before (.start d.start)) d.trace
        (.done d.closed.2) (d.afterwards d.ended.1) ∧
      d.closed.2.cancelled = false ∧ AllNew (d.before (.start d.start)) ∧
      droppedAt (d.afterwards d.ended.1) 0 = some "a-old" ∧
      (∀ j, madeAt (d.afterwards d.ended.1) j = none) ∧
      d.ended.1.state.gateway.resources.contains "a-old" = true := by
  intro d
  have hturn : d.opened.2.1.result? = some (.ok ()) := by decide +kernel
  have hanswers : d.gathered.2.1.result?.isSome := by decide +kernel
  have hmade : d.made = none := by decide +kernel
  have hdeleted : d.deleted = some "a-old" := by decide +kernel
  have hcancelled : d.closed.2.cancelled = false := by decide +kernel
  have hcontains : d.ended.1.state.gateway.resources.contains "a-old" = true := by decide +kernel
  clear_value d
  have hnone : ∀ j, madeAt (d.afterwards d.ended.1) j = none := by
    intro j
    refine Option.eq_none_iff_forall_ne_some.mpr fun r hj => ?_
    obtain ⟨-, hr⟩ := (d.madeAt_afterwards _).mp hj
    rw [hmade] at hr
    cases hr
  exact ⟨d.runs hturn hanswers, hcancelled, d.allNew _,
    (d.droppedAt_afterwards _).mpr ⟨rfl, hdeleted⟩, hnone, hcontains⟩

end FederatedStorage.Deployment
