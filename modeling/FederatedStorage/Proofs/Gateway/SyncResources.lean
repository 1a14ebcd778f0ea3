import FederatedStorage.Proofs.Gateway.Parts
import FederatedStorage.Proofs.Gateway.Reconciled

/-!
# The resources' part of a pass

A run of `Deployment.syncResources` opens the pass, asks every managed cluster, and closes the pass
in one act. As long as nobody else touches the owners, what it leaves is in line with the answers
that it got.

## Main statement

* `syncResources_reconciled`: the owners after a run.
-/

namespace FederatedStorage.Deployment

open Schedule Gateway

variable {ε : Type} {moves : Scene Deployment ε → Scene Deployment ε → Prop}
  {s s' : Scene Deployment ε} {t : List (Scene Deployment ε)} {b : Bound}
  {report : ResourceSyncReport}

/-! ## Runs of the resources' part alone -/

/-- **The parts of a run** of the resources' part of a pass. -/
abbrev SyncParts (moves : Scene Deployment ε → Scene Deployment ε → Prop) (b : Bound)
    (s : Scene Deployment ε) (t : List (Scene Deployment ε)) (report : ResourceSyncReport)
    (s' : Scene Deployment ε) :=
  PassParts moves b (.done (.ok ()) : Work (Except ResourceSyncReport Unit))
    (fun _ report => .done report) s t report s'

theorem syncResources_split (h : Runs moves (syncResources b) s t (.done report) s') :
    Nonempty (SyncParts moves b s t report s') := by
  -- the resources' part alone is a pass without prelude that ends with its report
  have hparts : Runs moves (aroundSync b (.done (.ok ()) : Work (Except ResourceSyncReport Unit))
      .done fun _ report => .done report) s t (.done report) s' := by
    show Runs moves ((syncResources b).bind .done) s t (.done report) s'
    rw [Activity.bind_done]
    exact h
  rcases PassParts.split hparts with ⟨r, t0, s1, t1, -, herror, -⟩ | h
  · cases (herror.of_done).1
  · exact h

/-- What the pass reports is what the closing act found. -/
theorem SyncParts.report_eq (parts : SyncParts moves b s t report s') : report = parts.report :=
  Activity.done.inj parts.end_runs.of_done.1

/-! ## Answers -/

/-- What one cluster answered, from its inventory: none that has no client has answered. -/
theorem MayFetch.answer {R : Rely Deployment} {g : Gateway} {c : String} {i : Inventory}
    (hsame : ∀ u v, R.others u v → v.state.gateway.targetOf c = g.targetOf c)
    (h : MayFetch R b c i) :
    ∃ a : Answer, i = ⟨c, a.map fun l => inventoryOf c l.1 l.2⟩ ∧
      ∀ failure, g.targetOf c = .error failure → a = .error failure := by
  cases h with
  | @missing _ _ failure hv htarget =>
    refine ⟨.error failure, rfl, fun f hf => ?_⟩
    rw [← hsame _ _ hv, htarget] at hf
    rw [Except.error.inj hf]
  | @listed _ _ _ volumes snapshots hv htarget _ _ =>
    refine ⟨.ok (volumes, snapshots), rfl, fun f hf => ?_⟩
    rw [← hsame _ _ hv, htarget] at hf
    cases hf
  | @failed _ _ _ _ failure hv htarget _ =>
    refine ⟨.error failure, rfl, fun f hf => ?_⟩
    rw [← hsame _ _ hv, htarget] at hf
    cases hf
  | @stopped u v x y _ hv htarget _ _ operation =>
    refine ⟨.error _, rfl, fun f hf => ?_⟩
    rw [← hsame _ _ hv, htarget] at hf
    cases hf

/-- What all clusters answered. -/
theorem exists_answers {P : String → Answer → Prop} {managed : List String}
    {inventories : List Inventory} (hnodup : managed.Nodup)
    (h : List.Forall₂ (fun c i => ∃ a : Answer,
      i = ⟨c, a.map fun l => inventoryOf c l.1 l.2⟩ ∧ P c a) managed inventories) :
    ∃ answers : String → Answer, inventories = managed.map (answered answers) ∧
      ∀ c ∈ managed, P c (answers c) := by
  induction h with
  | nil => exact ⟨fun c => .error (.clusterNotFound c), rfl, fun c hc => absurd hc List.not_mem_nil⟩
  | @cons c i managed inventories hc _ ih =>
    obtain ⟨hnew, hnodup⟩ := List.nodup_cons.mp hnodup
    obtain ⟨answers, hmap, hP⟩ := ih hnodup
    obtain ⟨a, hi, ha⟩ := hc
    -- no cluster is asked twice, so the new answer overwrites none of the others
    have hother : ∀ x ∈ managed, (if x = c then a else answers x) = answers x := by
      intro x hx
      rw [if_neg]
      rintro rfl
      exact hnew hx
    refine ⟨fun x => if x = c then a else answers x, ?_, fun x hx => ?_⟩
    · rw [List.map_cons, hmap, hi]
      congr 1
      · simp [answered]
      · exact List.map_congr_left fun x hx => by simp [answered, hother x hx]
    · rcases List.mem_cons.mp hx with rfl | hx
      · simpa using ha
      · simpa [hother x hx] using hP x hx

/-! ## Runs among quiet others -/

/-- Up to the closing the owners are those of the beginning, and after it those of the closing. -/
theorem SyncParts.quiet (hmoves : ∀ x y, moves x y → Quiet x.world y.world)
    (parts : SyncParts moves b s t report s') :
    (∀ x ∈ parts.openScenes, Quiet s.world x.world) ∧ Quiet s.world parts.closing.world ∧
      Quiet parts.closed.world s'.world := by
  have hown : ∀ v (x : Scene Deployment ε) (w : World Deployment), Quiet x.world w → True →
      Quiet v x.world → Quiet v (x.put w).world := fun v x w hw _ hx => hx.trans hw
  have haside : ∀ v x y, moves x y → True → Quiet v x.world → Quiet v y.world :=
    fun v x y hxy _ hx => hx.trans (hmoves x y hxy)
  have hopening : Quiet s.world parts.opening.world :=
    (parts.prelude_runs.keep (R := quietly) (Q := fun _ => True)
      (J := fun x => Quiet s.world x.world) (K := fun _ => True) (fun _ _ _ _ => trivial)
      (hown _) (haside _) (fun _ _ => trivial)
      (fun _ _ => trivial) trivial (Quiet.refl _)).2.1
  obtain ⟨hopen, hclosing⟩ :=
    parts.until_closing (J := fun x => Quiet s.world x.world) (K := fun _ => True) (hown _)
      (haside _) (fun _ _ => trivial) hopening
  refine ⟨hopen, hclosing, ?_⟩
  exact (parts.from_closing (J := fun x => Quiet parts.closed.world x.world) (K := fun _ => True)
    (fun _ _ _ => trivial) (hown _) (haside _) (fun _ _ => trivial) (Quiet.refl _)).2

/-- The inventories are those of the clusters' answers. -/
theorem SyncParts.answers (hmoves : ∀ x y, moves x y → Quiet x.world y.world)
    (parts : SyncParts moves b s t report s') :
    ∃ answers : String → Answer,
      parts.inventories = s.world.state.gateway.clusters.ids.map (answered answers) ∧
        ∀ c ∈ s.world.state.gateway.clusters.ids, ∀ failure,
          s.world.state.gateway.targetOf c = .error failure → answers c = .error failure := by
  obtain ⟨hopen, -, -⟩ := parts.quiet hmoves
  -- in every scene of the gathering the clusters are those of the beginning
  let R : Rely Deployment := .amid fun w => Quiet s.world w
  have hscenes : ∀ x ∈ parts.opening :: parts.gatherTrace, Quiet s.world x.world :=
    fun x hx => hopen x (List.mem_append_left _ hx)
  have hfetch : List.Forall₂ (MayFetch R b) parts.opened.managed parts.inventories :=
    parts.gather_runs.result (fun _ _ _ hy => hy) hscenes
      (gather_safe (fun _ _ _ _ _ _ _ => trivial) _)
  have hids : parts.opened.managed = s.world.state.gateway.clusters.ids :=
    congrArg ClusterRegistry.ids (hscenes _ List.mem_cons_self).clusters
  rw [hids] at hfetch
  refine exists_answers (P := fun c a => ∀ failure,
    s.world.state.gateway.targetOf c = .error failure → a = .error failure)
    (Keyed.keys_nodup _) (hfetch.imp fun c i hci => ?_)
  exact hci.answer fun _ v hv => Quiet.targetOf hv c

/-- Taking over what all managed clusters answered brings the owners in line with it. -/
theorem takeOver_reconciled {answers : String → Answer} {w : World Deployment}
    (htoken : w.isCancelled b.token = false)
    (hnone : ∀ c ∈ w.state.gateway.clusters.ids, ¬ Cancels answers c) :
    let taken := takeOver b w.state.gateway.openPass
      (w.state.gateway.clusters.ids.map (answered answers)) w
    Reconciled w.state.gateway.resources w.state.gateway.clusters.ids answers
      w.state.settings.preserve taken.1.state.gateway.resources taken.2 := by
  simp only [takeOver, htoken]
  exact reconciled_closePass (List.Perm.refl _) hnone

/-- **The owners after the resources' part of a pass** are in line with the clusters' answers. This
is so for all inventories in every order, and a run among others who leave the owners alone closes
the pass with the inventories that it gathered. -/
theorem syncResources_reconciled :
    (∀ (g : Gateway) (answers : String → Answer) (order : List String) (preserve : Bool),
      order.Perm g.clusters.ids → (∀ c ∈ order, ¬ Cancels answers c) →
        Reconciled g.resources g.clusters.ids answers preserve
          (g.closePass g.openPass (order.map (answered answers)) false preserve).1.resources
          (g.closePass g.openPass (order.map (answered answers)) false preserve).2) ∧
    ∀ {ε : Type} (moves : Scene Deployment ε → Scene Deployment ε → Prop) (b : Bound)
      (s s' : Scene Deployment ε) (t : List (Scene Deployment ε)) (report : ResourceSyncReport),
      (∀ x y, moves x y → Quiet x.world y.world) →
      Runs moves (syncResources b) s t (.done report) s' →
        ∃ (answers : String → Answer) (parts : SyncParts moves b s t report s'),
          parts.inventories = s.world.state.gateway.clusters.ids.map (answered answers) ∧
          (∀ c ∈ s.world.state.gateway.clusters.ids, ∀ failure,
            s.world.state.gateway.targetOf c = .error failure → answers c = .error failure) ∧
          (report.cancelled = false ↔
            (∀ c ∈ s.world.state.gateway.clusters.ids, ¬ Cancels answers c) ∧
              parts.closing.world.isCancelled b.token = false) ∧
          (report.cancelled = false →
            Reconciled s.world.state.gateway.resources s.world.state.gateway.clusters.ids answers
              s.world.state.settings.preserve s'.world.state.gateway.resources report) := by
  refine ⟨fun g answers order preserve => reconciled_closePass, ?_⟩
  intro ε moves b s s' t report hmoves h
  obtain ⟨parts⟩ := syncResources_split h
  obtain ⟨answers, hanswers, hmissing⟩ := parts.answers hmoves
  obtain ⟨hopen, hclosing, hend⟩ := parts.quiet hmoves
  have hopening : Quiet s.world parts.opening.world := hopen _ List.mem_cons_self
  have hcancelled : report.cancelled =
      isInterrupted parts.inventories (parts.closing.world.isCancelled b.token) :=
    congrArg ResourceSyncReport.cancelled (parts.report_eq.trans closePass_snd)
  have hiff : report.cancelled = false ↔
      (∀ c ∈ s.world.state.gateway.clusters.ids, ¬ Cancels answers c) ∧
        parts.closing.world.isCancelled b.token = false := by
    rw [hcancelled, hanswers, isInterrupted, Bool.or_eq_false_iff, and_comm,
      ← isInterrupted_answered, isInterrupted, Bool.false_or]
  refine ⟨answers, parts, hanswers, hmissing, hiff, fun hnot => ?_⟩
  obtain ⟨hnone, htoken⟩ := hiff.mp hnot
  -- what the opening noted still holds at the closing, so the closing may be taken for the opening
  have hopened : parts.opened = parts.closing.world.state.gateway.openPass := by
    rw [PassParts.opened, hopening.openPass, hclosing.openPass]
  have hreconciled := takeOver_reconciled htoken (hclosing.clusters ▸ hnone)
  rw [hclosing.clusters, ← hanswers, ← hopened, hclosing.resources, hclosing.settings]
    at hreconciled
  have hafter : Reconciled _ _ answers _ parts.closed.world.state.gateway.resources parts.report :=
    hreconciled
  rw [← hend.resources, ← parts.report_eq] at hafter
  exact hafter

/-- Two clusters, one with an array and one without a client, and a resource of the second and of a
cluster that nobody manages. -/
def twoClusters : Deployment :=
  let now := Time.Timestamp.yearStart 2000
  let volume : Volume := ⟨"a-1", "v", 1, none, [], .empty, now, none⟩
  let array := (Loopback.new "a" .default).putVolume volume
  let cluster (id : String) (client : Option Client) : Cluster :=
    ⟨id, loopbackVendor, .empty, .null, now, client⟩
  let d := new 0 .empty ⟨[.loopback array], .empty⟩ (.list []) ⟨false, none⟩ now
  { d with
    gateway :=
      { d.gateway with
        clusters := (d.gateway.clusters.set "a" (cluster "a" (some ⟨0⟩))).set "b" (cluster "b" none)
        resources :=
          d.gateway.resources.mapAll [⟨"b-1", "b", .volume⟩, ⟨"c-1", "c", .snapshot⟩] } }

/-- What the two clusters answer. -/
def twoAnswers (clusterId : String) : Answer :=
  if clusterId = "a" then .ok ([], []) else .error (.clientUnavailable clusterId)

/-- The owners are in line both after answers that are taken over in another order and after a run.
-/
theorem syncResources_reconciled_twoClusters :
    Reconciled twoClusters.gateway.resources twoClusters.gateway.clusters.ids twoAnswers true
        (twoClusters.gateway.closePass twoClusters.gateway.openPass
          (["b", "a"].map (answered twoAnswers)) false true).1.resources
        (twoClusters.gateway.closePass twoClusters.gateway.openPass
          (["b", "a"].map (answered twoAnswers)) false true).2 ∧
      ∃ (answers : String → Answer) (s' : Scene Deployment Unit),
        Reconciled twoClusters.gateway.resources twoClusters.gateway.clusters.ids answers false
          s'.world.state.gateway.resources ⟨1, 2, ["b"], false⟩ := by
  constructor
  · refine syncResources_reconciled.1 twoClusters.gateway twoAnswers ["b", "a"] true (by decide) ?_
    rintro c - ⟨operation, hc⟩
    unfold twoAnswers at hc
    split at hc <;> cases hc
  · let w : World Deployment := .start twoClusters
    have hend : ((syncResources ⟨.root, none⟩).advance w false).2.1.result? =
        some ⟨1, 2, ["b"], false⟩ := by decide +kernel
    have h := runs_of_result (fun _ _ => False) () hend
    obtain ⟨answers, -, -, -, -, hrec⟩ :=
      syncResources_reconciled.2 (fun _ _ => False) ⟨.root, none⟩ ⟨w, ()⟩ _ _ _
        (fun _ _ hmove => hmove.elim) h
    exact ⟨answers, _, hrec rfl⟩

end FederatedStorage.Deployment
