import FederatedStorage.Proofs.Gateway.Arrays
import FederatedStorage.Proofs.Gateway.Pass

/-!
# The parts of a pass

Every pass waits for its turn, opens the resources' part, asks all managed clusters at once, closes
the resources' part in one act, and gives its turn away. `PassParts` names the scenes of a run at
which this happens. Before the opening only a whole pass changes anything that matters, namely the
clusters; between opening and closing, and after the closing, a pass is quiet.

## Main statements

* `PassKind.work_eq`, `PassKind.split`: a pass has these parts.
* `PassParts.until_closing`, `PassParts.from_closing`: what holds along them.
-/

namespace FederatedStorage

open Schedule

namespace Deployment

open Gateway

/-- A prelude, then the resources' part of a pass and what comes after, unless the prelude fails. -/
def aroundSync {ξ α : Type} (b : Bound) (prelude : Work (Except α ξ)) (fail : α → Work α)
    (after : ξ → ResourceSyncReport → Work α) : Work α :=
  prelude.bind fun
    | .error result => fail result
    | .ok found => (syncResources b).bind (after found)

/-- **The passes**: whole ones, and the resources' part alone. -/
inductive PassKind
  | whole
  | resources

namespace PassKind

/-- What a pass has found before its resources' part. -/
abbrev Found : PassKind → Type
  | whole => Time.Timestamp × ClusterSyncReport
  | resources => Unit

/-- What comes of a pass. -/
abbrev Result : PassKind → Type
  | whole => Except Failure PassReport
  | resources => ResourceSyncReport

/-- The report on the resources, if the pass came so far. -/
def report? : (k : PassKind) → k.Result → Option ResourceSyncReport
  | whole, .ok report => some report.resources
  | whole, .error _ => none
  | resources, report => some report

/-- A pass. -/
def work (b : Bound) : (k : PassKind) → Work k.Result
  | whole => reconcile b
  | resources => alone (syncResources b)

/-- Waits for one's turn. -/
def turn : Work Unit :=
  (Activity.onState fun (d : Deployment) =>
    ({ d with lock := d.lock.enter.1 }, d.lock.enter.2)).bind fun ticket =>
      Activity.await fun w => w.state.lock.holder == some ticket

/-- Gives one's turn away. -/
def leave {α : Type} (a : α) : Work α :=
  Activity.onState fun d => ({ d with lock := d.lock.leave }, a)

/-- **What a pass does up to its resources' part.** A configuration that is no good ends it. -/
def prelude : (k : PassKind) → Work (Except k.Result k.Found)
  | whole => turn.bind fun _ => (ask now).bind fun started => loadClusters.bind fun
    | .error failure => .done (.error (.error failure))
    | .ok clusters => .done (.ok (started, clusters))
  | resources => turn.bind fun _ => .done (.ok ())

/-- What a whole pass does with its report. -/
def finish (found : Time.Timestamp × ClusterSyncReport) (resources : ResourceSyncReport) :
    Work (Except Failure PassReport) :=
  Activity.onState fun d =>
    let report : PassReport := ⟨found.2, resources, found.1, d.now⟩
    ({ d with gateway := d.gateway.finishPass report }, .ok report)

/-- **What a pass does after its resources' part.** -/
def after : (k : PassKind) → k.Found → ResourceSyncReport → Work k.Result
  | .whole, found, report => (finish found report).bind leave
  | .resources, _, report => leave report

/-- **A pass is its prelude, the resources' part and what comes after.** -/
theorem work_eq (k : PassKind) (b : Bound) :
    k.work b = aroundSync b k.prelude leave k.after := by
  cases k with
  | whole =>
    simp only [work, reconcile, alone, aroundSync, prelude, turn, Activity.bind_assoc, Bind.bind]
    refine congrArg (Activity.bind _) (funext fun ticket => ?_)
    refine congrArg (Activity.bind _) (funext fun _ => ?_)
    refine congrArg (Activity.bind _) (funext fun started => ?_)
    refine congrArg (Activity.bind _) (funext fun loaded => ?_)
    cases loaded with
    | error failure => rfl
    | ok clusters => exact Activity.bind_assoc _ _ _
  | resources =>
    simp only [work, alone, aroundSync, prelude, turn, Activity.bind_assoc, Bind.bind]
    rfl

/-! ### Acts before and after -/

/-- Owners and settings are as they were. Clusters may come and go. -/
structure Calm (v w : World Deployment) : Prop where
  resources : w.state.gateway.resources = v.state.gateway.resources
  settings : w.state.settings = v.state.settings

theorem Calm.refl (w : World Deployment) : Calm w w := ⟨rfl, rfl⟩

/-- Nothing to count on, and calm acts only. -/
def calmly : Rely Deployment := .nothing Calm Calm.refl

variable {w : World Deployment}

theorem turn_safe {own : World Deployment → World Deployment → Prop} {own_refl : ∀ w, own w w}
    (h : ∀ w (lock : PassLock), own w (w.modify fun d => { d with lock := lock })) :
    Safe (.nothing own own_refl) (fun _ => True) turn w := by
  refine Safe.bind (fun _ _ _ => ?_) (Safe.step (Q := fun _ => True) fun v _ => ⟨h v _, trivial⟩)
  exact ⟨fun hR => hR.elim, fun _ _ _ => trivial⟩

theorem loadClusters_safe : Safe calmly (fun _ => True) loadClusters w := by
  refine Safe.step fun v _ => ⟨?_, trivial⟩
  cases h : v.state.source.load <;> simpa [h] using ⟨rfl, rfl⟩

/-- **Up to its resources' part** a pass changes no owner, and if it ends there it reports nothing.
-/
theorem prelude_safe (k : PassKind) :
    Safe calmly (fun x => ∀ r, x = .error r → k.report? r = none) k.prelude w := by
  cases k with
  | whole =>
    refine Safe.bind (fun _ _ _ => ?_) (turn_safe fun _ _ => ⟨rfl, rfl⟩)
    refine Safe.bind (fun _ _ _ => ?_) (Safe.look (Q := fun _ => True) fun _ _ => trivial)
    refine Safe.bind (fun loaded _ _ => ?_) loadClusters_safe
    cases loaded with
    | error failure =>
      intro r hr
      cases hr
      rfl
    | ok clusters =>
      intro r hr
      cases hr
  | resources =>
    refine Safe.bind (fun _ _ _ => ?_) (turn_safe fun _ _ => ⟨rfl, rfl⟩)
    intro r hr
    cases hr

theorem leave_safe {α : Type} {a : α} : Safe quietly (fun _ => True) (leave a) w :=
  Safe.step fun _ _ => ⟨⟨rfl, rfl, rfl⟩, trivial⟩

/-- **After its resources' part** a pass changes neither clusters nor owners. -/
theorem after_safe (k : PassKind) (found : k.Found) (report : ResourceSyncReport) :
    Safe quietly (fun _ => True) (k.after found report) w := by
  cases k with
  | whole =>
    refine Safe.bind (Q := fun _ => True) (fun _ _ _ => leave_safe) ?_
    exact Safe.step fun _ _ => ⟨⟨rfl, rfl, rfl⟩, trivial⟩
  | resources => exact leave_safe

end PassKind

/-! ## Runs of a pass -/

variable {ε ξ α : Type} {moves : Scene Deployment ε → Scene Deployment ε → Prop} {b : Bound}
  {prelude : Work (Except α ξ)} {after : ξ → ResourceSyncReport → Work α}
  {s s' : Scene Deployment ε} {t : List (Scene Deployment ε)} {result : α}

/-- **The parts of a run** of a prelude, the resources' part of a pass and what comes after. -/
structure PassParts (moves : Scene Deployment ε → Scene Deployment ε → Prop) (b : Bound)
    (prelude : Work (Except α ξ)) (after : ξ → ResourceSyncReport → Work α)
    (s : Scene Deployment ε) (t : List (Scene Deployment ε)) (result : α)
    (s' : Scene Deployment ε) where
  /-- What the prelude has found. -/
  found : ξ
  /-- The scene in which the pass notes what is managed and owned. -/
  opening : Scene Deployment ε
  /-- The scene in which the last inventory has come. -/
  gathered : Scene Deployment ε
  /-- The scene in which the pass takes the inventories over. -/
  closing : Scene Deployment ε
  inventories : List Inventory
  preludeTrace : List (Scene Deployment ε)
  gatherTrace : List (Scene Deployment ε)
  waitTrace : List (Scene Deployment ε)
  endTrace : List (Scene Deployment ε)
  prelude_runs : Runs moves prelude s preludeTrace (.done (.ok found)) opening
  gather_runs : Runs moves (gather b opening.world.state.gateway.openPass) opening gatherTrace
    (.done inventories) gathered
  /-- Between the last inventory and the closing only the others move. -/
  wait_runs : Runs moves (.done () : Work Unit) gathered waitTrace (.done ()) closing
  end_runs : Runs moves
    (after found (takeOver b opening.world.state.gateway.openPass inventories closing.world).2)
    (closing.put (takeOver b opening.world.state.gateway.openPass inventories closing.world).1)
    endTrace (.done result) s'
  trace_eq : t = preludeTrace ++ opening :: gatherTrace ++ waitTrace ++
    closing.put (takeOver b opening.world.state.gateway.openPass inventories closing.world).1 ::
      endTrace

namespace PassParts

variable (parts : PassParts moves b prelude after s t result s')

/-- What was managed and owned at the opening. -/
def opened : OpenPass := parts.opening.world.state.gateway.openPass

/-- The scene right after the closing. -/
def closed : Scene Deployment ε :=
  parts.closing.put (takeOver b parts.opened parts.inventories parts.closing.world).1

/-- What the pass reports of the resources. -/
def report : ResourceSyncReport :=
  (takeOver b parts.opened parts.inventories parts.closing.world).2

/-- The resources that lose their owner in the closing. -/
def dropped : List String :=
  droppedIds parts.closing.world.state.gateway.resources parts.opened parts.inventories
    (parts.closing.world.isCancelled b.token) parts.closing.world.state.settings.preserve

/-- **The closing changes only the owners.** -/
theorem closed_eq : parts.closed.world = parts.closing.world.modify fun d =>
    { d with gateway := { d.gateway with
      resources := leftOwners d.gateway.resources parts.opened parts.inventories
        (parts.closing.world.isCancelled b.token) d.settings.preserve } } := by
  show (takeOver b parts.opened parts.inventories parts.closing.world).1 = _
  simp only [takeOver, closePass_fst]
  rfl

theorem closed_resources : parts.closed.world.state.gateway.resources =
    leftOwners parts.closing.world.state.gateway.resources parts.opened parts.inventories
      (parts.closing.world.isCancelled b.token) parts.closing.world.state.settings.preserve := by
  rw [closed_eq]
  rfl

theorem report_unmapped : parts.report.unmapped = .ofNat parts.dropped.length :=
  closePass_unmapped

theorem report_failures : parts.report.fetchFailures = failedClusters parts.inventories :=
  congrArg ResourceSyncReport.fetchFailures closePass_snd

/-- The scenes from the opening to the closing. -/
def openScenes : List (Scene Deployment ε) :=
  parts.opening :: parts.gatherTrace ++ parts.waitTrace

/-- The scenes from the opening to the end. -/
def scenes : List (Scene Deployment ε) := parts.openScenes ++ parts.closed :: parts.endTrace

theorem trace_scenes : t = parts.preludeTrace ++ parts.scenes := by
  refine parts.trace_eq.trans ?_
  simp [scenes, openScenes, closed, opened]

theorem mem_trace {x : Scene Deployment ε} (h : x ∈ parts.scenes) : x ∈ t := by
  have ht := parts.trace_scenes
  exact ht ▸ List.mem_append_right _ h

/-! ### What holds along the parts -/

variable {parts} {J K : Scene Deployment ε → Prop}

/-- **What quiet acts and the moves of the others preserve** holds from the opening to the closing.
-/
theorem until_closing (hown : ∀ x w, Quiet x.world w → K (x.put w) → J x → J (x.put w))
    (haside : ∀ x y, moves x y → K y → J x → J y) (hK : ∀ x ∈ parts.openScenes, K x)
    (hJ : J parts.opening) : (∀ x ∈ parts.openScenes, J x) ∧ J parts.closing := by
  obtain ⟨-, hgathered, hall⟩ := parts.gather_runs.keep (fun _ _ _ _ => trivial) hown haside
    (fun _ _ => trivial) (fun x hx => hK x (by simp [openScenes, hx]))
    (gather_safe quietly_call.dial _) hJ
  -- while the pass waits for its closing it makes no step, so any relation to rely on will do
  obtain ⟨-, hclosing, hwait⟩ := parts.wait_runs.keep (R := quietly) (Q := fun _ => True)
    (fun _ _ _ _ => trivial) hown haside (fun _ _ => trivial)
    (fun x hx => hK x (by simp [openScenes, hx])) trivial hgathered
  refine ⟨fun x hx => ?_, hclosing⟩
  rcases List.mem_append.mp hx with hx | hx
  · exact List.forall_mem_cons.mpr ⟨hJ, hall⟩ x hx
  · exact hwait x hx

/-- What quiet acts and the moves of the others preserve holds from the closing to the end. -/
theorem from_closing
    (hafter : ∀ found report w, Safe quietly (fun _ => True) (after found report) w)
    (hown : ∀ x w, Quiet x.world w → K (x.put w) → J x → J (x.put w))
    (haside : ∀ x y, moves x y → K y → J x → J y) (hK : ∀ x ∈ parts.endTrace, K x)
    (hJ : J parts.closed) : (∀ x ∈ parts.closed :: parts.endTrace, J x) ∧ J s' := by
  obtain ⟨-, hend, hall⟩ := parts.end_runs.keep (fun _ _ _ _ => trivial) hown haside
    (fun _ _ => trivial) hK (hafter _ _ _) hJ
  exact ⟨List.forall_mem_cons.mpr ⟨hJ, hall⟩, hend⟩

/-! ### Runs and their parts -/

/-- A run is put together from its parts. -/
theorem run (parts : PassParts moves b prelude after s t result s') (fail : α → Work α) :
    Runs moves (aroundSync b prelude fail after) s t (.done result) s' := by
  have hclose : Runs moves
      ((Activity.step (takeOver b parts.opened parts.inventories)).bind (after parts.found))
      parts.closing (parts.closed :: parts.endTrace) (.done result) s' := .act parts.end_runs
  have hgather : Runs moves ((gather b parts.opened).bind fun i =>
      (Activity.step (takeOver b parts.opened i)).bind (after parts.found)) parts.opening
      (parts.gatherTrace ++ (parts.waitTrace ++ parts.closed :: parts.endTrace))
      (.done result) s' :=
    parts.gather_runs.bind ((parts.wait_runs.of_done.2 _).trans hclose)
  rw [← Activity.bind_assoc] at hgather
  have hopen : Runs moves ((syncResources b).bind (after parts.found)) parts.opening
      (parts.opening :: (parts.gatherTrace ++ (parts.waitTrace ++ parts.closed :: parts.endTrace)))
      (.done result) s' := .act hgather
  have ht : t = parts.preludeTrace ++ parts.opening ::
      (parts.gatherTrace ++ (parts.waitTrace ++ parts.closed :: parts.endTrace)) := by
    refine parts.trace_scenes.trans ?_
    simp [scenes, openScenes]
  rw [ht]
  exact parts.prelude_runs.bind hopen

/-- **A run has these parts**, unless the prelude ends it. -/
theorem split {fail : α → Work α}
    (h : Runs moves (aroundSync b prelude fail after) s t (.done result) s') :
    (∃ r t0 s1 t1, t = t0 ++ t1 ∧ Runs moves prelude s t0 (.done (.error r)) s1 ∧
      Runs moves (fail r) s1 t1 (.done result) s') ∨
      Nonempty (PassParts moves b prelude after s t result s') := by
  obtain ⟨x, t0, s0, t', ht, hprelude, hrest⟩ := Runs.bind_done h
  cases x with
  | error r => exact Or.inl ⟨r, t0, s0, t', ht, hprelude, hrest⟩
  | ok found =>
    -- opening and closing are single acts: `act_done` finds the scenes in which they happen
    obtain ⟨t1, s1, t'', ht', hothers, hopened⟩ := Runs.act_done hrest
    let opened := s1.world.state.gateway.openPass
    have hgather : Runs moves ((gather b opened).bind fun i =>
        (Activity.step (takeOver b opened i)).bind (after found)) s1 t'' (.done result) s' := by
      have hassoc : ((gather b opened).bind fun i => .step (takeOver b opened i)).bind
          (after found) = _ := Activity.bind_assoc _ _ _
      rw [← hassoc]
      exact hopened
    obtain ⟨inventories, t2, s2, t3, ht'', hgathers, hclose⟩ := Runs.bind_done hgather
    obtain ⟨t4, s3, t5, ht3, hwaits, hend⟩ := Runs.act_done hclose
    refine Or.inr ⟨⟨found, s1, s2, s3, inventories, t0 ++ t1, t2, t4, t5,
      hprelude.trans (hothers _), hgathers, hwaits _, hend, ?_⟩⟩
    rw [ht, ht', ht'', ht3]
    simp only [List.append_assoc, List.cons_append]
    rfl

end PassParts

/-! ### Passes -/

namespace PassKind

/-- The parts of a run of a pass. -/
abbrev Parts (k : PassKind) (moves : Scene Deployment ε → Scene Deployment ε → Prop) (b : Bound)
    (s : Scene Deployment ε) (t : List (Scene Deployment ε)) (result : k.Result)
    (s' : Scene Deployment ε) :=
  PassParts moves b k.prelude k.after s t result s'

variable {k : PassKind} {result : k.Result}

theorem leave_result {α : Type} {a r : α} (h : Runs moves (leave a) s t (.done r) s') : r = a := by
  obtain ⟨t1, s1, t2, -, -, hrest⟩ := Runs.act_done h
  exact Activity.done.inj hrest.of_done.1

/-- A pass reports what its closing act found. -/
theorem report?_eq (parts : k.Parts moves b s t result s') :
    k.report? result = some parts.report := by
  cases k with
  | whole =>
    obtain ⟨r, t1, s1, t2, -, hfinish, hleave⟩ := Runs.bind_done parts.end_runs
    obtain ⟨t3, s3, t4, -, -, hrest⟩ := Runs.act_done hfinish
    exact congrArg (report? .whole)
      ((leave_result hleave).trans (Activity.done.inj hrest.of_done.1))
  | resources => exact congrArg some (leave_result parts.end_runs)

/-- **A run of a pass that reports on the resources has these parts.** -/
theorem exists_parts {report : ResourceSyncReport}
    (h : Runs moves (k.work b) s t (.done result) s') (hreport : k.report? result = some report) :
    ∃ parts : k.Parts moves b s t result s', parts.report = report := by
  rw [work_eq] at h
  rcases PassParts.split h with ⟨r, t0, s1, t1, -, hprelude, hleave⟩ | ⟨⟨parts⟩⟩
  · -- a prelude that ends the pass has nothing to report
    have hnone : k.report? r = none :=
      hprelude.result (fun _ _ _ _ => trivial) (fun _ _ => trivial) (prelude_safe k) r rfl
    rw [leave_result hleave, hnone] at hreport
    cases hreport
  · refine ⟨parts, Option.some.inj ?_⟩
    rw [← report?_eq parts, hreport]

end PassKind

end Deployment

end FederatedStorage
