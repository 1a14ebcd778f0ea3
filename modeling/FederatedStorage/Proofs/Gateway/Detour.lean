import FederatedStorage.Proofs.Gateway.Callers
import FederatedStorage.Proofs.Gateway.Parts

/-!
# A pass that waits while a caller is served

The simplest interleaving in which a caller matters to a pass: the pass runs until it has to wait
for inventories, then one caller is served as far as it goes, then some time passes and the pass
runs to its end. `Detour` computes its scenes.

## Main statement

* `Detour.parts`, `Detour.runs`: such an interleaving is a run of a pass with its parts.
-/

namespace FederatedStorage.Deployment

open Schedule Gateway

/-- **A pass and a caller beside it**, and how long the pass waits after the caller is served. -/
structure Detour where
  start : Deployment
  bound : Bound
  request : Request
  pauseMs : Nat

namespace Detour

variable (d : Detour)

/-- The caller at the beginning. -/
def caller : Caller := .new d.request d.bound

/-- A world with the caller at the beginning. -/
def before (w : World Deployment) : Scene Deployment (List Caller) := ⟨w, [d.caller]⟩

/-- The pass opens. -/
def opened : World Deployment × Work (Except ResourceSyncReport Unit) × Bool :=
  PassKind.resources.prelude.advance (.start d.start) false

/-- The pass asks the clusters. -/
def asked : World Deployment × Work (List Inventory) × Bool :=
  (gather d.bound d.opened.1.state.gateway.openPass).advance d.opened.1 false

/-- The caller is served. -/
def served : World Deployment × Work d.request.Answer × Bool :=
  d.caller.rest.advance d.asked.1 false

/-- A world with the caller as it is then. -/
def afterwards (w : World Deployment) : Scene Deployment (List Caller) :=
  ⟨w, [d.caller.goOn d.served.2.1]⟩

/-- Time has passed. -/
def paused : World Deployment := { d.served.1 with clock := d.served.1.clock + d.pauseMs }

/-- The clusters answer. -/
def gathered : World Deployment × Work (List Inventory) × Bool := d.asked.2.1.advance d.paused false

def inventories : List Inventory := d.gathered.2.1.result?.getD []

/-- The pass closes. -/
def closed : World Deployment × ResourceSyncReport :=
  takeOver d.bound d.opened.1.state.gateway.openPass d.inventories d.gathered.1

/-- The pass ends. -/
def ended : World Deployment × Work ResourceSyncReport × Bool :=
  (PassKind.leave d.closed.2).advance d.closed.1 false

/-- What the caller has been told it created. -/
def made : Option Resource := (d.caller.goOn d.served.2.1).made

/-- What the caller has been told it deleted. -/
def deleted : Option String := (d.caller.goOn d.served.2.1).dropped

def preludeTrace : List (Scene Deployment (List Caller)) :=
  (PassKind.resources.prelude.trail (.start d.start)).map fun y => d.before y.1

/-- The scenes until the caller has been served. -/
def servingTrace : List (Scene Deployment (List Caller)) :=
  ((gather d.bound d.opened.1.state.gateway.openPass).trail d.opened.1).map
      (fun y => d.before y.1) ++
    (d.caller.rest.trail d.asked.1).map fun y => ⟨y.1, [d.caller.goOn y.2]⟩

def gatherTrace : List (Scene Deployment (List Caller)) :=
  d.servingTrace ++
    d.afterwards d.paused :: (d.asked.2.1.trail d.paused).map fun y => d.afterwards y.1

def endTrace : List (Scene Deployment (List Caller)) :=
  ((PassKind.leave d.closed.2).trail d.closed.1).map fun y => d.afterwards y.1

def trace : List (Scene Deployment (List Caller)) :=
  d.preludeTrace ++ d.before d.opened.1 :: d.gatherTrace ++ [] ++
    d.afterwards d.closed.1 :: d.endTrace

/-- Giving one's turn away takes no time. -/
theorem leave_ends {α : Type} (a : α) (w : World Deployment) :
    ((PassKind.leave a).advance w false).2.1.result? = some a := rfl

theorem paused_quiet : Quiet d.served.1 d.paused := by
  unfold paused
  exact ⟨rfl, rfl, rfl⟩

/-- The pass opens if it gets its turn. -/
theorem opens (hturn : d.opened.2.1.result? = some (.ok ())) :
    Runs Moves PassKind.resources.prelude (d.before (.start d.start)) d.preludeTrace
      (.done (.ok ())) (d.before d.opened.1) := runs_of_result Moves _ hturn

/-- The pass waits while the caller is served. -/
theorem serves : Runs Moves (gather d.bound d.opened.1.state.gateway.openPass)
    (d.before d.opened.1) d.servingTrace d.asked.2.1 (d.afterwards d.served.1) := by
  have hask := runs_advance Moves (gather d.bound d.opened.1.state.gateway.openPass) d.opened.1
    false [d.caller]
  -- the pass makes no step here: all the moves are the caller's
  have hserve := runs_caller d.asked.2.1 0 d.caller d.asked.1 [d.caller] false (by simp)
  exact hask.trans hserve

/-- **Such an interleaving is a run of a pass**, if the pass gets its turn and all its answers. -/
def parts (hturn : d.opened.2.1.result? = some (.ok ()))
    (hanswers : d.gathered.2.1.result?.isSome) :
    PassKind.resources.Parts Moves d.bound (d.before (.start d.start)) d.trace d.closed.2
      (d.afterwards d.ended.1) where
  found := ()
  opening := d.before d.opened.1
  gathered := d.afterwards d.gathered.1
  closing := d.afterwards d.gathered.1
  inventories := d.inventories
  preludeTrace := d.preludeTrace
  gatherTrace := d.gatherTrace
  waitTrace := []
  endTrace := d.endTrace
  prelude_runs := d.opens hturn
  gather_runs := by
    have hpause : Moves (d.afterwards d.served.1) (d.afterwards d.paused) :=
      Moves.aside (x := d.afterwards d.served.1) d.paused_quiet
    have hend : d.gathered.2.1.result? = some d.inventories := by
      obtain ⟨i, hi⟩ := Option.isSome_iff_exists.mp hanswers
      rw [inventories, hi]
      rfl
    have hanswer := runs_of_result Moves [d.caller.goOn d.served.2.1] hend
    exact d.serves.trans (.aside hpause hanswer)
  wait_runs := .here _ _
  end_runs := runs_of_result Moves [d.caller.goOn d.served.2.1] (leave_ends d.closed.2 d.closed.1)
  trace_eq := rfl

/-- The run of the pass, beside which the caller is served. -/
theorem runs (hturn : d.opened.2.1.result? = some (.ok ()))
    (hanswers : d.gathered.2.1.result?.isSome) :
    Runs Moves (PassKind.resources.work d.bound) (d.before (.start d.start)) d.trace
      (.done d.closed.2) (d.afterwards d.ended.1) := by
  rw [PassKind.work_eq]
  exact (d.parts hturn hanswers).run PassKind.leave

/-! ### What the caller is told -/

theorem allNew (w : World Deployment) : AllNew (d.before w) := by
  intro c hc
  rw [List.mem_singleton.mp hc]
  exact ⟨d.request, d.bound, rfl⟩

theorem madeAt_afterwards (w : World Deployment) {j : Nat} {r : Resource} :
    madeAt (d.afterwards w) j = some r ↔ j = 0 ∧ d.made = some r := by
  cases j with
  | zero => exact ⟨fun h => ⟨rfl, h⟩, fun h => h.2⟩
  | succ j => exact ⟨fun h => absurd h (by simp [madeAt, afterwards]),
      fun h => absurd h.1 (by simp)⟩

theorem droppedAt_afterwards (w : World Deployment) {j : Nat} {id : String} :
    droppedAt (d.afterwards w) j = some id ↔ j = 0 ∧ d.deleted = some id := by
  cases j with
  | zero => exact ⟨fun h => ⟨rfl, h⟩, fun h => h.2⟩
  | succ j => exact ⟨fun h => absurd h (by simp [droppedAt, afterwards]),
      fun h => absurd h.1 (by simp)⟩

end Detour

/-! ## A slow array -/

/-- A gateway with a single array that takes its time to list its one volume. -/
def slowArray : Deployment :=
  let now := Time.Timestamp.yearStart 2000
  let volume : Volume := ⟨"a-old", "v", 1, none, [], .empty, now, none⟩
  let array := (Loopback.new "a" ⟨none, none, some 10⟩).putVolume volume
  let d := new 0 .empty ⟨[.loopback array], .empty⟩ (.list []) ⟨false, none⟩ now
  { d with
    gateway :=
      { d.gateway with
        clusters := d.gateway.clusters.set "a" ⟨"a", loopbackVendor, .empty, .null, now, some ⟨0⟩⟩
        resources := d.gateway.resources.map ⟨"a-old", "a", .volume⟩ } }

/-- A request beside a pass over the slow array. -/
def besideSlow (r : Request) : Detour := ⟨slowArray, ⟨.root, none⟩, r, 10⟩

end FederatedStorage.Deployment
