import FederatedStorage.Schedule.Activity

/-!
# A board of jobs

Activities that post jobs for others, and wait for them if they like. Who posts a job goes on at
once. A crew takes the jobs in the order in which they were posted and does them side by side, and a
job may post further ones.

A job is held under a name until somebody asks for it, and only one may ask. A later job of the same
name takes the place of the earlier one, which is done all the same.

## Main definitions

* `Board.post`: posts a job.
* `Board.collect`, `Board.callOff`: wait for a job.
* `Board.crew`: does all jobs.
-/

namespace FederatedStorage.Schedule

/-- A job that was posted: its number, and the token that calls it off. -/
structure Job where
  number : Nat
  token : Token

/-- **A state with a board** of jobs: tasks `κ` under names `ν`, with results `ρ`. -/
structure Board (σ ν κ ρ : Type) where
  state : σ
  /-- The jobs that nobody has begun, in order. -/
  posted : List (Job × κ)
  /-- The jobs that nobody has asked for. -/
  held : List (ν × Job)
  /-- What came of the jobs that are done, by number. -/
  results : List (Nat × ρ)
  nextNumber : Nat

namespace Board

variable {σ ν κ ρ : Type}

/-- A board without jobs. -/
def start (s : σ) : Board σ ν κ ρ := ⟨s, [], [], [], 0⟩

/-- The state beside the board. -/
def beside : Part (Board σ ν κ ρ) σ where
  get := state
  set s b := { b with state := s }

/-- What came of a job. -/
def result? (b : Board σ ν κ ρ) (job : Job) : Option ρ := b.results.lookup job.number

/-- Keeps what came of a job. -/
def keep (b : Board σ ν κ ρ) (job : Job) (r : ρ) : Board σ ν κ ρ :=
  { b with results := (job.number, r) :: b.results }

/-- What is kept is found. -/
theorem result?_keep (b : Board σ ν κ ρ) (job : Job) (r : ρ) :
    (b.keep job r).result? job = some r := by
  simp [keep, result?]

/-- Waits until a job is done. -/
def outcome (job : Job) : Activity (Board σ ν κ ρ) (Option ρ) := do
  Activity.await fun w => (w.state.result? job).isSome
  Activity.look fun w => w.state.result? job

section Names

variable [BEq ν]

/-- No longer holds a job under a name. -/
def release (b : Board σ ν κ ρ) (name : ν) : Board σ ν κ ρ :=
  { b with held := b.held.filter fun h => h.1 != name }

/-- **Posts a job** under a name. -/
def post (name : ν) (task : κ) : Activity (Board σ ν κ ρ) Unit :=
  .step fun w =>
    let (token, w) := w.newToken .root
    let job : Job := ⟨w.state.nextNumber, token⟩
    (w.modify fun b =>
      { b.release name with
        posted := b.posted ++ [(job, task)]
        held := (name, job) :: (b.release name).held
        nextNumber := b.nextNumber + 1 }, ())

/-- Takes the job of a name, for nobody else to ask for. -/
def claim (name : ν) : Activity (Board σ ν κ ρ) (Option Job) :=
  .onState fun b => (b.release name, b.held.lookup name)

/-- **Waits for the job of a name.** None if none is held. -/
def collect (name : ν) : Activity (Board σ ν κ ρ) (Option ρ) := do
  match ← claim name with
  | some job => outcome job
  | none => return none

/-- **Calls the job of a name off**, and waits for its end. None if none is held. -/
def callOff (name : ν) : Activity (Board σ ν κ ρ) (Option ρ) := do
  match ← claim name with
  | some job =>
    Activity.step fun w => (w.cancel job.token, ())
    outcome job
  | none => return none

end Names

/-! ## Doing the jobs -/

/-- Takes the job that was posted first. -/
def take : Activity (Board σ ν κ ρ) (Option (Job × κ)) :=
  .onState fun b => ({ b with posted := b.posted.drop 1 }, b.posted.head?)

/-- Does a job. -/
def finish (job : Job) (work : Activity (Board σ ν κ ρ) ρ) : Activity (Board σ ν κ ρ) Unit := do
  let r ← work
  Activity.onState fun b => (b.keep job r, ())

/-- **Does the jobs as they come**, side by side, at most so many. -/
def crew (work : κ → Token → Activity (Board σ ν κ ρ) ρ) : Nat → Activity (Board σ ν κ ρ) Unit
  | 0 => .done ()
  | n + 1 => do
    Activity.await fun w => !w.state.posted.isEmpty
    match ← take with
    | some (job, task) =>
      let _ ← Activity.pair (finish job (work task job.token)) (crew work n)
      return ()
    | none => return ()

end Board

end FederatedStorage.Schedule
