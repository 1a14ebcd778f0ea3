import FederatedStorage.Schedule.Activity

/-!
# A pool of activities

Activities in the background, and one in the foreground. The foreground runs until it has to wait;
then the background runs, each activity in the order in which it was begun, round after round until
none can go on; then the foreground again. When nothing can go on, the clock jumps to the earliest
instant that anything waits for.

## Main definitions

* `Pool.spawn`: begins an activity in the background.
* `Pool.run`: runs an activity in the foreground.
-/

namespace FederatedStorage.Schedule

/-- **A pool** over worlds of states `σ`. -/
structure Pool (σ : Type) where
  world : World σ
  background : List (Activity σ Unit)

namespace Pool

variable {σ α : Type}

/-- A pool without activities. -/
def start (s : σ) : Pool σ := ⟨.start s, []⟩

/-- Begins an activity in the background. -/
def spawn (p : Pool σ) (activity : Activity σ Unit) : Pool σ :=
  { p with background := p.background ++ [activity] }

/-- Lets every activity run once, in order: those that have not ended, and whether anything
happened. -/
def round (w : World σ) : List (Activity σ Unit) → World σ × List (Activity σ Unit) × Bool
  | [] => (w, [], false)
  | a :: as =>
    let (w, a, moved) := a.advance w false
    let (w, rest, others) := round w as
    (w, if a.result?.isSome then rest else a :: rest, moved || others)

/-- Lets the background run until none of it can go on, in at most `fuel` rounds, and says whether
anything happened. -/
def settle (p : Pool σ) (moved : Bool) : Nat → Pool σ × Bool
  | 0 => (p, moved)
  | fuel + 1 =>
    let (w, background, more) := round p.world p.background
    if more then settle ⟨w, background⟩ true fuel else (⟨w, background⟩, moved)

/-- The earliest instant that the background waits for. -/
def due? (p : Pool σ) : Option Nat := p.background.foldl (fun d a => earlier d a.due?) none

/-- Moves the clock on to an instant. -/
def jump (p : Pool σ) (instant : Nat) : Pool σ :=
  { p with world := { p.world with clock := max p.world.clock instant } }

/-- **Runs an activity in the foreground** to its end. None if it waits for nothing that can come,
or more than `fuel` times. -/
def run (p : Pool σ) (activity : Activity σ α) : Nat → Pool σ × Option α
  | 0 => (p, none)
  | fuel + 1 =>
    let (w, activity, _) := activity.advance p.world false
    let p := { p with world := w }
    match activity.result? with
    | some a => (p, some a)
    | none =>
      let (p, moved) := p.settle false fuel
      if moved then p.run activity fuel
      else
        match earlier activity.due? p.due? with
        | some instant => (p.jump instant).run activity fuel
        | none => (p, none)

end Pool

end FederatedStorage.Schedule
