import FederatedStorage.Schedule.World

/-!
# Activities

An activity is a tree of steps. A step acts on the world at once, or waits until the world lets it
go on. Nothing else can happen within an act, and everything else can happen during a wait; so what
is atomic is written in one act. Every activity ends, because its tree has no infinite branch.

## Main definitions

* `Activity.bind`, `Activity.step`: composition.
* `Activity.both`, `Activity.all`: activities side by side.
* `Activity.within`: an activity on a part of a larger state.
* `Activity.advance`: lets an activity run as far as it can at the present instant.

## Main statement

* `Activity.advance_within`: on a part, an activity runs as it does alone.
-/

namespace FederatedStorage.Schedule

/-- **An activity** over worlds of states `σ` that ends with an `α`. -/
inductive Activity (σ α : Type) where
  | done (a : α)
  /-- Changes the world, and goes on as the world before the change says. -/
  | act (update : World σ → World σ) (next : World σ → Activity σ α)
  /-- Waits until the world is ready. If nothing else happens, it is at the instant `due`. -/
  | wait (ready : World σ → Bool) (due : Option Nat) (next : Activity σ α)

/-- The earlier of two instants, where there are any. -/
def earlier : Option Nat → Option Nat → Option Nat
  | some a, some b => some (min a b)
  | some a, none => some a
  | none, b => b

namespace Activity

variable {σ α β ε : Type}

/-! ## One after the other -/

/-- Goes on with another activity. -/
def bind : Activity σ α → (α → Activity σ β) → Activity σ β
  | done a, f => f a
  | act update next, f => act update fun w => (next w).bind f
  | wait ready due next, f => wait ready due (next.bind f)

/-- Changes the result. -/
def map (f : α → β) (p : Activity σ α) : Activity σ β := p.bind fun a => done (f a)

instance : Monad (Activity σ) where
  pure := done
  bind := bind

/-- **An atomic step** that changes the world and says what it found. -/
def step (f : World σ → World σ × α) : Activity σ α :=
  act (fun w => (f w).1) fun w => done (f w).2

/-- Looks at the world. -/
def look (f : World σ → α) : Activity σ α := act id fun w => done (f w)

/-- An atomic step on the state. -/
def onState (f : σ → σ × α) : Activity σ α :=
  step fun w => ({ w with state := (f w.state).1 }, (f w.state).2)

/-- Goes on as the world says. -/
def follow (f : World σ → Activity σ α) : Activity σ α := act id f

/-- Waits for an instant. -/
def waitUntil (instant : Nat) : Activity σ Unit :=
  wait (fun w => instant ≤ w.clock) (some instant) (done ())

/-- Waits for some milliseconds. -/
def sleep (ms : Nat) : Activity σ Unit := follow fun w => waitUntil (w.clock + ms)

/-- Waits until the world is ready. -/
def await (ready : World σ → Bool) : Activity σ Unit := wait ready none (done ())

/-! ## Side by side -/

/-- The second activity beside a first one that waits; `resume` is both once the first goes on. -/
def besideWaiting (ready : World σ → Bool) (due : Option Nat)
    (resume : Activity σ (Except ε β) → Activity σ (Except ε (α × β))) :
    Activity σ (Except ε β) → Activity σ (Except ε (α × β))
  | done (.error e) => done (.error e)
  | done (.ok b) => wait ready due (resume (done (.ok b)))
  | act update next => act update fun w => besideWaiting ready due resume (next w)
  | wait ready2 due2 next =>
    wait (fun w => ready w || ready2 w) (earlier due due2)
      (act id fun w =>
        if ready w then resume (wait ready2 due2 next)
        else besideWaiting ready due resume next)

/-- **Two activities side by side**, until both have succeeded or one has failed. -/
def both : Activity σ (Except ε α) → Activity σ (Except ε β) → Activity σ (Except ε (α × β))
  | done (.error e), _ => done (.error e)
  | done (.ok a), q => q.map fun r => r.map fun b => (a, b)
  | act update next, q => act update fun w => (next w).both q
  | wait ready due next, q => besideWaiting ready due next.both q

/-- Two activities side by side that cannot fail. -/
def pair (p : Activity σ α) (q : Activity σ β) : Activity σ (α × β) :=
  (both (ε := Empty) (p.map .ok) (q.map .ok)).map fun
    | .ok r => r

/-- **Activities side by side**, with the results in their order. -/
def all : List (Activity σ α) → Activity σ (List α)
  | [] => done []
  | p :: ps => (pair p (all ps)).map fun r => r.1 :: r.2

/-! ## On a part -/

/-- **The same activity on a part** of a larger state. -/
def within {τ : Type} (part : Part τ σ) : Activity σ α → Activity τ α
  | done a => done a
  | act update next =>
    act (fun w => part.put w (update (part.view w))) fun w => (next (part.view w)).within part
  | wait ready due next => wait (fun w => ready (part.view w)) due (next.within part)

/-! ## Running -/

/-- **Lets an activity run** until it ends or has to wait, and says whether it did anything. -/
def advance : Activity σ α → World σ → Bool → World σ × Activity σ α × Bool
  | done a, w, moved => (w, done a, moved)
  | act update next, w, _ => (next w).advance (update w) true
  | wait ready due next, w, moved =>
    if ready w then next.advance w true else (w, wait ready due next, moved)

/-- The result of an activity that has ended. -/
def result? : Activity σ α → Option α
  | done a => some a
  | _ => none

/-- The instant a waiting activity waits for. -/
def due? : Activity σ α → Option Nat
  | wait _ due _ => due
  | _ => none

/-- **On a part, an activity runs as it does alone.** -/
theorem advance_within {τ : Type} (part : Part τ σ) (p : Activity σ α) (w : World τ)
    (moved : Bool) :
    let alone := p.advance (part.view w) moved
    let inside := (p.within part).advance w moved
    part.view inside.1 = alone.1 ∧ inside.2 = (alone.2.1.within part, alone.2.2) := by
  induction p generalizing w moved with
  | done a => simp [advance, within]
  | act update next ih =>
    have h := ih (part.view w) (part.put w (update (part.view w))) true
    simpa [advance, within] using h
  | wait ready due next ih =>
    by_cases h : ready (part.view w) = true
    · simpa [advance, within, h] using ih w true
    · simp [advance, within, h]

end Activity

end FederatedStorage.Schedule
