import FederatedStorage.Failure
import FederatedStorage.Schedule.Activity

/-!
# Bounded calls

A caller bounds a call by a deadline and a token. A call whose token is cancelled already does not
begin. Otherwise the call runs until it ends, its token is cancelled or its deadline passes; a call
that could go on at that instant does go on.

## Main definitions

* `Bound.run`: a call within its bound.
* `withAlarm`: an activity during which a token is cancelled.
-/

namespace FederatedStorage.Schedule

variable {σ α : Type}

/-- **What bounds a call.** -/
structure Bound where
  token : Token
  /-- The instant at which the call is given up. -/
  deadline : Option Nat
deriving DecidableEq, Repr

namespace Bound

/-- Whether the deadline has passed. -/
def hasPassed (b : Bound) (w : World σ) : Bool :=
  match b.deadline with
  | some d => d ≤ w.clock
  | none => false

/-- Whether a waiting call is given up. -/
def interrupts (b : Bound) (w : World σ) : Bool := w.isCancelled b.token || b.hasPassed w

/-- The failure of a call that is given up. -/
def interruption (b : Bound) (w : World σ) (operation : String) : Failure :=
  if w.isCancelled b.token then .cancelled operation else .timeout operation

/-- A call that has begun. -/
def race (b : Bound) (operation : String) :
    Activity σ (Except Failure α) → Activity σ (Except Failure α)
  | .done r => .done r
  | .act update next => .act update fun w => race b operation (next w)
  | .wait ready due next =>
    .wait (fun w => ready w || b.interrupts w) (earlier due b.deadline)
      (.act id fun w =>
        if ready w then race b operation next
        else .done (.error (b.interruption w operation)))

/-- **A call within its bound.** -/
def run (b : Bound) (operation : String) (p : Activity σ (Except Failure α)) :
    Activity σ (Except Failure α) :=
  .follow fun w =>
    if w.isCancelled b.token then .done (.error (.cancelled operation)) else b.race operation p

/-- Whether time is left before the deadline, if there is one. -/
def timeLeft? (b : Bound) (w : World σ) : Option Bool := b.deadline.map fun d => w.clock < d

end Bound

/-- Cancels a token at an instant, if the activity still runs then. -/
def withAlarm (instant : Nat) (t : Token) : Activity σ α → Activity σ α
  | .done a => .done a
  | .act update next => .act update fun w => withAlarm instant t (next w)
  | .wait ready due next =>
    .wait (fun w => ready w || instant ≤ w.clock) (earlier due (some instant))
      (.follow fun w =>
        if ready w then withAlarm instant t next
        else .act (·.cancel t) fun _ => .wait ready due next)

end FederatedStorage.Schedule
