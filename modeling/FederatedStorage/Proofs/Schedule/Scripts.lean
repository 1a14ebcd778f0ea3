import FederatedStorage.Proofs.Schedule.Runs

/-!
# Scripts

Who works with others does so by demands: he makes one, waits until it is met, and goes on as its
answer says. A script is an activity in which the demands are still to be seen, so that one can tell
which were made and what was answered. What meets a demand is an activity, and with these in the
places of the demands the script is an activity itself.

On his way through a script one is between two demands, or a demand is under way. The steps from one
such stage to the next are those of the activity; that a demand begins or has been met is noted in
between, and takes no step.

## Main statements

* `Script.activity_bind`: one script after another.
* `Stage.Step.activity`, `Stage.exists_step`: the stages make the steps of the activity and no others.
-/

namespace FederatedStorage.Schedule

variable {σ κ α β : Type} {Answer : κ → Type}

/-- **A script**: an activity with demands `κ`. -/
inductive Script (σ : Type) {κ : Type} (Answer : κ → Type) (α : Type) where
  | done (a : α)
  | act (update : World σ → World σ) (next : World σ → Script σ Answer α)
  | wait (ready : World σ → Bool) (due : Option Nat) (next : Script σ Answer α)
  | demand (k : κ) (next : Answer k → Script σ Answer α)

namespace Script

/-- Goes on with another script. -/
def bind : Script σ Answer α → (α → Script σ Answer β) → Script σ Answer β
  | done a, f => f a
  | act update next, f => act update fun w => (next w).bind f
  | wait ready due next, f => wait ready due (next.bind f)
  | demand k next, f => demand k fun a => (next a).bind f

/-- Changes the result. -/
def map (f : α → β) (s : Script σ Answer α) : Script σ Answer β := s.bind fun a => done (f a)

/-- Looks at the world. -/
def look (f : World σ → α) : Script σ Answer α := act id fun w => done (f w)

/-- Goes on as the world says. -/
def follow (f : World σ → Script σ Answer α) : Script σ Answer α := act id f

/-- A single demand. -/
def ask (k : κ) (f : Answer k → α) : Script σ Answer α := demand k fun a => done (f a)

/-- **The activity of a script**, by what meets its demands. -/
def activity (work : (k : κ) → Activity σ (Answer k)) : Script σ Answer α → Activity σ α
  | done a => .done a
  | act update next => .act update fun w => (next w).activity work
  | wait ready due next => .wait ready due (next.activity work)
  | demand k next => (work k).bind fun a => (next a).activity work

/-- **The acts of a script itself**, between its demands, are of a given kind. -/
def Does (own : World σ → World σ → Prop) : Script σ Answer α → Prop
  | done _ => True
  | act update next => ∀ w, own w (update w) ∧ (next w).Does own
  | wait _ _ next => next.Does own
  | demand _ next => ∀ a, (next a).Does own

variable {work : (k : κ) → Activity σ (Answer k)} {own : World σ → World σ → Prop}

/-- **One script after another** is one activity after another. -/
theorem activity_bind (s : Script σ Answer α) (f : α → Script σ Answer β) :
    (s.bind f).activity work = (s.activity work).bind fun a => (f a).activity work := by
  induction s with
  | done a => rfl
  | act update next ih => exact congrArg (Activity.act update) (funext ih)
  | wait ready due next ih => exact congrArg (Activity.wait ready due) ih
  | demand k next ih =>
    show (work k).bind _ = ((work k).bind _).bind _
    rw [Activity.bind_assoc]
    exact congrArg (work k).bind (funext ih)

theorem activity_map (s : Script σ Answer α) (f : α → β) :
    (s.map f).activity work = (s.activity work).map f := activity_bind s fun a => done (f a)

theorem Does.bind {f : α → Script σ Answer β} (hf : ∀ a, (f a).Does own) :
    ∀ {s : Script σ Answer α}, s.Does own → (s.bind f).Does own
  | .done a, _ => hf a
  | .act _ _, h => fun w => ⟨(h w).1, bind hf (h w).2⟩
  | .wait _ _ next, h => bind (s := next) hf h
  | .demand _ _, h => fun a => bind hf (h a)

end Script

/-! ## Stages -/

/-- **Where one stands in a script**: between two demands, or with one under way. -/
inductive Stage (σ : Type) {κ : Type} (Answer : κ → Type) (α : Type) where
  | idle (s : Script σ Answer α)
  | busy (k : κ) (rest : Activity σ (Answer k)) (next : Answer k → Script σ Answer α)

/-- A demand that was met, and how. -/
abbrev Met {κ : Type} (Answer : κ → Type) := (k : κ) × Answer k

namespace Stage

/-- What is left to do. -/
def activity (work : (k : κ) → Activity σ (Answer k)) : Stage σ Answer α → Activity σ α
  | idle s => s.activity work
  | busy _ rest next => rest.bind fun a => (next a).activity work

/-- Whether no demand is under way. -/
def isIdle : Stage σ Answer α → Bool
  | idle _ => true
  | busy _ _ _ => false

/-- What is known of the demand that is under way, if there is one. -/
def Holds (P : (k : κ) → Activity σ (Answer k) → Prop) : Stage σ Answer α → Prop
  | idle _ => True
  | busy k rest _ => P k rest

/-- The acts of the script itself that are still to come are of a given kind. -/
def Does (own : World σ → World σ → Prop) : Stage σ Answer α → Prop
  | idle s => s.Does own
  | busy _ _ next => ∀ a, (next a).Does own

/-- **A step of a stage.** -/
inductive Step : Stage σ Answer α → World σ → Stage σ Answer α → World σ → Prop
  | act (update : World σ → World σ) (next : World σ → Script σ Answer α) (w : World σ) :
      Step (idle (.act update next)) w (idle (next w)) (update w)
  | wake {ready : World σ → Bool} {due : Option Nat} {next : Script σ Answer α} {w : World σ}
      (h : ready w = true) : Step (idle (.wait ready due next)) w (idle next) w
  | work {k : κ} {rest rest' : Activity σ (Answer k)} {next : Answer k → Script σ Answer α}
      {v w : World σ} (h : rest.Step v rest' w) : Step (busy k rest next) v (busy k rest' next) w

/-- **A demand begins**, or it has been met. -/
inductive Turns (work : (k : κ) → Activity σ (Answer k)) :
    Stage σ Answer α → List (Met Answer) → Stage σ Answer α → Prop
  | begins (k : κ) (next : Answer k → Script σ Answer α) :
      Turns work (idle (.demand k next)) [] (busy k (work k) next)
  | ends (k : κ) (a : Answer k) (next : Answer k → Script σ Answer α) :
      Turns work (busy k (.done a) next) [⟨k, a⟩] (idle (next a))

/-- Demands begin and are met, one after the other. -/
inductive TurnsOn (work : (k : κ) → Activity σ (Answer k)) :
    Stage σ Answer α → List (Met Answer) → Stage σ Answer α → Prop
  | refl (st : Stage σ Answer α) : TurnsOn work st [] st
  | head {st st1 st2 : Stage σ Answer α} {met met' : List (Met Answer)}
      (h : Turns work st met st1) (hrest : TurnsOn work st1 met' st2) :
      TurnsOn work st (met ++ met') st2

variable {work : (k : κ) → Activity σ (Answer k)} {st st' : Stage σ Answer α}
  {q : Activity σ α} {v w : World σ}

/-- That a demand begins or has been met changes nothing of what is left to do. -/
theorem Turns.activity {met : List (Met Answer)} (h : Turns work st met st') :
    st'.activity work = st.activity work := by
  cases h <;> rfl

/-- **A step of a stage is a step of the activity.** -/
theorem Step.activity (h : Step st v st' w) :
    (st.activity work).Step v (st'.activity work) w := by
  cases h with
  | act update next => exact .act update (fun w => (next w).activity work) v
  | wake hready => exact .wake hready
  | work hstep => exact hstep.bind _

/-- A step of a script is one of a stage that it turns into. -/
theorem exists_step_of_script (s : Script σ Answer α) (h : (s.activity work).Step v q w) :
    ∃ met st1 st2, TurnsOn work (idle s) met st1 ∧ Step st1 v st2 w ∧ st2.activity work = q := by
  induction s with
  | done a => cases h
  | act update next ih =>
    cases h
    exact ⟨[], _, _, .refl _, .act update next v, rfl⟩
  | wait ready due next ih =>
    cases h with
    | wake hready => exact ⟨[], _, _, .refl _, .wake hready, rfl⟩
  | demand k next ih =>
    have hbegins : Turns work (idle (.demand k next)) [] (busy k (work k) next) := .begins k next
    rcases h.bind_inv with ⟨a, ha, hnext⟩ | ⟨rest, rfl, hstep⟩
    · -- what meets the demand has nothing to do, so the step is one of what follows
      obtain ⟨met, st1, st2, hturns, hstep, hq⟩ := ih a hnext
      rw [ha] at hbegins
      exact ⟨_, st1, st2, .head hbegins (.head (.ends k a next) hturns), hstep, hq⟩
    · exact ⟨_, _, _, .head hbegins (.refl _), .work hstep, rfl⟩

/-- **Every step of the activity is one of a stage**, once demands have begun and been met as far as
they can without one. -/
theorem exists_step (st : Stage σ Answer α) (h : (st.activity work).Step v q w) :
    ∃ met st1 st2, TurnsOn work st met st1 ∧ Step st1 v st2 w ∧ st2.activity work = q := by
  cases st with
  | idle s => exact exists_step_of_script s h
  | busy k rest next =>
    rcases h.bind_inv with ⟨a, rfl, hnext⟩ | ⟨rest', rfl, hstep⟩
    · obtain ⟨met, st1, st2, hturns, hstep, hq⟩ := exists_step_of_script (next a) hnext
      exact ⟨_, st1, st2, .head (.ends k a next) hturns, hstep, hq⟩
    · exact ⟨[], _, _, .refl _, .work hstep, rfl⟩

end Stage

end FederatedStorage.Schedule
