import FederatedStorage.Proofs.Schedule.Runs
import FederatedStorage.Schedule.Bound

/-!
# Activities that act alike

Two activities may differ in what they do in worlds that never come about. `AlikeWhile` says that they
make the same acts and the same waits as long as the world meets a condition, and that none of these
acts ends that condition. So a run of the one among others who do not end it either is a run of the
other, through the same scenes and with the same result.

Bounded calls are the case in point: under a token that is cancelled already they do not begin, so all
of them act alike, whatever they would have done.

## Main statements

* `AlikeWhile.bind`, `AlikeWhile.both`, `AlikeWhile.all`, `AlikeWhile.cancelled`: the rules.
* `AlikeWhile.runs`: a run of the one is a run of the other.
-/

namespace FederatedStorage.Schedule

variable {σ α β γ ε : Type}

/-- **Activities that act alike while a condition holds**, and keep it. -/
inductive AlikeWhile (C : World σ → Prop) : Activity σ α → Activity σ α → Prop
  | done (a : α) : AlikeWhile C (.done a) (.done a)
  | act {update : World σ → World σ} {next next' : World σ → Activity σ α}
      (hkeep : ∀ w, C w → C (update w)) (hnext : ∀ w, C w → AlikeWhile C (next w) (next' w)) :
      AlikeWhile C (.act update next) (.act update next')
  | wait {ready : World σ → Bool} {due : Option Nat} {next next' : Activity σ α}
      (hnext : AlikeWhile C next next') : AlikeWhile C (.wait ready due next) (.wait ready due next')

namespace AlikeWhile

variable {C : World σ → Prop} {p p' : Activity σ α}

/-! ## Rules -/

/-- One act that both make. -/
theorem step {f : World σ → World σ × α} (h : ∀ w, C w → C (f w).1) :
    AlikeWhile C (.step f) (.step f) := .act h fun _ _ => .done _

theorem look (f : World σ → α) : AlikeWhile C (.look f) (.look f) :=
  .act (fun _ hw => hw) fun _ _ => .done _

theorem follow {f f' : World σ → Activity σ α} (h : ∀ w, C w → AlikeWhile C (f w) (f' w)) :
    AlikeWhile C (.follow f) (.follow f') := .act (fun _ hw => hw) h

/-- **One activity after the other.** -/
theorem bind {f f' : α → Activity σ β} (h : AlikeWhile C p p')
    (hf : ∀ a, AlikeWhile C (f a) (f' a)) : AlikeWhile C (p.bind f) (p'.bind f') := by
  induction h with
  | done a => exact hf a
  | act hkeep _ ih => exact .act hkeep ih
  | wait _ ih => exact .wait ih

theorem map (f : α → β) (h : AlikeWhile C p p') : AlikeWhile C (p.map f) (p'.map f) :=
  h.bind fun a => .done (f a)

/-- **A call under a token that is cancelled** does not begin, whatever it is. -/
theorem cancelled {b : Bound} (hC : ∀ w, C w → w.isCancelled b.token = true) (operation : String)
    (p p' : Activity σ (Except Failure α)) : AlikeWhile C (b.run operation p) (b.run operation p') := by
  refine follow fun w hw => ?_
  rw [if_pos (hC w hw), if_pos (hC w hw)]
  exact .done _

/-! ## Side by side -/

/-- The second activity beside a first one that waits. -/
theorem besideWaiting {ready : World σ → Bool} {due : Option Nat}
    {resume resume' : Activity σ (Except γ β) → Activity σ (Except γ (α × β))}
    (hresume : ∀ q q', AlikeWhile C q q' → AlikeWhile C (resume q) (resume' q'))
    {q q' : Activity σ (Except γ β)} (h : AlikeWhile C q q') :
    AlikeWhile C (.besideWaiting ready due resume q) (.besideWaiting ready due resume' q') := by
  induction h with
  | done b =>
    cases b with
    | error e => exact .done _
    | ok b => exact .wait (hresume _ _ (.done _))
  | act hkeep _ ih => exact .act hkeep ih
  | @wait ready2 due2 next next' hnext ih =>
    refine .wait (follow fun w _ => ?_)
    by_cases hready : ready w = true
    · rw [if_pos hready, if_pos hready]
      exact hresume _ _ (.wait hnext)
    · rw [if_neg hready, if_neg hready]
      exact ih

/-- **Two activities side by side.** -/
theorem both {p p' : Activity σ (Except γ α)} {q q' : Activity σ (Except γ β)}
    (hp : AlikeWhile C p p') (hq : AlikeWhile C q q') : AlikeWhile C (p.both q) (p'.both q') := by
  induction hp generalizing q q' with
  | done a =>
    cases a with
    | error e => exact .done _
    | ok a => exact hq.map _
  | act hkeep _ ih => exact .act hkeep fun w hw => ih w hw hq
  | wait _ ih => exact besideWaiting (fun _ _ hq => ih hq) hq

theorem pair {q q' : Activity σ β} (hp : AlikeWhile C p p') (hq : AlikeWhile C q q') :
    AlikeWhile C (p.pair q) (p'.pair q') := ((hp.map _).both (hq.map _)).map _

/-- **Activities side by side.** -/
theorem all {f f' : γ → Activity σ α} (hf : ∀ x, AlikeWhile C (f x) (f' x)) :
    ∀ xs : List γ, AlikeWhile C (.all (xs.map f)) (.all (xs.map f'))
  | [] => .done _
  | x :: xs => ((hf x).pair (all hf xs)).map _

/-! ## Runs -/

/-- A step of the one is a step of the other. -/
theorem of_step {q : Activity σ α} {v w : World σ} (h : AlikeWhile C p p') (hv : C v)
    (hstep : p.Step v q w) : ∃ q', p'.Step v q' w ∧ C w ∧ AlikeWhile C q q' := by
  cases h with
  | done a => cases hstep
  | @act update next next' hkeep hnext =>
    cases hstep
    exact ⟨next' v, .act update next' v, hkeep v hv, hnext v hv⟩
  | @wait ready due next next' hnext =>
    cases hstep with
    | wake hready => exact ⟨next', .wake hready, hv, hnext⟩

variable {moves : Scene σ ε → Scene σ ε → Prop} {s s' : Scene σ ε} {t : List (Scene σ ε)}
  {q : Activity σ α}

/-- **A run of the one is a run of the other**, and meets the condition throughout. -/
theorem runs (hmoves : ∀ x y, moves x y → C x.world → C y.world) (h : AlikeWhile C p p')
    (hs : C s.world) (hrun : Runs moves p s t q s') :
    (∀ x ∈ s :: t, C x.world) ∧ ∃ q', AlikeWhile C q q' ∧ Runs moves p' s t q' s' := by
  induction hrun generalizing p' with
  | here p s =>
    refine ⟨List.forall_mem_cons.mpr ⟨hs, fun _ hx => ?_⟩, p', h, .here p' s⟩
    exact absurd hx List.not_mem_nil
  | step hstep _ ih =>
    obtain ⟨r', hstep', hw, hr⟩ := h.of_step hs hstep
    obtain ⟨hscenes, q', hq, hrun'⟩ := ih hr hw
    exact ⟨List.forall_mem_cons.mpr ⟨hs, hscenes⟩, q', hq, .step hstep' hrun'⟩
  | aside hmove _ ih =>
    obtain ⟨hscenes, q', hq, hrun'⟩ := ih h (hmoves _ _ hmove hs)
    exact ⟨List.forall_mem_cons.mpr ⟨hs, hscenes⟩, q', hq, .aside hmove hrun'⟩

/-- Then they come to the same result. -/
theorem runs_done (hmoves : ∀ x y, moves x y → C x.world → C y.world) (h : AlikeWhile C p p')
    (hs : C s.world) {a : α} (hrun : Runs moves p s t (.done a) s') :
    Runs moves p' s t (.done a) s' := by
  obtain ⟨-, q', hq, hrun'⟩ := h.runs hmoves hs hrun
  cases hq
  exact hrun'

end AlikeWhile

end FederatedStorage.Schedule
