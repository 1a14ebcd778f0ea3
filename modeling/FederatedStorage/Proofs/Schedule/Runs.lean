import FederatedStorage.Schedule.Activity

/-!
# Activities amid others

An activity goes on one step at a time, and between any two of its steps others may move. `Runs`
says which steps an activity has made when it is at `q`, and through which scenes it has come. The
scenes belong to everybody: each is the world after a step of the activity or after a move of the
others.

An activity that runs alone, as `Activity.advance` lets it, is the special case without moves.

## Main statements

* `Runs.bind_inv`: a run of one activity after another is still in the first, or splits.
* `Runs.keep`: what every act and every move preserves holds in every scene.
* `runs_advance`: what `advance` does is a run.
-/

namespace FederatedStorage.Schedule

variable {σ α β γ ε : Type}

namespace Activity

theorem bind_done (p : Activity σ α) : p.bind done = p := by
  induction p with
  | done a => rfl
  | act update next ih => exact congrArg (act update) (funext ih)
  | wait ready due next ih => exact congrArg (wait ready due) ih

theorem map_id (p : Activity σ α) : p.map id = p := bind_done p

theorem bind_assoc (p : Activity σ α) (f : α → Activity σ β) (g : β → Activity σ γ) :
    (p.bind f).bind g = p.bind fun a => (f a).bind g := by
  induction p with
  | done a => rfl
  | act update next ih => exact congrArg (act update) (funext ih)
  | wait ready due next ih => exact congrArg (wait ready due) ih

end Activity

/-- **One step of an activity**: an act, or the end of a wait. -/
inductive Activity.Step : Activity σ α → World σ → Activity σ α → World σ → Prop
  | act (update : World σ → World σ) (next : World σ → Activity σ α) (w : World σ) :
      Step (.act update next) w (next w) (update w)
  | wake {ready : World σ → Bool} {due : Option Nat} {next : Activity σ α} {w : World σ}
      (h : ready w = true) : Step (.wait ready due next) w next w

/-- The first step of an act and what follows it is that act. -/
theorem Activity.Step.step_bind {f : World σ → World σ × α} {g : α → Activity σ β}
    {q : Activity σ β} {v w : World σ} (h : ((Activity.step f).bind g).Step v q w) :
    q = g (f v).2 ∧ w = (f v).1 := by
  generalize hp : (Activity.step f).bind g = p at h
  cases h with
  | act update next =>
    cases hp
    exact ⟨rfl, rfl⟩
  | wake hready => cases hp

/-- A step of the first of two activities is one of both, one after the other. -/
theorem Activity.Step.bind {p q : Activity σ α} {v w : World σ} (f : α → Activity σ β)
    (h : p.Step v q w) : (p.bind f).Step v (q.bind f) w := by
  cases h with
  | act update next => exact .act update (fun w => (next w).bind f) v
  | wake hready => exact .wake hready

/-- A step of two activities, one after the other, is one of the first unless that has ended. -/
theorem Activity.Step.bind_inv {p : Activity σ α} {f : α → Activity σ β} {q : Activity σ β}
    {v w : World σ} (h : (p.bind f).Step v q w) :
    (∃ a, p = .done a ∧ (f a).Step v q w) ∨ ∃ r, q = r.bind f ∧ p.Step v r w := by
  cases p with
  | done a => exact Or.inl ⟨a, rfl, h⟩
  | act update next =>
    cases h
    exact Or.inr ⟨next v, rfl, .act update next v⟩
  | wait ready due next =>
    cases h with
    | wake hready => exact Or.inr ⟨next, rfl, .wake hready⟩

/-- The world, and what else there is beside an activity. -/
structure Scene (σ ε : Type) where
  world : World σ
  others : ε

/-- The scene after a step in the world. -/
def Scene.put (s : Scene σ ε) (w : World σ) : Scene σ ε := { s with world := w }

@[simp] theorem Scene.put_world (s : Scene σ ε) (w : World σ) : (s.put w).world = w := rfl

@[simp] theorem Scene.put_others (s : Scene σ ε) (w : World σ) : (s.put w).others = s.others := rfl

/-- **An activity runs amid moves of others**, through the listed scenes. -/
inductive Runs (moves : Scene σ ε → Scene σ ε → Prop) :
    Activity σ α → Scene σ ε → List (Scene σ ε) → Activity σ α → Scene σ ε → Prop
  | here (p : Activity σ α) (s : Scene σ ε) : Runs moves p s [] p s
  | step {p q r : Activity σ α} {s s' : Scene σ ε} {w : World σ} {t : List (Scene σ ε)}
      (hstep : p.Step s.world q w) (hrest : Runs moves q (s.put w) t r s') :
      Runs moves p s (s.put w :: t) r s'
  | aside {p r : Activity σ α} {s s1 s' : Scene σ ε} {t : List (Scene σ ε)}
      (hmove : moves s s1) (hrest : Runs moves p s1 t r s') : Runs moves p s (s1 :: t) r s'

namespace Runs

variable {moves : Scene σ ε → Scene σ ε → Prop} {s s1 s' : Scene σ ε} {t t1 t2 : List (Scene σ ε)}

/-! ## Putting runs together -/

theorem trans {p q r : Activity σ α} (h1 : Runs moves p s t1 q s1) (h2 : Runs moves q s1 t2 r s') :
    Runs moves p s (t1 ++ t2) r s' := by
  induction h1 with
  | here p s => exact h2
  | step hstep _ ih => exact .step hstep (ih h2)
  | aside hmove _ ih => exact .aside hmove (ih h2)

/-- A run of the first of two activities is a run of both, one after the other. -/
theorem bind_left {p r : Activity σ α} (f : α → Activity σ β) (h : Runs moves p s t r s') :
    Runs moves (p.bind f) s t (r.bind f) s' := by
  induction h with
  | here p s => exact .here _ s
  | step hstep _ ih => exact .step (hstep.bind f) ih
  | aside hmove _ ih => exact .aside hmove ih

/-- One activity after the other. -/
theorem bind {p : Activity σ α} {a : α} {f : α → Activity σ β} {r : Activity σ β}
    (h1 : Runs moves p s t1 (.done a) s1) (h2 : Runs moves (f a) s1 t2 r s') :
    Runs moves (p.bind f) s (t1 ++ t2) r s' := (h1.bind_left f).trans h2

/-- The run of an act that is made at once. -/
theorem act {update : World σ → World σ} {next : World σ → Activity σ α} {r : Activity σ α}
    (h : Runs moves (next s.world) (s.put (update s.world)) t r s') :
    Runs moves (.act update next) s (s.put (update s.world) :: t) r s' :=
  .step (.act update next s.world) h

/-! ## Taking runs apart -/

/-- A run ends in one of its scenes. -/
theorem end_mem {p q : Activity σ α} (h : Runs moves p s t q s') : s' ∈ s :: t := by
  induction h with
  | here p s => exact List.mem_cons_self
  | step _ _ ih => exact List.mem_cons_of_mem _ ih
  | aside _ _ ih => exact List.mem_cons_of_mem _ ih

/-- The scenes of a run are scenes of what goes on from it. -/
theorem mem_before {x : Scene σ ε} (t2 : List (Scene σ ε)) (hx : x ∈ s :: t1) :
    x ∈ s :: (t1 ++ t2) := by
  rw [← List.cons_append]
  exact List.mem_append_left t2 hx

/-- The scenes of a run that goes on after another. -/
theorem mem_after {x y : Scene σ ε} (hy : y ∈ s :: t1) (hx : x ∈ y :: t2) :
    x ∈ s :: (t1 ++ t2) := by
  rcases List.mem_cons.mp hx with rfl | hx
  · exact mem_before t2 hy
  · exact List.mem_cons_of_mem s (List.mem_append_right t1 hx)

/-- What the others do beside an activity that has ended, they do beside any. -/
theorem of_done {a : α} {q : Activity σ α} (h : Runs moves (.done a) s t q s') :
    q = .done a ∧ ∀ {β : Type} (p : Activity σ β), Runs moves p s t p s' := by
  -- the activity is an index of the relation, so it is named before the induction
  generalize hx : Activity.done a = x at h
  induction h with
  | here p s => exact ⟨rfl, fun p => .here p s⟩
  | step hstep =>
    subst hx
    cases hstep
  | aside hmove _ ih =>
    obtain ⟨hq, hall⟩ := ih hx
    exact ⟨hq, fun p => .aside hmove (hall p)⟩

/-- **A run of one activity after another** is still in the first, or the first has ended. -/
theorem bind_inv {p : Activity σ α} {f : α → Activity σ β} {q : Activity σ β}
    (h : Runs moves (p.bind f) s t q s') :
    (∃ r, q = r.bind f ∧ Runs moves p s t r s') ∨
      ∃ a t1 s1 t2, t = t1 ++ t2 ∧ Runs moves p s t1 (.done a) s1 ∧
        Runs moves (f a) s1 t2 q s' := by
  generalize hx : p.bind f = x at h
  -- the first activity gets shorter with each of its steps
  induction h generalizing p with
  | here x s => exact Or.inl ⟨p, hx.symm, .here p s⟩
  | step hstep hrest ih =>
    cases p with
    | done a =>
      -- the first one has ended before this step, which is the first of the second
      subst hx
      exact Or.inr ⟨a, [], _, _, rfl, .here _ _, .step hstep hrest⟩
    | act update next =>
      subst hx
      cases hstep
      rcases ih rfl with ⟨r, hq, hr⟩ | ⟨a, t1, s1, t2, ht, h1, h2⟩
      · exact Or.inl ⟨r, hq, hr.act⟩
      · exact Or.inr ⟨a, _ :: t1, s1, t2, by rw [ht]; rfl, h1.act, h2⟩
    | wait ready due next =>
      subst hx
      cases hstep with
      | wake hready =>
        rcases ih rfl with ⟨r, hq, hr⟩ | ⟨a, t1, s1, t2, ht, h1, h2⟩
        · exact Or.inl ⟨r, hq, .step (.wake hready) hr⟩
        · exact Or.inr ⟨a, _ :: t1, s1, t2, by rw [ht]; rfl, .step (.wake hready) h1, h2⟩
  | aside hmove _ ih =>
    rcases ih hx with ⟨r, hq, hr⟩ | ⟨a, t1, s1, t2, ht, h1, h2⟩
    · exact Or.inl ⟨r, hq, .aside hmove hr⟩
    · exact Or.inr ⟨a, _ :: t1, s1, t2, by rw [ht]; rfl, .aside hmove h1, h2⟩

/-- Either neither of two activities has ended, one after the other, or the first has. -/
theorem bind_cases {p : Activity σ α} {f : α → Activity σ β} {q : Activity σ β}
    (h : Runs moves (p.bind f) s t q s') :
    (∃ r, r.result? = none ∧ q.result? = none ∧ Runs moves p s t r s') ∨
      ∃ a t1 s1 t2, Runs moves p s t1 (.done a) s1 ∧ Runs moves (f a) s1 t2 q s' := by
  rcases h.bind_inv with ⟨r, rfl, hr⟩ | ⟨a, t1, s1, t2, -, h1, h2⟩
  · cases r with
    | done a => exact Or.inr ⟨a, t, s', [], hr, .here _ s'⟩
    | act update next => exact Or.inl ⟨_, rfl, rfl, hr⟩
    | wait ready due next => exact Or.inl ⟨_, rfl, rfl, hr⟩
  · exact Or.inr ⟨a, t1, s1, t2, h1, h2⟩

/-- A run of one activity after another that has ended splits. -/
theorem bind_done {p : Activity σ α} {f : α → Activity σ β} {b : β}
    (h : Runs moves (p.bind f) s t (.done b) s') :
    ∃ a t1 s1 t2, t = t1 ++ t2 ∧ Runs moves p s t1 (.done a) s1 ∧
      Runs moves (f a) s1 t2 (.done b) s' := by
  rcases h.bind_inv with ⟨r, hq, hr⟩ | hsplit
  · cases r with
    | done a => exact ⟨a, t, s', [], by simp, hr, hq ▸ .here _ s'⟩
    | act update next => exact absurd hq (by simp [Activity.bind])
    | wait ready due next => exact absurd hq (by simp [Activity.bind])
  · exact hsplit

/-- **An act happens in one scene**, up to which only the others have moved. -/
theorem act_done {update : World σ → World σ} {next : World σ → Activity σ α} {b : α}
    (h : Runs moves (.act update next) s t (.done b) s') :
    ∃ t1 s1 t2, t = t1 ++ s1.put (update s1.world) :: t2 ∧
      (∀ {β : Type} (p : Activity σ β), Runs moves p s t1 p s1) ∧
      Runs moves (next s1.world) (s1.put (update s1.world)) t2 (.done b) s' := by
  generalize hx : Activity.act update next = x at h
  generalize hq : Activity.done b = q at h
  induction h with
  | here p s =>
    subst hx
    cases hq
  | step hstep hrest _ =>
    subst hx
    cases hstep
    exact ⟨[], _, _, rfl, fun p => .here p _, hq ▸ hrest⟩
  | aside hmove _ ih =>
    obtain ⟨t1, s1, t2, ht, h1, h2⟩ := ih hx hq
    exact ⟨_ :: t1, s1, t2, by rw [ht]; rfl, fun p => .aside hmove (h1 p), h2⟩

/-! ## What holds along a run -/

/-- What one step and one move carry on, a run carries on to its end, from every scene. -/
theorem later {L : Scene σ ε → Scene σ ε → Prop} (hrefl : ∀ s, L s s)
    (htrans : ∀ x y z, L x y → L y z → L x z) (hput : ∀ s w, L s (s.put w))
    (hmoves : ∀ s s1, moves s s1 → L s s1) {p q : Activity σ α} (h : Runs moves p s t q s') :
    L s s' ∧ ∀ x ∈ t, L x s' := by
  induction h with
  | here p s => exact ⟨hrefl s, fun x hx => absurd hx List.not_mem_nil⟩
  | step hstep _ ih =>
    refine ⟨htrans _ _ _ (hput _ _) ih.1, fun x hx => ?_⟩
    rcases List.mem_cons.mp hx with rfl | hx
    · exact ih.1
    · exact ih.2 x hx
  | aside hmove _ ih =>
    refine ⟨htrans _ _ _ (hmoves _ _ hmove) ih.1, fun x hx => ?_⟩
    rcases List.mem_cons.mp hx with rfl | hx
    · exact ih.1
    · exact ih.2 x hx

end Runs

/-! ## Running alone -/

/-- What an activity comes through when `advance` lets it run: after each step the world, and what
is left to do. -/
def Activity.trail : Activity σ α → World σ → List (World σ × Activity σ α)
  | .done _, _ => []
  | .act update next, w => (update w, next w) :: (next w).trail (update w)
  | .wait ready _ next, w => if ready w then (w, next) :: next.trail w else []

/-- **What `advance` does is a run** in which nobody else moves. -/
theorem runs_advance (moves : Scene σ ε → Scene σ ε → Prop) (p : Activity σ α) (w : World σ)
    (moved : Bool) (e : ε) :
    Runs moves p ⟨w, e⟩ ((p.trail w).map fun y => ⟨y.1, e⟩) (p.advance w moved).2.1
      ⟨(p.advance w moved).1, e⟩ := by
  induction p generalizing w moved with
  | done a => exact .here _ _
  | act update next ih => exact .step (.act update next w) (ih w (update w) true)
  | wait ready due next ih =>
    by_cases hready : ready w = true
    · rw [Activity.advance, Activity.trail, if_pos hready, if_pos hready]
      exact .step (.wake hready) (ih w true)
    · rw [Activity.advance, Activity.trail, if_neg hready, if_neg hready]
      exact .here _ _

theorem Activity.eq_done_of_result? {p : Activity σ α} {a : α} (h : p.result? = some a) :
    p = .done a := by
  cases p with
  | done x =>
    cases h
    rfl
  | act update next => cases h
  | wait ready due next => cases h

/-- An activity that ends at once has a run to its end in which nobody else moves. -/
theorem runs_of_result (moves : Scene σ ε → Scene σ ε → Prop) {p : Activity σ α} {w : World σ}
    (e : ε) {a : α} (h : (p.advance w false).2.1.result? = some a) :
    Runs moves p ⟨w, e⟩ ((p.trail w).map fun y => ⟨y.1, e⟩) (.done a)
      ⟨(p.advance w false).1, e⟩ := by
  rw [← Activity.eq_done_of_result? h]
  exact runs_advance moves p w false e

/-- Such a run has a result, whatever it is. -/
theorem exists_runs_of_isSome (moves : Scene σ ε → Scene σ ε → Prop) {p : Activity σ α} {w : World σ}
    (e : ε) (h : (p.advance w false).2.1.result?.isSome) :
    ∃ a, Runs moves p ⟨w, e⟩ ((p.trail w).map fun y => ⟨y.1, e⟩) (.done a)
      ⟨(p.advance w false).1, e⟩ := by
  obtain ⟨a, ha⟩ := Option.isSome_iff_exists.mp h
  exact ⟨a, runs_of_result moves e ha⟩

end FederatedStorage.Schedule
