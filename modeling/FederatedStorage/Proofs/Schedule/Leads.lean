import FederatedStorage.Proofs.Schedule.Rely

/-!
# What activities lead to

`Safe` speaks of the acts of an activity and of its result. `Leads` speaks of the world in which the
activity ends: amid others who let the world drift between its steps in a given way, it ends with a
result and in a world that have a property.

## Main statements

* `Leads.bind`, `Leads.of_safe`: the rules.
* `Leads.of_runs`: what holds at the end of a run.
-/

namespace FederatedStorage.Schedule

variable {σ α β ε : Type}

/-- **How the world may drift** while an activity makes no step. -/
structure Drift (σ : Type) where
  may : World σ → World σ → Prop
  refl : ∀ w, may w w
  trans : ∀ {u v w}, may u v → may v w → may u w

/-- **An activity ends with a property** of its result and of the world then, if it ends. -/
def Leads (D : Drift σ) (Q : α → World σ → Prop) : Activity σ α → World σ → Prop
  | .done a, w => ∀ w', D.may w w' → Q a w'
  | .act update next, w => ∀ w', D.may w w' → Leads D Q (next w') (update w')
  | .wait ready _ next, w => ∀ w', D.may w w' → ready w' = true → Leads D Q next w'

namespace Leads

variable {D : Drift σ} {Q : α → World σ → Prop} {S : β → World σ → Prop} {w w' : World σ}

/-! ## Rules -/

/-- What an activity leads to, it still leads to when the world has drifted. -/
theorem aside {p : Activity σ α} (hw : D.may w w') (h : Leads D Q p w) : Leads D Q p w' := by
  cases p with
  | done a => exact fun v hv => h v (D.trans hw hv)
  | act update next => exact fun v hv => h v (D.trans hw hv)
  | wait ready due next => exact fun v hv => h v (D.trans hw hv)

theorem mono {P : α → World σ → Prop} (hQ : ∀ a w, Q a w → P a w) :
    ∀ {p : Activity σ α} {w : World σ}, Leads D Q p w → Leads D P p w
  | .done a, _, h => fun w' hw => hQ a w' (h w' hw)
  | .act _ _, _, h => fun w' hw => mono hQ (h w' hw)
  | .wait _ _ _, _, h => fun w' hw hr => mono hQ (h w' hw hr)

/-- **One activity after the other.** -/
theorem bind {f : α → Activity σ β} (hf : ∀ a w, Q a w → Leads D S (f a) w) :
    ∀ {p : Activity σ α} {w : World σ}, Leads D Q p w → Leads D S (p.bind f) w
  | .done a, w, h => hf a w (h w (D.refl w))
  | .act _ _, _, h => fun w' hw => bind hf (h w' hw)
  | .wait _ _ _, _, h => fun w' hw hr => bind hf (h w' hw hr)

theorem done {a : α} (h : ∀ w', D.may w w' → Q a w') : Leads D Q (.done a) w := h

theorem step {f : World σ → World σ × α}
    (h : ∀ w', D.may w w' → ∀ v, D.may (f w').1 v → Q (f w').2 v) : Leads D Q (.step f) w := h

/-- An act, and then another activity. -/
theorem step_bind {f : World σ → World σ × α} {g : α → Activity σ β}
    (h : ∀ w', D.may w w' → Leads D S (g (f w').2) (f w').1) :
    Leads D S ((Activity.step f).bind g) w := h

/-- A look at the world, and then another activity. -/
theorem look_bind {f : World σ → α} {g : α → Activity σ β}
    (h : ∀ w', D.may w w' → Leads D S (g (f w')) w') : Leads D S ((Activity.look f).bind g) w := h

theorem follow {f : World σ → Activity σ α} (h : ∀ w', D.may w w' → Leads D Q (f w') w') :
    Leads D Q (.follow f) w := h

/-- **A safe activity among others who let it be safe** leads to its result's property, and what its
acts and the others preserve still holds in the end. -/
theorem of_safe {R : Rely σ} {P : α → Prop} {J : World σ → Prop}
    (hR : ∀ v w, J v → D.may v w → R.others v w ∧ J w) (hown : ∀ v w, J v → R.own v w → J w) :
    ∀ {p : Activity σ α} {w : World σ}, J w → Safe R P p w →
      Leads D (fun a w => P a ∧ J w) p w
  | .done a, w, hJ, hp => fun w' hw => ⟨hp, (hR w w' hJ hw).2⟩
  | .act update next, w, hJ, hp => fun w' hw => by
    obtain ⟨hothers, hJ'⟩ := hR w w' hJ hw
    obtain ⟨hact, hrest⟩ := hp w' hothers
    exact of_safe hR hown (hown w' _ hJ' hact) hrest
  | .wait ready due next, w, hJ, hp => fun w' hw hready => by
    obtain ⟨hothers, hJ'⟩ := hR w w' hJ hw
    exact of_safe hR hown hJ' (hp.2 w' hothers fun _ => hready)

/-! ## Runs -/

/-- **What an activity leads to holds at the end of every run** among others who drift like that. -/
theorem of_runs {moves : Scene σ ε → Scene σ ε → Prop} {p : Activity σ α} {a : α}
    {s s' : Scene σ ε} {t : List (Scene σ ε)} (h : Runs moves p s t (.done a) s')
    (hmoves : ∀ x y, moves x y → D.may x.world y.world) (hp : Leads D Q p s.world) :
    Q a s'.world := by
  generalize hq : Activity.done a = q at h
  -- along the run; a step of the activity takes off the outermost constructor
  induction h with
  | here p s =>
    subst hq
    exact hp _ (D.refl _)
  | step hstep _ ih =>
    refine ih ?_ hq
    cases hstep with
    | act update next => exact hp _ (D.refl _)
    | wake hready => exact hp _ (D.refl _) hready
  | aside hmove _ ih => exact ih (hp.aside (hmoves _ _ hmove)) hq

end Leads

end FederatedStorage.Schedule
