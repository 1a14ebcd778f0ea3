import FederatedStorage.Proofs.Schedule.Runs
import FederatedStorage.Schedule.Bound
import Mathlib.Data.List.Forall2

/-!
# What activities may rely on

Whether an activity does what it should depends on what others do between its steps. `Rely` says
what that may be, and what the activity itself may do in one step. `Safe` says of an activity that
all its acts are such steps and that its result has a property, as long as the others do no more
than they may. It follows the tree of the activity, so there is one rule for each way to build one,
and `Runs.safe` carries it along a run.

An attentive activity may take it that the world is ready when it goes on after a wait. Between the
end of a wait and the next act others may move, so this needs waits that stay over once they are.

## Main statements

* `Safe.bind`, `Safe.both`, `Safe.all`, `Safe.race`, `Safe.run`: the rules.
* `Runs.safe`, `Runs.keep`: what a safe activity does along a run.
* `Ends.step`: an activity that ends with a decisive act has made it, or is still before it.
-/

namespace FederatedStorage.Schedule

variable {σ α β γ ε : Type}

/-- **What an activity may count on**, and what it may do. -/
structure Rely (σ : Type) where
  /-- How the world may change between two steps. -/
  others : World σ → World σ → Prop
  /-- How one act may change the world. -/
  own : World σ → World σ → Prop
  /-- Whether the world is ready whenever a wait is over. -/
  attentive : Prop
  others_trans : ∀ {u v w}, others u v → others v w → others u w
  own_refl : ∀ w, own w w
  own_others : ∀ {u v w}, own u v → others v w → others u w
  clock_le : attentive → ∀ {v w}, others v w → v.clock ≤ w.clock
  cancelled : attentive → ∀ {v w t}, others v w → v.isCancelled t = true → w.isCancelled t = true

/-- A readiness that lasts. -/
def Rely.Lasts (R : Rely σ) (ready : World σ → Bool) : Prop :=
  ∀ v w, R.others v w → ready v = true → ready w = true

/-- Nothing to count on but the own acts. -/
def Rely.nothing (own : World σ → World σ → Prop) (own_refl : ∀ w, own w w) : Rely σ where
  others _ _ := True
  own := own
  attentive := False
  others_trans _ _ := trivial
  own_refl := own_refl
  own_others _ _ := trivial
  clock_le h := h.elim
  cancelled h := h.elim

/-- Scenes in which something holds, and acts of any kind. -/
def Rely.amid (I : World σ → Prop) : Rely σ where
  others _ w := I w
  own _ _ := True
  attentive := False
  others_trans _ h := h
  own_refl _ := trivial
  own_others _ h := h
  clock_le h := h.elim
  cancelled h := h.elim

/-- Time passes, and what is cancelled stays so. -/
structure TimePasses (v w : World σ) : Prop where
  clock : v.clock ≤ w.clock
  cancelled : ∀ t, v.isCancelled t = true → w.isCancelled t = true

namespace TimePasses

theorem refl (w : World σ) : TimePasses w w := ⟨Nat.le_refl _, fun _ h => h⟩

theorem trans {u v w : World σ} (h1 : TimePasses u v) (h2 : TimePasses v w) : TimePasses u w :=
  ⟨Nat.le_trans h1.clock h2.clock, fun t h => h2.cancelled t (h1.cancelled t h)⟩

end TimePasses

/-- Time that passes, for an activity that looks at what it waits for. -/
def Rely.timely : Rely σ where
  others := TimePasses
  own := TimePasses
  attentive := True
  others_trans := TimePasses.trans
  own_refl := TimePasses.refl
  own_others := TimePasses.trans
  clock_le _ _ _ h := h.clock
  cancelled _ _ _ t h := h.cancelled t

/-- **An activity does only what it may, and its result has a property.** -/
def Safe (R : Rely σ) (Q : α → Prop) : Activity σ α → World σ → Prop
  | .done a, _ => Q a
  | .act update next, w =>
    ∀ w', R.others w w' → R.own w' (update w') ∧ Safe R Q (next w') (update w')
  | .wait ready _ next, w =>
    (R.attentive → R.Lasts ready) ∧
      ∀ w', R.others w w' → (R.attentive → ready w' = true) → Safe R Q next w'

variable {R : Rely σ}

namespace Rely.Lasts

theorem or {r1 r2 : World σ → Bool} (h1 : R.Lasts r1) (h2 : R.Lasts r2) :
    R.Lasts fun w => r1 w || r2 w := by
  intro v w hvw hv
  rcases Bool.or_eq_true_iff.mp hv with hv | hv
  · simp [h1 v w hvw hv]
  · simp [h2 v w hvw hv]

/-- An instant that is over stays over. -/
theorem instant (hR : R.attentive) (n : Nat) : R.Lasts fun w => decide (n ≤ w.clock) := by
  intro v w hvw hv
  exact decide_eq_true (Nat.le_trans (of_decide_eq_true hv) (R.clock_le hR hvw))

theorem never : R.Lasts fun _ => false := fun _ _ _ h => h

/-- A call that is given up stays so. -/
theorem interrupts (hR : R.attentive) (b : Bound) : R.Lasts b.interrupts := by
  intro v w hvw hv
  rcases Bool.or_eq_true_iff.mp hv with hv | hv
  · simp [Bound.interrupts, R.cancelled hR hvw hv]
  · unfold Bound.hasPassed at hv
    cases hd : b.deadline with
    | none => simp [hd] at hv
    | some d =>
      have hle : d ≤ w.clock := Nat.le_trans (by simpa [hd] using hv) (R.clock_le hR hvw)
      simp [Bound.interrupts, Bound.hasPassed, hd, hle]

end Rely.Lasts

/-- What stands in a list has its counterpart in the other. -/
theorem exists_of_mem_left {α β : Type} {R : α → β → Prop} {l : List α} {m : List β}
    (h : List.Forall₂ R l m) : ∀ a ∈ l, ∃ b ∈ m, R a b := by
  induction h with
  | nil => exact fun a ha => absurd ha List.not_mem_nil
  | @cons a b l m hab _ ih =>
    refine List.forall_mem_cons.mpr ⟨⟨b, List.mem_cons_self, hab⟩, fun x hx => ?_⟩
    obtain ⟨y, hy, hxy⟩ := ih x hx
    exact ⟨y, List.mem_cons_of_mem b hy, hxy⟩

namespace Safe

variable {Q : α → Prop} {S : β → Prop} {w w' : World σ}

/-! ## Rules -/

theorem mono {Q' : α → Prop} (hQ : ∀ a, Q a → Q' a) :
    ∀ {p : Activity σ α} {w : World σ}, Safe R Q p w → Safe R Q' p w
  | .done a, _, h => hQ a h
  | .act _ _, _, h => fun w' hw => ⟨(h w' hw).1, mono hQ (h w' hw).2⟩
  | .wait _ _ _, _, h => ⟨h.1, fun w' hw hr => mono hQ (h.2 w' hw hr)⟩

/-- An activity stays safe while the others move. -/
theorem aside {p : Activity σ α} (hw : R.others w w') (h : Safe R Q p w) : Safe R Q p w' := by
  cases p with
  | done a => exact h
  | act update next => exact fun v hv => h v (R.others_trans hw hv)
  | wait ready due next => exact ⟨h.1, fun v hv => h.2 v (R.others_trans hw hv)⟩

/-- An activity stays safe while one of its own kind acts. -/
theorem beside {p : Activity σ α} (hw : R.own w w') (h : Safe R Q p w) : Safe R Q p w' := by
  cases p with
  | done a => exact h
  | act update next => exact fun v hv => h v (R.own_others hw hv)
  | wait ready due next => exact ⟨h.1, fun v hv => h.2 v (R.own_others hw hv)⟩

/-- **One activity after the other.** -/
theorem bind {f : α → Activity σ β} (hf : ∀ a w, Q a → Safe R S (f a) w) :
    ∀ {p : Activity σ α} {w : World σ}, Safe R Q p w → Safe R S (p.bind f) w
  | .done a, w, h => hf a w h
  | .act _ _, _, h => fun w' hw => ⟨(h w' hw).1, bind hf (h w' hw).2⟩
  | .wait _ _ _, _, h => ⟨h.1, fun w' hw hr => bind hf (h.2 w' hw hr)⟩

theorem map {f : α → β} {p : Activity σ α} (hf : ∀ a, Q a → S (f a)) (h : Safe R Q p w) :
    Safe R S (p.map f) w := by
  refine Safe.bind (fun a w' ha => ?_) h
  exact hf a ha

theorem look {f : World σ → α} (h : ∀ w', R.others w w' → Q (f w')) :
    Safe R Q (.look f) w := fun w' hw => ⟨R.own_refl w', h w' hw⟩

theorem follow {f : World σ → Activity σ α} (h : ∀ w', R.others w w' → Safe R Q (f w') w') :
    Safe R Q (.follow f) w := fun w' hw => ⟨R.own_refl w', h w' hw⟩

theorem step {f : World σ → World σ × α}
    (h : ∀ w', R.others w w' → R.own w' (f w').1 ∧ Q (f w').2) : Safe R Q (.step f) w := h

theorem waitUntil (n : Nat) : Safe R (fun _ => True) (.waitUntil n) w :=
  ⟨fun hR => .instant hR n, fun _ _ _ => trivial⟩

theorem sleep (ms : Nat) : Safe R (fun _ => True) (.sleep ms) w :=
  follow fun _ _ => waitUntil _

/-- What never comes about needs no safety. -/
theorem forever (hR : R.attentive → R.Lasts fun _ => false) :
    Safe R (fun _ : Unit => True) (.await fun _ => false) w := ⟨hR, fun _ _ _ => trivial⟩

/-! ## Side by side -/

/-- The results of two activities side by side: both successes, or the failure of one. -/
def Both (Q1 : Except ε α → Prop) (Q2 : Except ε β → Prop) : Except ε (α × β) → Prop
  | .ok (a, b) => Q1 (.ok a) ∧ Q2 (.ok b)
  | .error e => Q1 (.error e) ∨ Q2 (.error e)

variable {Q1 : Except ε α → Prop} {Q2 : Except ε β → Prop}

/-- The second activity beside a first one that waits. -/
theorem besideWaiting {ready : World σ → Bool} {due : Option Nat} {next : Activity σ (Except ε α)}
    {resume : Activity σ (Except ε β) → Activity σ (Except ε (α × β))}
    (hresume : ∀ q w, Safe R Q1 next w → Safe R Q2 q w → Safe R (Both Q1 Q2) (resume q) w) :
    ∀ {q : Activity σ (Except ε β)} {w : World σ}, Safe R Q1 (.wait ready due next) w →
      Safe R Q2 q w → Safe R (Both Q1 Q2) (.besideWaiting ready due resume q) w
  | .done (.error e), _, _, hq => Or.inr hq
  | .done (.ok b), _, hp, hq => ⟨hp.1, fun w' hw hr => hresume _ w' (hp.2 w' hw hr) (hq.aside hw)⟩
  | .act update next2, w, hp, hq => fun w' hw =>
    ⟨(hq w' hw).1, besideWaiting hresume ((hp.aside hw).beside (hq w' hw).1) (hq w' hw).2⟩
  | .wait ready2 due2 next2, w, hp, hq => by
    refine ⟨fun hR => (hp.1 hR).or (hq.1 hR), fun w1 h1 hready w2 h2 => ⟨R.own_refl w2, ?_⟩⟩
    have h12 : R.others w w2 := R.others_trans h1 h2
    by_cases hr : ready w2 = true
    · simp only [hr, if_true]
      exact hresume _ _ (hp.2 w2 h12 fun _ => hr) (hq.aside h12)
    · -- the first one is not ready now, so it was not when the wait ended, and the second was
      simp only [hr]
      refine besideWaiting hresume (hp.aside h12) (hq.2 w2 h12 fun hR => ?_)
      rcases Bool.or_eq_true_iff.mp (hready hR) with h | h
      · exact absurd (hp.1 hR w1 w2 h2 h) hr
      · exact hq.1 hR w1 w2 h2 h

/-- **Two activities side by side.** -/
theorem both : ∀ {p : Activity σ (Except ε α)} {q : Activity σ (Except ε β)} {w : World σ},
    Safe R Q1 p w → Safe R Q2 q w → Safe R (Both Q1 Q2) (p.both q) w
  | .done (.error e), _, _, hp, _ => Or.inl hp
  | .done (.ok a), q, _, hp, hq => hq.map fun r hr => by
    cases r with
    | ok b => exact ⟨hp, hr⟩
    | error e => exact Or.inr hr
  | .act update next, q, w, hp, hq => fun w' hw =>
    ⟨(hp w' hw).1, both (hp w' hw).2 ((hq.aside hw).beside (hp w' hw).1)⟩
  | .wait ready due next, q, w, hp, hq =>
    besideWaiting (fun _ _ hp hq => both hp hq) hp hq

theorem pair {p : Activity σ α} {q : Activity σ β} (hp : Safe R Q p w) (hq : Safe R S q w) :
    Safe R (fun r => Q r.1 ∧ S r.2) (p.pair q) w := by
  -- `pair` is `both` of two that cannot fail
  have hboth : Safe R (Both (ε := Empty) (fun r => ∀ a, r = .ok a → Q a)
      (fun r => ∀ b, r = .ok b → S b)) ((p.map .ok).both (q.map .ok)) w :=
    both (hp.map fun a ha x hx => by cases hx; exact ha)
      (hq.map fun b hb x hx => by cases hx; exact hb)
  refine hboth.map fun r hr => ?_
  cases r with
  | ok ab => exact ⟨hr.1 _ rfl, hr.2 _ rfl⟩
  | error e => exact e.elim

/-- **Activities side by side**, each with a property of its own. -/
theorem all {Q : γ → α → Prop} {f : γ → Activity σ α} :
    ∀ {xs : List γ}, (∀ x ∈ xs, Safe R (Q x) (f x) w) →
      Safe R (List.Forall₂ Q xs) (.all (xs.map f)) w
  | [], _ => .nil
  | x :: xs, h => by
    have hrest := all fun y hy => h y (List.mem_cons_of_mem x hy)
    exact (pair (h x List.mem_cons_self) hrest).map fun r hr => .cons hr.1 hr.2

/-! ## Bounds -/

/-- **A call that has begun** ends as it would, or is given up. -/
theorem race {Q : Except Failure α → Prop} {b : Bound} {operation : String}
    (hstop : ∀ v w, R.others v w → (R.attentive → b.interrupts w = true) →
      Q (.error (b.interruption w operation))) :
    ∀ {p : Activity σ (Except Failure α)} {w : World σ}, Safe R Q p w →
      Safe R Q (b.race operation p) w
  | .done r, _, h => h
  | .act update next, w, h => fun w' hw => ⟨(h w' hw).1, race hstop (h w' hw).2⟩
  | .wait ready due next, w, h => by
    refine ⟨fun hR => (h.1 hR).or (.interrupts hR b), fun w1 h1 hready w2 h2 => ⟨R.own_refl w2, ?_⟩⟩
    have h12 : R.others w w2 := R.others_trans h1 h2
    by_cases hr : ready w2 = true
    · simp only [hr, if_true]
      exact race hstop (h.2 w2 h12 fun _ => hr)
    · -- the activity is not ready now, so it was the bound that ended the wait
      simp only [hr]
      refine hstop w w2 h12 fun hR => ?_
      rcases Bool.or_eq_true_iff.mp (hready hR) with hp | hp
      · exact absurd (h.1 hR w1 w2 h2 hp) hr
      · exact Rely.Lasts.interrupts hR b w1 w2 h2 hp

/-- **A call within its bound.** -/
theorem run {Q : Except Failure α → Prop} {b : Bound} {operation : String}
    {p : Activity σ (Except Failure α)}
    (hstop : ∀ v w, R.others v w → (R.attentive → b.interrupts w = true) →
      Q (.error (b.interruption w operation)))
    (h : Safe R Q p w) : Safe R Q (b.run operation p) w := by
  refine follow fun w' hw => ?_
  by_cases hc : w'.isCancelled b.token = true
  · have hQ := hstop w w' hw fun _ => by simp [Bound.interrupts, hc]
    rw [if_pos hc]
    simpa [Safe, Bound.interruption, hc] using hQ
  · rw [if_neg hc]
    exact race hstop (h.aside hw)

/-! ## Steps -/

/-- **A step of a safe activity** is one that it may make, and leaves it safe. -/
theorem of_step {p q : Activity σ α} (hw : R.others w w) (h : Safe R Q p w)
    (hstep : p.Step w q w') : R.own w w' ∧ Safe R Q q w' := by
  cases hstep with
  | act update next => exact h w hw
  | wake hready => exact ⟨R.own_refl w, h.2 w hw fun _ => hready⟩

end Safe

/-! ## Along a run -/

namespace Runs

variable {moves : Scene σ ε → Scene σ ε → Prop} {s s' : Scene σ ε} {t : List (Scene σ ε)}
  {p q : Activity σ α} {Q : α → Prop}

/-- **A safe activity stays safe**, and what its acts and the moves of the others preserve holds in
every scene. The moves need only preserve it towards scenes of the run, of which `K` is known. -/
theorem keep {J K : Scene σ ε → Prop} (h : Runs moves p s t q s')
    (hmoves : ∀ x y, moves x y → R.others y.world y.world → R.others x.world y.world)
    (hown : ∀ x w, R.own x.world w → K (x.put w) → J x → J (x.put w))
    (haside : ∀ x y, moves x y → K y → J x → J y)
    (hscenes : ∀ x ∈ s :: t, R.others x.world x.world) (hK : ∀ x ∈ t, K x)
    (hp : Safe R Q p s.world) (hJ : J s) : Safe R Q q s'.world ∧ J s' ∧ ∀ x ∈ t, J x := by
  induction h with
  | here p s => exact ⟨hp, hJ, fun x hx => absurd hx List.not_mem_nil⟩
  | @step _ _ _ s _ w _ hstep _ ih =>
    obtain ⟨hs, hscenes⟩ := List.forall_mem_cons.mp hscenes
    obtain ⟨hKs, hK⟩ := List.forall_mem_cons.mp hK
    obtain ⟨hact, hq⟩ := hp.of_step hs hstep
    have hJ1 : J (s.put w) := hown s w hact hKs hJ
    obtain ⟨hsafe, hend, hall⟩ := ih hscenes hK hq hJ1
    exact ⟨hsafe, hend, List.forall_mem_cons.mpr ⟨hJ1, hall⟩⟩
  | @aside _ _ s s1 _ _ hmove _ ih =>
    -- nobody acts for the activity here: it stays as safe as it was
    obtain ⟨-, hscenes⟩ := List.forall_mem_cons.mp hscenes
    obtain ⟨hKs, hK⟩ := List.forall_mem_cons.mp hK
    have hs1 := (List.forall_mem_cons.mp hscenes).1
    have hJ1 : J s1 := haside s s1 hmove hKs hJ
    obtain ⟨hsafe, hend, hall⟩ := ih hscenes hK (hp.aside (hmoves s s1 hmove hs1)) hJ1
    exact ⟨hsafe, hend, List.forall_mem_cons.mpr ⟨hJ1, hall⟩⟩

/-- The result of a safe activity has its property. -/
theorem result {a : α} (h : Runs moves p s t (.done a) s')
    (hmoves : ∀ x y, moves x y → R.others y.world y.world → R.others x.world y.world)
    (hscenes : ∀ x ∈ s :: t, R.others x.world x.world) (hp : Safe R Q p s.world) : Q a :=
  (h.keep (J := fun _ => True) (K := fun _ => True) hmoves (fun _ _ _ _ _ => trivial)
    (fun _ _ _ _ _ => trivial) hscenes (fun _ _ => trivial) hp trivial).1

end Runs

/-! ## Decisive acts -/

/-- **An activity that ends with a decisive act**, and may make only steps of its kind before. -/
def Ends (R : Rely σ) (last : World σ → World σ → α → Prop) : Activity σ α → Prop
  | .done _ => False
  | .act update next => ∀ w,
    (∃ a, next w = .done a ∧ last w (update w) a) ∨ R.own w (update w) ∧ Ends R last (next w)
  | .wait _ _ next => Ends R last next

namespace Ends

variable {last : World σ → World σ → β → Prop} {w w' : World σ}

/-- An activity before one that ends with a decisive act. -/
theorem bind {own : World σ → World σ → Prop} {own_refl : ∀ w, own w w} {Q : α → Prop}
    {f : α → Activity σ β} (hf : ∀ a, Ends (.nothing own own_refl) last (f a)) :
    ∀ {p : Activity σ α}, (∀ w, Safe (.nothing own own_refl) Q p w) →
      Ends (.nothing own own_refl) last (p.bind f)
  | .done a, _ => hf a
  | .act _ _, h => fun w =>
    Or.inr ⟨(h w w trivial).1, bind hf fun _ => (h w w trivial).2.aside trivial⟩
  | .wait _ _ next, h =>
    show Ends _ last (next.bind f) from bind hf fun w => (h w).2 w trivial False.elim

/-- A single decisive act. -/
theorem step {f : World σ → World σ × β} (h : ∀ w, last w (f w).1 (f w).2) :
    Ends R last (.step f) := fun w => Or.inl ⟨(f w).2, rfl, h w⟩

/-- **A step of an activity that ends with a decisive act** is that act, or comes before it. -/
theorem of_step {p q : Activity σ β} (h : Ends R last p) (hstep : p.Step w q w') :
    (∃ a, q = .done a ∧ last w w' a) ∨ R.own w w' ∧ Ends R last q := by
  cases hstep with
  | act update next => exact h w
  | wake hready => exact Or.inr ⟨R.own_refl w, h⟩

end Ends

end FederatedStorage.Schedule
