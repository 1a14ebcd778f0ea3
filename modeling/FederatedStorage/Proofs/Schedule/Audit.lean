import FederatedStorage.Proofs.Schedule.Leads

/-!
# Books kept of an activity

While an activity goes on, books can be kept of it: what it has done so far, as far as it matters to
somebody. An audit says what an act may do to the world and to the books, whatever the world is, and
what becomes of the books while the activity waits. So nothing is assumed about the others, and what
is known of the books when the activity ends is true among any others.

## Main statements

* `Audited.bind`, `Audited.of_safe`: the rules.
* `Audited.of_step`: what a step does to the books.
* `Audited.leads`: what holds of the world and of the books among others who keep it.
-/

namespace FederatedStorage.Schedule

variable {σ α β M N : Type}

/-- **What may happen to the world and to the books.** -/
structure Audit (σ M : Type) where
  act : World σ → World σ → M → M → Prop
  wait : M → M → Prop

/-- **Books can be kept of an activity**, and have a property when it ends. -/
def Audited (A : Audit σ M) (Q : α → M → Prop) : Activity σ α → M → Prop
  | .done a, m => Q a m
  | .act update next, m => ∀ w, ∃ m', A.act w (update w) m m' ∧ Audited A Q (next w) m'
  | .wait _ _ next, m => ∃ m', A.wait m m' ∧ Audited A Q next m'

namespace Audited

variable {A : Audit σ M} {Q : α → M → Prop} {S : β → M → Prop} {m : M}

/-! ## Rules -/

/-- **One activity after the other.** -/
theorem bind {f : α → Activity σ β} (hf : ∀ a m, Q a m → Audited A S (f a) m) :
    ∀ {p : Activity σ α} {m : M}, Audited A Q p m → Audited A S (p.bind f) m
  | .done a, m, h => hf a m h
  | .act _ _, _, h => fun w =>
    let ⟨m', hact, hrest⟩ := h w
    ⟨m', hact, bind hf hrest⟩
  | .wait _ _ _, _, h =>
    let ⟨m', hwait, hrest⟩ := h
    ⟨m', hwait, bind hf hrest⟩

/-- A single act. -/
theorem step {f : World σ → World σ × α}
    (h : ∀ w, ∃ m', A.act w (f w).1 m m' ∧ Q (f w).2 m') : Audited A Q (.step f) m := h

/-- An act, and then another activity. -/
theorem step_bind {f : World σ → World σ × α} {g : α → Activity σ β}
    (h : ∀ w, ∃ m', A.act w (f w).1 m m' ∧ Audited A S (g (f w).2) m') :
    Audited A S ((Activity.step f).bind g) m := h

/-- A wait, and then another activity. -/
theorem await_bind {ready : World σ → Bool} {g : Unit → Activity σ β} {m' : M}
    (hwait : A.wait m m') (h : Audited A S (g ()) m') :
    Audited A S ((Activity.await ready).bind g) m := ⟨m', hwait, h⟩

/-- **A safe activity** whose acts and waits the books can bear: then they are still as they may be
when it ends. -/
theorem of_safe {own : World σ → World σ → Prop} {own_refl : ∀ w, own w w} {P : α → Prop}
    {I : M → Prop} (hact : ∀ v w m, own v w → I m → ∃ m', A.act v w m m' ∧ I m')
    (hwait : ∀ m, I m → ∃ m', A.wait m m' ∧ I m') :
    ∀ {p : Activity σ α} {w : World σ} {m : M}, Safe (.nothing own own_refl) P p w → I m →
      Audited A (fun a m => P a ∧ I m) p m
  | .done _, _, _, hp, hm => ⟨hp, hm⟩
  | .act update next, _, m, hp, hm => fun w => by
    obtain ⟨hown, hrest⟩ := hp w trivial
    obtain ⟨m', hbooks, hm'⟩ := hact w (update w) m hown hm
    exact ⟨m', hbooks, of_safe hact hwait hrest hm'⟩
  | .wait ready due next, w, m, hp, hm => by
    obtain ⟨m', hbooks, hm'⟩ := hwait m hm
    exact ⟨m', hbooks, of_safe hact hwait (hp.2 w trivial False.elim) hm'⟩

theorem mono {P : α → M → Prop} (hQ : ∀ a m, Q a m → P a m) :
    ∀ {p : Activity σ α} {m : M}, Audited A Q p m → Audited A P p m
  | .done a, m, h => hQ a m h
  | .act _ _, _, h => fun w =>
    let ⟨m', hact, hrest⟩ := h w
    ⟨m', hact, mono hQ hrest⟩
  | .wait _ _ _, _, h =>
    let ⟨m', hwait, hrest⟩ := h
    ⟨m', hwait, mono hQ hrest⟩

/-- **Books that say less**: what an audit knows, another may know in part. -/
theorem abridge {B : Audit σ N} {P : α → N → Prop} (f : M → N)
    (hact : ∀ v w m m', A.act v w m m' → B.act v w (f m) (f m'))
    (hwait : ∀ m m', A.wait m m' → B.wait (f m) (f m')) (hQ : ∀ a m, Q a m → P a (f m)) :
    ∀ {p : Activity σ α} {m : M}, Audited A Q p m → Audited B P p (f m)
  | .done a, m, h => hQ a m h
  | .act _ _, _, h => fun w =>
    let ⟨m', hbooks, hrest⟩ := h w
    ⟨f m', hact _ _ _ _ hbooks, abridge f hact hwait hQ hrest⟩
  | .wait _ _ _, _, h =>
    let ⟨m', hbooks, hrest⟩ := h
    ⟨f m', hwait _ _ hbooks, abridge f hact hwait hQ hrest⟩

/-! ## Steps -/

/-- **A step of an audited activity**: an act that the audit knows, or the end of a wait. -/
theorem of_step {p q : Activity σ α} {v w : World σ} (h : Audited A Q p m)
    (hstep : p.Step v q w) :
    ∃ m', (A.act v w m m' ∨ w = v ∧ A.wait m m') ∧ Audited A Q q m' := by
  cases hstep with
  | act update next =>
    obtain ⟨m', hact, hrest⟩ := h v
    exact ⟨m', Or.inl hact, hrest⟩
  | wake hready =>
    obtain ⟨m', hwait, hrest⟩ := h
    exact ⟨m', Or.inr ⟨rfl, hwait⟩, hrest⟩

/-- **What holds of the world and of the books** holds at the end, among others who keep it. -/
theorem leads {D : Drift σ} {J : World σ → M → Prop}
    (hact : ∀ v w m m', A.act v w m m' → J v m → J w m')
    (hwait : ∀ w m m', A.wait m m' → J w m → J w m') (hdrift : ∀ v w m, D.may v w → J v m → J w m) :
    ∀ {p : Activity σ α} {w : World σ} {m : M}, Audited A Q p m → J w m →
      Leads D (fun a w' => ∃ m', Q a m' ∧ J w' m') p w
  | .done _, _, m, h, hJ => fun _ hw => ⟨m, h, hdrift _ _ m hw hJ⟩
  | .act update next, _, m, h, hJ => fun w' hw => by
    obtain ⟨m', hbooks, hrest⟩ := h w'
    exact leads hact hwait hdrift hrest (hact _ _ _ _ hbooks (hdrift _ _ m hw hJ))
  | .wait ready due next, _, m, h, hJ => fun w' hw _ => by
    obtain ⟨m', hbooks, hrest⟩ := h
    exact leads hact hwait hdrift hrest (hwait _ _ _ hbooks (hdrift _ _ m hw hJ))

end Audited

end FederatedStorage.Schedule
