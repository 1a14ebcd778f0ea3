import FederatedStorage.Proofs.Schedule.Runs
import FederatedStorage.Schedule.Bound
import FederatedStorage.Schedule.Pool
import Mathlib.Data.List.Forall2

/-!
# When activities end

Time passes only while an activity waits, and never beyond the instant that the wait is due. Then the
instant at which an activity ends can be told from its tree: `Takes` says that it ends, when, and with
what, whatever the others do at each instant. Two activities side by side end when the later one does,
or when the first failure comes; a bounded call ends with the call or at its deadline, whichever is
earlier.

## Main statements

* `Takes.bind`, `Takes.both`, `Takes.all`, `Takes.race_ends`, `Takes.race_expires`: the rules.
* `Takes.ends`: an activity that takes some time ends in every prompt run.
-/

namespace FederatedStorage.Schedule

variable {σ α β γ ε : Type}

/-- **What stays as it is** while an activity runs, whoever acts and however much time passes. Nobody
cancels anything. -/
structure Surroundings (σ : Type) where
  keeps : World σ → World σ → Prop
  refl : ∀ w, keeps w w
  trans : ∀ {u v w}, keeps u v → keeps v w → keeps u w
  tick : ∀ (w : World σ) (n : Nat), keeps w { w with clock := n }
  cancelled : ∀ {v w}, keeps v w → w.cancelled = v.cancelled

/-- What the others may do at one instant. -/
def Surroundings.others (K : Surroundings σ) (v w : World σ) : Prop :=
  K.keeps v w ∧ w.clock = v.clock

theorem Surroundings.others_trans {K : Surroundings σ} {u v w : World σ} (h1 : K.others u v)
    (h2 : K.others v w) : K.others u w := ⟨K.trans h1.1 h2.1, h2.2.trans h1.2⟩

theorem Surroundings.others_refl {K : Surroundings σ} (w : World σ) : K.others w w :=
  ⟨K.refl w, rfl⟩

/-- **An activity ends with a property** of its result and of the world then. Its own acts are of one
kind and take no time, and each of its waits is over at an instant `n` that is known beforehand. -/
def Takes (K : Surroundings σ) (own : World σ → World σ → Prop) (Q : α → World σ → Prop) :
    Activity σ α → World σ → Prop
  | .done a, w => ∀ v, K.others w v → Q a v
  | .act update next, w => ∀ v, K.others w v →
    own v (update v) ∧ (update v).clock = v.clock ∧ Takes K own Q (next v) (update v)
  | .wait ready due next, w => ∃ n, w.clock ≤ n ∧ (w.clock < n → due = some n) ∧
    ∀ v, K.keeps w v → w.clock ≤ v.clock →
      (ready v = true ↔ n ≤ v.clock) ∧ (v.clock = n → Takes K own Q next v)

/-- A result of a kind at an instant. -/
def At (P : α → Prop) (e : Nat) (a : α) (w : World σ) : Prop := P a ∧ w.clock = e

namespace Takes

variable {K : Surroundings σ} {own : World σ → World σ → Prop} {Q : α → World σ → Prop}
  {S : β → World σ → Prop} {w w' : World σ}

/-! ## Rules -/

/-- What an activity takes it still takes after the others have acted at the same instant. -/
theorem aside {p : Activity σ α} (hw : K.others w w') (h : Takes K own Q p w) :
    Takes K own Q p w' := by
  cases p with
  | done a => exact fun v hv => h v (K.others_trans hw hv)
  | act update next => exact fun v hv => h v (K.others_trans hw hv)
  | wait ready due next =>
    obtain ⟨n, hn, hdue, hall⟩ := h
    rw [← hw.2] at hn hdue
    refine ⟨n, hn, hdue, fun v hv hle => hall v (K.trans hw.1 hv) ?_⟩
    rw [← hw.2]
    exact hle

theorem mono {P : α → World σ → Prop} (hQ : ∀ a w, Q a w → P a w) :
    ∀ {p : Activity σ α} {w : World σ}, Takes K own Q p w → Takes K own P p w
  | .done a, _, h => fun v hv => hQ a v (h v hv)
  | .act _ _, _, h => fun v hv => ⟨(h v hv).1, (h v hv).2.1, mono hQ (h v hv).2.2⟩
  | .wait _ _ _, _, h => by
    obtain ⟨n, hn, hdue, hall⟩ := h
    exact ⟨n, hn, hdue, fun v hv hle =>
      ⟨(hall v hv hle).1, fun hclock => mono hQ ((hall v hv hle).2 hclock)⟩⟩

/-- Acts of one kind are acts of any wider kind. -/
theorem wider {own' : World σ → World σ → Prop} (hown : ∀ v w, own v w → own' v w) :
    ∀ {p : Activity σ α} {w : World σ}, Takes K own Q p w → Takes K own' Q p w
  | .done _, _, h => h
  | .act _ _, _, h => fun v hv =>
    ⟨hown _ _ (h v hv).1, (h v hv).2.1, wider hown (h v hv).2.2⟩
  | .wait _ _ _, _, h => by
    obtain ⟨n, hn, hdue, hall⟩ := h
    exact ⟨n, hn, hdue, fun v hv hle =>
      ⟨(hall v hv hle).1, fun hclock => wider hown ((hall v hv hle).2 hclock)⟩⟩

/-- **One activity after the other.** -/
theorem bind {f : α → Activity σ β} (hf : ∀ a w, Q a w → Takes K own S (f a) w) :
    ∀ {p : Activity σ α} {w : World σ}, Takes K own Q p w → Takes K own S (p.bind f) w
  | .done a, w, h => hf a w (h w (K.others_refl w))
  | .act _ _, _, h => fun v hv => ⟨(h v hv).1, (h v hv).2.1, bind hf (h v hv).2.2⟩
  | .wait _ _ _, _, h => by
    obtain ⟨n, hn, hdue, hall⟩ := h
    exact ⟨n, hn, hdue, fun v hv hle =>
      ⟨(hall v hv hle).1, fun hclock => bind hf ((hall v hv hle).2 hclock)⟩⟩

theorem map {f : α → β} {p : Activity σ α} (hf : ∀ a v, Q a v → ∀ v', K.others v v' → S (f a) v')
    (h : Takes K own Q p w) : Takes K own S (p.map f) w :=
  bind (f := fun a => .done (f a)) hf h

theorem step {f : World σ → World σ × α}
    (h : ∀ v, K.others w v → own v (f v).1 ∧ (f v).1.clock = v.clock ∧
      ∀ v', K.others (f v).1 v' → Q (f v).2 v') : Takes K own Q (.step f) w := h

/-- An act, and then another activity. -/
theorem step_bind {f : World σ → World σ × α} {g : α → Activity σ β}
    (h : ∀ v, K.others w v → own v (f v).1 ∧ (f v).1.clock = v.clock ∧
      Takes K own S (g (f v).2) (f v).1) : Takes K own S ((Activity.step f).bind g) w := h

/-- A look at the world, and then another activity. -/
theorem look_bind {f : World σ → α} {g : α → Activity σ β} (hown : ∀ v, own v v)
    (h : ∀ v, K.others w v → Takes K own S (g (f v)) v) :
    Takes K own S ((Activity.look f).bind g) w := fun v hv => ⟨hown v, rfl, h v hv⟩

theorem follow {f : World σ → Activity σ α} (hown : ∀ v, own v v)
    (h : ∀ v, K.others w v → Takes K own Q (f v) v) : Takes K own Q (.follow f) w :=
  fun v hv => ⟨hown v, rfl, h v hv⟩

theorem waitUntil {n : Nat} (hn : w.clock ≤ n) :
    Takes K own (At (fun _ => True) n) (.waitUntil n) w := by
  refine ⟨n, hn, fun _ => rfl, fun v hv hle => ⟨decide_eq_true_iff, fun hclock v' hv' => ?_⟩⟩
  exact ⟨trivial, hv'.2.trans hclock⟩

/-- **An activity does not end before it begins.** -/
theorem clock_le {P : α → Prop} {e : Nat} : ∀ {p : Activity σ α} {w : World σ},
    Takes K own (At P e) p w → w.clock ≤ e
  | .done a, w, h => Nat.le_of_eq (h w (K.others_refl w)).2
  | .act update next, w, h => by
    obtain ⟨-, hclock, hrest⟩ := h w (K.others_refl w)
    have hle := clock_le hrest
    rwa [hclock] at hle
  | .wait ready due next, w, h => by
    obtain ⟨n, hn, -, hall⟩ := h
    have hrest := (hall { w with clock := n } (K.tick w n) hn).2 rfl
    exact Nat.le_trans hn (clock_le hrest)

/-! ## Bounds -/

section Bounds

variable {P : Except Failure α → Prop} {b : Bound} {operation : String} {d e : Nat}

theorem free_of_keeps {t : Token} (hw : K.keeps w w') (h : w.isCancelled t = false) :
    w'.isCancelled t = false := by
  unfold World.isCancelled at h ⊢
  rw [K.cancelled hw, h]

/-- A call that is not cancelled is given up from its deadline on. -/
theorem interrupts_iff (h : w.isCancelled b.token = false) :
    b.interrupts w = true ↔ ∃ d, b.deadline = some d ∧ d ≤ w.clock := by
  unfold Bound.interrupts Bound.hasPassed
  rw [h, Bool.false_or]
  cases b.deadline with
  | none => simp
  | some d => simp

/-- **A call that ends by its deadline** ends as it would without one. -/
theorem race_ends (hd : ∀ d, b.deadline = some d → e ≤ d) :
    ∀ {p : Activity σ (Except Failure α)} {w : World σ}, w.isCancelled b.token = false →
      Takes K K.keeps (At P e) p w → Takes K K.keeps (At P e) (b.race operation p) w
  | .done r, _, _, h => h
  | .act update next, w, hfree, h => fun v hv => by
    obtain ⟨hact, hclock, hrest⟩ := h v hv
    exact ⟨hact, hclock, race_ends hd (free_of_keeps (K.trans hv.1 hact) hfree) hrest⟩
  | .wait ready due next, w, hfree, h => by
    have hle := h.clock_le
    obtain ⟨n, hn, hdue, hall⟩ := h
    have hne : n ≤ e := ((hall { w with clock := n } (K.tick w n) hn).2 rfl).clock_le
    refine ⟨n, hn, fun hlt => ?_, fun v hv hwv => ⟨?_, fun hclock v' hv' => ?_⟩⟩
    · rw [hdue hlt]
      cases hb : b.deadline with
      | none => rfl
      | some d => exact congrArg some (Nat.min_eq_left (Nat.le_trans hne (hd d hb)))
    · -- the deadline does not come before the call goes on
      rw [Bool.or_eq_true, (hall v hv hwv).1, interrupts_iff (free_of_keeps hv hfree)]
      refine ⟨fun h => h.elim id ?_, Or.inl⟩
      rintro ⟨d, hb, hpassed⟩
      exact Nat.le_trans hne (Nat.le_trans (hd d hb) hpassed)
    · have hwv' : w.clock ≤ v'.clock := by rw [hv'.2]; exact hwv
      obtain ⟨hready, hrest⟩ := hall v' (K.trans hv hv'.1) hwv'
      have hclock' : v'.clock = n := hv'.2.trans hclock
      refine ⟨K.refl v', rfl, ?_⟩
      simp only [hready.mpr (Nat.le_of_eq hclock'.symm), if_true]
      exact race_ends hd (free_of_keeps (K.trans hv hv'.1) hfree) (hrest hclock')

/-- **A call that would end after its deadline** is given up then. -/
theorem race_expires (hd : b.deadline = some d) (hlate : d < e) :
    ∀ {p : Activity σ (Except Failure α)} {w : World σ}, w.isCancelled b.token = false →
      w.clock ≤ d → Takes K K.keeps (At P e) p w →
        Takes K K.keeps (At (· = .error (.timeout operation)) d) (b.race operation p) w
  | .done r, w, _, hw, h => absurd (h w (K.others_refl w)).2 (by omega)
  | .act update next, w, hfree, hw, h => fun v hv => by
    obtain ⟨hact, hclock, hrest⟩ := h v hv
    refine ⟨hact, hclock, race_expires hd hlate (free_of_keeps (K.trans hv.1 hact) hfree) ?_ hrest⟩
    rw [hclock, hv.2]
    exact hw
  | .wait ready due next, w, hfree, hw, h => by
    obtain ⟨n, hn, hdue, hall⟩ := h
    refine ⟨min n d, by omega, fun hlt => ?_, fun v hv hwv => ⟨?_, fun hclock v' hv' => ?_⟩⟩
    · rw [hdue (by omega), hd]
      rfl
    · rw [Bool.or_eq_true, (hall v hv hwv).1, interrupts_iff (free_of_keeps hv hfree), hd]
      simp only [Option.some.injEq, exists_eq_left']
      omega
    · have hfree' := free_of_keeps (K.trans hv hv'.1) hfree
      have hclock' : v'.clock = min n d := hv'.2.trans hclock
      obtain ⟨hready, hrest⟩ := hall v' (K.trans hv hv'.1) (by omega)
      refine ⟨K.refl v', rfl, ?_⟩
      by_cases hnd : n ≤ d
      · simp only [hready.mpr (by omega), if_true]
        have hle : v'.clock ≤ d := by omega
        exact race_expires hd hlate hfree' hle (hrest (by omega))
      · -- the call is still waiting at the deadline
        have hwaits : ready v' = false := by
          rw [← Bool.not_eq_true, hready]
          omega
        simp only [hwaits, Bool.false_eq_true, if_false]
        refine fun u hu => ⟨?_, hu.2.trans (hclock'.trans (by omega))⟩
        rw [Bound.interruption, hfree']
        rfl

theorem run_of_race {S : Except Failure α → World σ → Prop} {p : Activity σ (Except Failure α)}
    (hfree : w.isCancelled b.token = false)
    (h : ∀ v, K.others w v → Takes K K.keeps S (b.race operation p) v) :
    Takes K K.keeps S (b.run operation p) w := by
  refine follow K.refl fun v hv => ?_
  rw [if_neg (by rw [free_of_keeps hv.1 hfree]; exact Bool.false_ne_true)]
  exact h v hv

/-- A bounded call that ends by its deadline. -/
theorem run_ends {p : Activity σ (Except Failure α)} (hfree : w.isCancelled b.token = false)
    (hd : ∀ d, b.deadline = some d → e ≤ d) (h : Takes K K.keeps (At P e) p w) :
    Takes K K.keeps (At P e) (b.run operation p) w :=
  run_of_race hfree fun _ hv => race_ends hd (free_of_keeps hv.1 hfree) (h.aside hv)

/-- A bounded call that would end after its deadline. -/
theorem run_expires {p : Activity σ (Except Failure α)} (hfree : w.isCancelled b.token = false)
    (hd : b.deadline = some d) (hw : w.clock ≤ d) (hlate : d < e)
    (h : Takes K K.keeps (At P e) p w) :
    Takes K K.keeps (At (· = .error (.timeout operation)) d) (b.run operation p) w :=
  run_of_race hfree fun v hv =>
    race_expires hd hlate (free_of_keeps hv.1 hfree) (by rw [hv.2]; exact hw) (h.aside hv)

end Bounds

/-! ## Side by side -/

section Both

variable {P1 : Except ε α → Prop} {P2 : Except ε β → Prop} {e1 e2 : Nat}

/-- **How two activities side by side end**: both well, with the later one, or with a failure. -/
def BothAt (P1 : Except ε α → Prop) (e1 : Nat) (P2 : Except ε β → Prop) (e2 : Nat) :
    Except ε (α × β) → World σ → Prop
  | .ok (a, b), w => P1 (.ok a) ∧ P2 (.ok b) ∧ w.clock = max e1 e2
  | .error e, w => (P1 (.error e) ∧ w.clock = e1) ∨ (P2 (.error e) ∧ w.clock = e2)

/-- An activity is under way, or has ended well, maybe some time ago. -/
def Arrives (K : Surroundings σ) (P : Except ε β → Prop) (e : Nat) (q : Activity σ (Except ε β))
    (w : World σ) : Prop :=
  Takes K K.keeps (At P e) q w ∨ ∃ b, q = .done (.ok b) ∧ P (.ok b) ∧ e ≤ w.clock

theorem BothAt.aside {r : Except ε (α × β)} (hw : K.others w w') (h : BothAt P1 e1 P2 e2 r w) :
    BothAt P1 e1 P2 e2 r w' := by
  cases r with
  | ok ab => exact ⟨h.1, h.2.1, hw.2.trans h.2.2⟩
  | error e => exact h.imp (fun h => ⟨h.1, hw.2.trans h.2⟩) fun h => ⟨h.1, hw.2.trans h.2⟩

/-- A wait that is not over yet is still one later. -/
theorem wait_later {ready : World σ → Bool} {due : Option Nat} {next : Activity σ α} {n : Nat}
    {Q : α → World σ → Prop} (hdue : w.clock < n → due = some n)
    (hall : ∀ v, K.keeps w v → w.clock ≤ v.clock →
      (ready v = true ↔ n ≤ v.clock) ∧ (v.clock = n → Takes K own Q next v))
    (hkeeps : K.keeps w w') (hle : w.clock ≤ w'.clock) (hn : w'.clock ≤ n) :
    Takes K own Q (.wait ready due next) w' :=
  ⟨n, hn, fun hlt => hdue (Nat.lt_of_le_of_lt hle hlt), fun v hv hlv =>
    hall v (K.trans hkeeps hv) (Nat.le_trans hle hlv)⟩

theorem besideWaiting {ready : World σ → Bool} {due : Option Nat} {next : Activity σ (Except ε α)}
    {resume : Activity σ (Except ε β) → Activity σ (Except ε (α × β))}
    (hresume : ∀ q w, Takes K K.keeps (At P1 e1) next w → Arrives K P2 e2 q w →
      Takes K K.keeps (BothAt P1 e1 P2 e2) (resume q) w) :
    ∀ {q : Activity σ (Except ε β)} {w : World σ},
      Takes K K.keeps (At P1 e1) (.wait ready due next) w → Arrives K P2 e2 q w →
        Takes K K.keeps (BothAt P1 e1 P2 e2) (.besideWaiting ready due resume q) w
  | .done (.error e), w, _, hq => by
    rcases hq with hq | ⟨b, hb, -⟩
    · exact fun v hv => Or.inr (hq v hv)
    · cases hb
  | .done (.ok b), w, hp, hq => by
    have hb : P2 (.ok b) ∧ e2 ≤ w.clock := by
      rcases hq with hq | ⟨b', hb, hP, hle⟩
      · obtain ⟨hP, hclock⟩ := hq w (K.others_refl w)
        exact ⟨hP, Nat.le_of_eq hclock.symm⟩
      · cases hb
        exact ⟨hP, hle⟩
    obtain ⟨n, hn, hdue, hall⟩ := hp
    refine ⟨n, hn, hdue, fun v hv hle => ⟨(hall v hv hle).1, fun hclock => ?_⟩⟩
    exact hresume _ _ ((hall v hv hle).2 hclock) (Or.inr ⟨b, rfl, hb.1, Nat.le_trans hb.2 hle⟩)
  | .act update next2, w, hp, hq => by
    rcases hq with hq | ⟨b, hb, -⟩
    · intro v hv
      obtain ⟨hact, hclock, hrest⟩ := hq v hv
      have hbeside : K.others w (update v) := ⟨K.trans hv.1 hact, hclock.trans hv.2⟩
      exact ⟨hact, hclock, besideWaiting hresume (hp.aside hbeside) (Or.inl hrest)⟩
    · cases hb
  | .wait ready2 due2 next2, w, hp, hq => by
    rcases hq with hq | ⟨b, hb, -⟩
    · obtain ⟨n1, hn1, hdue1, hall1⟩ := hp
      obtain ⟨n2, hn2, hdue2, hall2⟩ := hq
      refine ⟨min n1 n2, by omega, fun hlt => ?_, fun v hv hle => ⟨?_, fun hclock v' hv' => ?_⟩⟩
      · rw [hdue1 (by omega), hdue2 (by omega)]
        rfl
      · rw [Bool.or_eq_true, (hall1 v hv hle).1, (hall2 v hv hle).1]
        omega
      · have hkeeps : K.keeps w v' := K.trans hv hv'.1
        have hclock' : v'.clock = min n1 n2 := hv'.2.trans hclock
        have hle' : w.clock ≤ v'.clock := by omega
        obtain ⟨hready1, hrest1⟩ := hall1 v' hkeeps hle'
        refine ⟨K.refl v', rfl, ?_⟩
        by_cases h12 : n1 ≤ n2
        · -- the first one goes on, and the second waits as before
          have hlater : v'.clock ≤ n2 := by omega
          simp only [hready1.mpr (by omega), if_true]
          exact hresume _ _ (hrest1 (by omega))
            (Or.inl (wait_later hdue2 hall2 hkeeps hle' hlater))
        · have hwaits : ready v' = false := by
            rw [← Bool.not_eq_true, hready1]
            omega
          have hlater : v'.clock ≤ n1 := by omega
          simp only [hwaits, Bool.false_eq_true, if_false]
          exact besideWaiting hresume (wait_later hdue1 hall1 hkeeps hle' hlater)
            (Or.inl ((hall2 v' hkeeps hle').2 (by omega)))
    · cases hb

/-- **Two activities side by side** end with the later one, or with a failure of one of them. -/
theorem both_of_arrives : ∀ {p : Activity σ (Except ε α)} {q : Activity σ (Except ε β)}
    {w : World σ}, Takes K K.keeps (At P1 e1) p w → Arrives K P2 e2 q w →
      Takes K K.keeps (BothAt P1 e1 P2 e2) (p.both q) w
  | .done (.error e), _, _, hp, _ => fun v hv => Or.inl (hp v hv)
  | .done (.ok a), q, w, hp, hq => by
    obtain ⟨ha, he1⟩ := hp w (K.others_refl w)
    rcases hq with hq | ⟨b, rfl, hb, hle⟩
    · have hle := hq.clock_le
      refine hq.map fun r v hr v' hv' => ?_
      obtain ⟨hP, hclock⟩ := hr
      cases r with
      | ok b => exact ⟨ha, hP, by rw [hv'.2, hclock]; omega⟩
      | error e => exact Or.inr ⟨hP, hv'.2.trans hclock⟩
    · exact fun v hv => ⟨ha, hb, by rw [hv.2]; omega⟩
  | .act update next, q, w, hp, hq => fun v hv => by
    obtain ⟨hact, hclock, hrest⟩ := hp v hv
    have hbeside : K.others w (update v) := ⟨K.trans hv.1 hact, hclock.trans hv.2⟩
    refine ⟨hact, hclock, both_of_arrives hrest ?_⟩
    rcases hq with hq | ⟨b, hb, hP, hle⟩
    · exact Or.inl (hq.aside hbeside)
    · exact Or.inr ⟨b, hb, hP, by rw [hbeside.2]; exact hle⟩
  | .wait ready due next, q, w, hp, hq =>
    besideWaiting (fun _ _ hp hq => both_of_arrives hp hq) hp hq

theorem both {p : Activity σ (Except ε α)} {q : Activity σ (Except ε β)}
    (hp : Takes K K.keeps (At P1 e1) p w) (hq : Takes K K.keeps (At P2 e2) q w) :
    Takes K K.keeps (BothAt P1 e1 P2 e2) (p.both q) w := both_of_arrives hp (Or.inl hq)

theorem pair {p : Activity σ α} {q : Activity σ β} {Q1 : α → Prop} {Q2 : β → Prop}
    (hp : Takes K K.keeps (At Q1 e1) p w) (hq : Takes K K.keeps (At Q2 e2) q w) :
    Takes K K.keeps (At (fun r => Q1 r.1 ∧ Q2 r.2) (max e1 e2)) (p.pair q) w := by
  -- `pair` is `both` of two that cannot fail
  have hboth : Takes K K.keeps (BothAt (ε := Empty) (fun r => ∀ a, r = .ok a → Q1 a) e1
      (fun r => ∀ b, r = .ok b → Q2 b) e2) ((p.map .ok).both (q.map .ok)) w := by
    refine both (hp.map fun a v ha v' hv' => ?_) (hq.map fun b v hb v' hv' => ?_)
    · exact ⟨fun x hx => by cases hx; exact ha.1, hv'.2.trans ha.2⟩
    · exact ⟨fun x hx => by cases hx; exact hb.1, hv'.2.trans hb.2⟩
  refine hboth.map fun r v hr v' hv' => ?_
  cases r with
  | ok ab => exact ⟨⟨hr.1 _ rfl, hr.2.1 _ rfl⟩, hv'.2.trans hr.2.2⟩
  | error e => exact e.elim

/-- **Activities side by side** end with the last one. -/
theorem all {Q : γ → α → Prop} {f : γ → Activity σ α} {e : γ → Nat} :
    ∀ {xs : List γ}, (∀ x ∈ xs, Takes K K.keeps (At (Q x) (e x)) (f x) w) →
      Takes K K.keeps (At (List.Forall₂ Q xs) ((xs.map e).foldr max w.clock)) (.all (xs.map f)) w
  | [], _ => fun _ hv => ⟨.nil, hv.2⟩
  | x :: xs, h => by
    have hrest := all fun y hy => h y (List.mem_cons_of_mem x hy)
    refine (pair (h x List.mem_cons_self) hrest).map fun r v hr v' hv' => ?_
    exact ⟨.cons hr.1.1 hr.1.2, hv'.2.trans hr.2⟩

end Both

end Takes

/-! ## Prompt runs -/

/-- **A prompt run** of an activity: it acts, the others act at the same instant, and time passes while
it waits, up to the instant that the wait is due. -/
inductive Prompt (K : Surroundings σ) :
    Activity σ α → World σ → Activity σ α → World σ → Prop
  | here (p : Activity σ α) (w : World σ) : Prompt K p w p w
  | step {p q r : Activity σ α} {w v w' : World σ} (hstep : p.Step w q v)
      (hrest : Prompt K q v r w') : Prompt K p w r w'
  | aside {p r : Activity σ α} {w v w' : World σ} (hothers : K.others w v)
      (hrest : Prompt K p v r w') : Prompt K p w r w'
  | pass {ready : World σ → Bool} {due : Option Nat} {next r : Activity σ α} {w w' : World σ}
      {n : Nat} (hready : ready w = false) (hle : w.clock ≤ n)
      (hdue : ∀ m, due = some m → n ≤ max w.clock m)
      (hrest : Prompt K (.wait ready due next) { w with clock := n } r w') :
      Prompt K (.wait ready due next) w r w'

namespace Prompt

variable {K : Surroundings σ}

theorem trans {p q r : Activity σ α} {u v w : World σ} (h1 : Prompt K p u q v)
    (h2 : Prompt K q v r w) : Prompt K p u r w := by
  induction h1 with
  | here p u => exact h2
  | step hstep _ ih => exact .step hstep (ih h2)
  | aside hothers _ ih => exact .aside hothers (ih h2)
  | pass hready hle hdue _ ih => exact .pass hready hle hdue (ih h2)

/-- What an activity does when it runs until it has to wait. -/
theorem of_advance (K : Surroundings σ) (p : Activity σ α) (w : World σ) (moved : Bool) :
    Prompt K p w (p.advance w moved).2.1 (p.advance w moved).1 := by
  induction p generalizing w moved with
  | done a => exact .here _ w
  | act update next ih => exact .step (.act update next w) (ih w (update w) true)
  | wait ready due next ih =>
    unfold Activity.advance
    by_cases hready : ready w = true
    · rw [if_pos hready]
      exact .step (.wake hready) (ih w true)
    · rw [if_neg hready]
      exact .here _ w

/-- An activity that has run until it has to wait is not ready. -/
theorem not_ready_of_advance {p next : Activity σ α} {w : World σ} {moved : Bool}
    {ready : World σ → Bool} {due : Option Nat}
    (h : (p.advance w moved).2.1 = .wait ready due next) :
    ready (p.advance w moved).1 = false := by
  induction p generalizing w moved with
  | done a => cases h
  | act update next ih => exact ih w h
  | wait ready2 due2 next2 ih =>
    unfold Activity.advance at h ⊢
    by_cases hready : ready2 w = true
    · rw [if_pos hready] at h ⊢
      exact ih h
    · rw [if_neg hready] at h ⊢
      cases h
      exact Bool.not_eq_true _ ▸ hready

theorem advance_ne_act (p : Activity σ α) (w : World σ) (moved : Bool)
    {update : World σ → World σ} {next : World σ → Activity σ α} :
    (p.advance w moved).2.1 ≠ .act update next := by
  induction p generalizing w moved with
  | done a => exact fun h => by cases h
  | act update2 next2 ih => exact ih w (update2 w) true
  | wait ready due next2 ih =>
    unfold Activity.advance
    by_cases hready : ready w = true
    · rw [if_pos hready]
      exact ih w true
    · rw [if_neg hready]
      exact fun h => by cases h

/-- A pool without a background has nothing to do. -/
theorem settle_nil (w : World σ) (fuel : Nat) :
    (Pool.mk w []).settle false fuel = (Pool.mk w [], false) := by
  cases fuel <;> rfl

/-- **What a pool runs in the foreground**, with nothing in the background, is a prompt run. -/
theorem of_run (K : Surroundings σ) {pool : Pool σ} {a : α} (fuel : Nat) {p : Activity σ α}
    {w : World σ} (h : (Pool.mk w []).run p fuel = (pool, some a)) :
    Prompt K p w (.done a) pool.world := by
  induction fuel generalizing p w with
  | zero => cases h
  | succ fuel ih =>
    have hadvance := of_advance K p w false
    unfold Pool.run at h
    cases hq : (p.advance w false).2.1 with
    | done x =>
      simp only [hq, Activity.result?] at h
      rw [hq] at hadvance
      cases h
      exact hadvance
    | act update next => exact absurd hq (advance_ne_act p w false)
    | wait ready due next =>
      simp only [hq, Activity.result?, settle_nil] at h
      rw [hq] at hadvance
      cases due with
      | none => cases h
      | some instant =>
        have hpass : Prompt K (.wait ready (some instant) next) _ (.done a) pool.world :=
          .pass (not_ready_of_advance hq) (Nat.le_max_left _ instant)
            (fun m hm => by cases hm; exact Nat.le_refl _) (ih h)
        exact hadvance.trans hpass

end Prompt

namespace Takes

variable {K : Surroundings σ} {own : World σ → World σ → Prop} {Q : α → World σ → Prop}
  {w w' : World σ} {p q : Activity σ α}

/-- What an activity takes it still takes along a prompt run. -/
theorem along (h : Prompt K p w q w') (hp : Takes K own Q p w) : Takes K own Q q w' := by
  induction h with
  | here p w => exact hp
  | @step p q r w v w' hstep _ ih =>
    refine ih ?_
    cases hstep with
    | act update next => exact (hp w (K.others_refl w)).2.2
    | wake hready =>
      obtain ⟨n, hn, -, hall⟩ := hp
      obtain ⟨hiff, hrest⟩ := hall w (K.refl w) (Nat.le_refl _)
      exact hrest (Nat.le_antisymm hn (hiff.mp hready))
  | aside hothers _ ih => exact ih (hp.aside hothers)
  | @pass ready due next r w w' n hready hle hdue _ ih =>
    obtain ⟨m, hm, hmdue, hall⟩ := hp
    have hlt : w.clock < m := by
      have hiff := (hall w (K.refl w) (Nat.le_refl _)).1
      rw [hready] at hiff
      simpa using hiff
    have hnm := hdue m (hmdue hlt)
    exact ih (wait_later hmdue hall (K.tick w n) hle (show n ≤ m by omega))

/-- An activity that takes some time can be run to its end. -/
theorem completes : ∀ {p : Activity σ α} {w : World σ}, Takes K own Q p w →
    ∃ a w', Prompt K p w (.done a) w'
  | .done a, w, _ => ⟨a, w, .here _ w⟩
  | .act update next, w, h => by
    obtain ⟨a, w', hrun⟩ := completes (h w (K.others_refl w)).2.2
    exact ⟨a, w', .step (.act update next w) hrun⟩
  | .wait ready due next, w, h => by
    obtain ⟨n, hn, hdue, hall⟩ := h
    let v : World σ := { w with clock := n }
    obtain ⟨hiff, hrest⟩ := hall v (K.tick w n) hn
    obtain ⟨a, w', hrun⟩ := completes (hrest rfl)
    have hwake : Prompt K (.wait ready due next) v (.done a) w' :=
      .step (.wake (hiff.mpr (Nat.le_refl n))) hrun
    rcases Nat.lt_or_eq_of_le hn with hlt | heq
    · have hwaits : ready w = false := by
        rw [← Bool.not_eq_true, (hall w (K.refl w) (Nat.le_refl _)).1]
        omega
      refine ⟨a, w', .pass hwaits hn (fun m hm => ?_) hwake⟩
      rw [hdue hlt] at hm
      cases hm
      exact Nat.le_max_right _ _
    · have hv : v = w := by
        show { w with clock := n } = w
        rw [← heq]
      exact ⟨a, w', hv ▸ hwake⟩

/-- **An activity that takes some time ends**, in every prompt run, and with what it takes. -/
theorem ends (hp : Takes K own Q p w) :
    (∀ q v, Prompt K p w q v → ∃ a w', Prompt K q v (.done a) w') ∧
      ∀ a w', Prompt K p w (.done a) w' → Q a w' :=
  ⟨fun _ _ h => (hp.along h).completes, fun _ _ h => hp.along h _ (K.others_refl _)⟩

end Takes

end FederatedStorage.Schedule
