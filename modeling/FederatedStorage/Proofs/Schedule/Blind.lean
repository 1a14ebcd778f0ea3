import FederatedStorage.Proofs.Schedule.Runs
import FederatedStorage.Schedule.Bound

/-!
# Activities that do not see everything

Two worlds may look alike to an activity because it does not look at what distinguishes them. Such an
activity makes the same steps in both, and leaves worlds behind that look alike again. So it does not
matter to it what others do to the part that it does not see.

## Main statements

* `Blind.bind`, `Blind.both`, `Blind.all`, `Blind.run`: the rules.
* `Blind.step`: a blind activity makes its steps in any world that looks alike.
-/

namespace FederatedStorage.Schedule

variable {σ α β γ ε : Type}

/-- **Which worlds look alike.** Everybody sees the clock and what is cancelled. -/
structure Likeness (σ : Type) where
  alike : World σ → World σ → Prop
  refl : ∀ w, alike w w
  clock : ∀ {v w}, alike v w → w.clock = v.clock
  cancelled : ∀ {v w}, alike v w → w.cancelled = v.cancelled

/-- **An activity does not see in which of the worlds it is** that look alike. -/
def Blind (L : Likeness σ) : Activity σ α → Prop
  | .done _ => True
  | .act update next =>
    (∀ v w, L.alike v w → L.alike (update v) (update w) ∧ next w = next v) ∧
      ∀ v, Blind L (next v)
  | .wait ready _ next => (∀ v w, L.alike v w → ready w = ready v) ∧ Blind L next

namespace Blind

variable {L : Likeness σ}

/-- **A step of a blind activity** is one in every world that looks alike. -/
theorem step {p q : Activity σ α} {u v w : World σ} (h : Blind L p) (huv : L.alike u v)
    (hstep : p.Step v q w) : ∃ x, p.Step u q x ∧ L.alike x w ∧ Blind L q := by
  cases hstep with
  | act update next =>
    obtain ⟨hacts, hrest⟩ := h
    obtain ⟨hupdate, hnext⟩ := hacts u v huv
    refine ⟨update u, ?_, hupdate, hrest v⟩
    rw [hnext]
    exact .act update next u
  | wake hready =>
    obtain ⟨hsees, hrest⟩ := h
    refine ⟨u, .wake ?_, huv, hrest⟩
    rw [← hsees u v huv]
    exact hready

/-! ## Rules -/

/-- What is done to the rest of an act is done whatever the act was. -/
theorem under {update : World σ → World σ} {next : World σ → Activity σ α}
    (f : Activity σ α → Activity σ β) (h : Blind L (.act update next))
    (hf : ∀ v, Blind L (f (next v))) : Blind L (.act update fun w => f (next w)) :=
  ⟨fun v w hvw => ⟨(h.1 v w hvw).1, congrArg f (h.1 v w hvw).2⟩, hf⟩

theorem bind {f : α → Activity σ β} (hf : ∀ a, Blind L (f a)) :
    ∀ {p : Activity σ α}, Blind L p → Blind L (p.bind f)
  | .done a, _ => hf a
  | .act _ _, h => under (fun p => p.bind f) h fun v => bind hf (h.2 v)
  | .wait _ _ _, h => ⟨h.1, bind hf h.2⟩

theorem map {f : α → β} {p : Activity σ α} (h : Blind L p) : Blind L (p.map f) :=
  bind (f := fun a => .done (f a)) (fun _ => trivial) h

theorem look {f : World σ → α} (h : ∀ v w, L.alike v w → f w = f v) : Blind L (.look f) :=
  ⟨fun v w hvw => ⟨hvw, congrArg Activity.done (h v w hvw)⟩, fun _ => trivial⟩

theorem follow {f : World σ → Activity σ α} (h : ∀ v w, L.alike v w → f w = f v)
    (hf : ∀ v, Blind L (f v)) : Blind L (.follow f) := ⟨fun v w hvw => ⟨hvw, h v w hvw⟩, hf⟩

/-- An atomic step finds the same in worlds that look alike. -/
theorem ofStep {f : World σ → World σ × α}
    (h : ∀ v w, L.alike v w → L.alike (f v).1 (f w).1 ∧ (f w).2 = (f v).2) : Blind L (.step f) :=
  ⟨fun v w hvw => ⟨(h v w hvw).1, congrArg Activity.done (h v w hvw).2⟩, fun _ => trivial⟩

theorem waitUntil (instant : Nat) : Blind L (.waitUntil instant) :=
  ⟨fun v w hvw => by simp only [L.clock hvw], trivial⟩

theorem sleep (ms : Nat) : Blind L (.sleep ms) :=
  follow (fun v w hvw => by simp only [L.clock hvw]) fun v => waitUntil (v.clock + ms)

/-- Who waits for what never comes looks at nothing. -/
theorem forever : Blind L (.await fun _ => false) := ⟨fun _ _ _ => rfl, trivial⟩

/-! ## Side by side -/

theorem besideWaiting {ready : World σ → Bool} {due : Option Nat}
    {resume : Activity σ (Except ε β) → Activity σ (Except ε (α × β))}
    (hready : ∀ v w, L.alike v w → ready w = ready v)
    (hresume : ∀ q, Blind L q → Blind L (resume q)) :
    ∀ {q : Activity σ (Except ε β)}, Blind L q → Blind L (.besideWaiting ready due resume q)
  | .done (.error _), _ => trivial
  | .done (.ok b), _ => ⟨hready, hresume (.done (.ok b)) trivial⟩
  | .act _ _, h =>
    under (Activity.besideWaiting ready due resume) h fun v =>
      besideWaiting hready hresume (h.2 v)
  | .wait ready2 due2 next, h => by
    refine ⟨fun v w hvw => ?_, fun v w hvw => ⟨hvw, ?_⟩, fun v => ?_⟩
    · simp only [hready v w hvw, h.1 v w hvw]
    · simp only [hready v w hvw]
    · -- whichever of the two goes on
      dsimp only
      split
      · exact hresume (.wait ready2 due2 next) h
      · exact besideWaiting hready hresume h.2

/-- **Two activities side by side.** -/
theorem both : ∀ {p : Activity σ (Except ε α)} {q : Activity σ (Except ε β)}, Blind L p →
    Blind L q → Blind L (p.both q)
  | .done (.error _), _, _, _ => trivial
  | .done (.ok _), _, _, hq => hq.map
  | .act _ _, q, hp, hq => under (fun p => p.both q) hp fun v => both (hp.2 v) hq
  | .wait _ _ _, _, hp, hq => besideWaiting hp.1 (fun _ hq => both hp.2 hq) hq

theorem pair {p : Activity σ α} {q : Activity σ β} (hp : Blind L p) (hq : Blind L q) :
    Blind L (p.pair q) := (both hp.map hq.map).map

/-- **Activities side by side.** -/
theorem all : ∀ {ps : List (Activity σ α)}, (∀ p ∈ ps, Blind L p) → Blind L (.all ps)
  | [], _ => trivial
  | p :: ps, h => by
    obtain ⟨hp, hps⟩ := List.forall_mem_cons.mp h
    exact (pair hp (all hps)).map

/-! ## Bounds -/

theorem isCancelled_eq {v w : World σ} (h : L.alike v w) (t : Token) :
    w.isCancelled t = v.isCancelled t := by
  unfold World.isCancelled
  rw [L.cancelled h]

variable {b : Bound} {operation : String} {p : Activity σ (Except Failure α)}

/-- A bound looks only at the clock and at what is cancelled. -/
theorem interrupts_eq {v w : World σ} (h : L.alike v w) : b.interrupts w = b.interrupts v := by
  unfold Bound.interrupts Bound.hasPassed
  rw [isCancelled_eq h, L.clock h]

theorem interruption_eq {v w : World σ} (h : L.alike v w) :
    b.interruption w operation = b.interruption v operation := by
  unfold Bound.interruption
  rw [isCancelled_eq h]

/-- A call that has begun. -/
theorem race : ∀ {p : Activity σ (Except Failure α)}, Blind L p → Blind L (b.race operation p)
  | .done _, _ => trivial
  | .act _ _, h => under (b.race operation) h fun v => race (h.2 v)
  | .wait ready due next, h => by
    refine ⟨fun v w hvw => ?_, fun v w hvw => ⟨hvw, ?_⟩, fun v => ?_⟩
    · simp only [h.1 v w hvw, interrupts_eq hvw]
    · simp only [h.1 v w hvw, interruption_eq hvw]
    · dsimp only
      split
      · exact race h.2
      · trivial

/-- **A call within its bound.** -/
theorem run (h : Blind L p) : Blind L (b.run operation p) := by
  refine follow (fun v w hvw => by simp only [isCancelled_eq hvw]) fun v => ?_
  split
  · trivial
  · exact h.race

end Blind

end FederatedStorage.Schedule
