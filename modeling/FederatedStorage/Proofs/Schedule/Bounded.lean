import FederatedStorage.Proofs.Schedule.Rely

/-!
# Runs of bounded calls

A call within its bound does what the call does by itself, as far as it comes: its run is a run of the
call, with a look at the bound after each wait. It ends with the call, or it is given up in a scene of
the run, with the call wherever it is then. Where the call is attentive to what it waits for, it is
given up only if the bound says so: a wait of the call that was over is not taken for the bound's.

## Main statements

* `Runs.race_inv`, `Runs.run_inv`: a run of a bounded call is a run of the call.
-/

namespace FederatedStorage.Schedule

variable {σ α ε : Type} {moves : Scene σ ε → Scene σ ε → Prop} {s s' : Scene σ ε}
  {t : List (Scene σ ε)} {b : Bound} {operation : String} {R : Rely σ}

/-- **How a bounded call stands** that has come to a scene through others: where the call itself is, or
about to look at its bound after a wait, or given up. -/
inductive Bound.Stands (R : Rely σ) (b : Bound) (operation : String) (scenes : List (Scene σ ε))
    (now : World σ) : Activity σ (Except Failure α) → Activity σ (Except Failure α) → Prop
  | along {p : Activity σ (Except Failure α)} (hp : Safe R (fun _ => True) p now) :
      Stands R b operation scenes now p (b.race operation p)
  | looking {ready : World σ → Bool} {due : Option Nat} {next : Activity σ (Except Failure α)}
      (hp : Safe R (fun _ => True) (.wait ready due next) now)
      (hover : R.attentive → ready now = true ∨ b.interrupts now = true) :
      Stands R b operation scenes now (.wait ready due next)
        (.act id fun w =>
          if ready w then b.race operation next
          else .done (.error (b.interruption w operation)))
  | givenUp (p : Activity σ (Except Failure α)) {x : Scene σ ε} (hx : x ∈ scenes)
      (hstop : R.attentive → b.interrupts x.world = true) :
      Stands R b operation scenes now p (.done (.error (b.interruption x.world operation)))

theorem Bound.Stands.mono {scenes scenes' : List (Scene σ ε)} {now : World σ}
    (hsub : ∀ x ∈ scenes, x ∈ scenes') {p q : Activity σ (Except Failure α)}
    (h : b.Stands R operation scenes now p q) : b.Stands R operation scenes' now p q := by
  cases h with
  | along hp => exact .along hp
  | looking hp hover => exact .looking hp hover
  | givenUp p hx hstop => exact .givenUp p (hsub _ hx) hstop

/-- A bounded call stays where it stands while the others move. -/
theorem Bound.Stands.aside {scenes : List (Scene σ ε)} {v w : World σ}
    {p q : Activity σ (Except Failure α)} (hw : R.others v w)
    (h : b.Stands R operation scenes v p q) : b.Stands R operation scenes w p q := by
  cases h with
  | along hp => exact .along (hp.aside hw)
  | looking hp hover =>
    refine .looking (hp.aside hw) fun hR => ?_
    rcases hover hR with hready | hstop
    · exact Or.inl (hp.1 hR v w hw hready)
    · exact Or.inr (Rely.Lasts.interrupts hR b v w hw hstop)
  | givenUp p hx hstop => exact .givenUp p hx hstop

/-- A step of a bounded call is one of the call, or none of it. -/
theorem Bound.Stands.step {scenes : List (Scene σ ε)} {p q r : Activity σ (Except Failure α)}
    {w : World σ} (h : b.Stands R operation scenes s.world p q) (hs : s ∈ scenes)
    (hrefl : R.others s.world s.world) (hstep : q.Step s.world r w) :
    ∃ p' t', Runs moves p s t' p' (s.put w) ∧ b.Stands R operation scenes w p' r := by
  cases h with
  | givenUp p hx hstop => cases hstep
  | @looking ready due next hp hover =>
    cases hstep
    dsimp only
    by_cases hready : ready s.world = true
    · rw [if_pos hready]
      have hnext : Safe R (fun _ => True) next s.world := hp.2 s.world hrefl fun _ => hready
      exact ⟨next, _, .step (.wake hready) (.here next _), .along hnext⟩
    · rw [if_neg hready]
      exact ⟨_, [], .here _ s, .givenUp _ hs fun hR => (hover hR).resolve_left hready⟩
  | along hp =>
    cases p with
    | done a => cases hstep
    | act update next =>
      cases hstep
      exact ⟨_, _, .step (.act update next _) (.here _ _), .along (hp s.world hrefl).2⟩
    | wait ready due next =>
      cases hstep with
      | wake hover =>
        exact ⟨_, [], .here _ s, .looking hp fun _ => Bool.or_eq_true_iff.mp hover⟩

section

variable (hmoves : ∀ x y, moves x y → R.others y.world y.world → R.others x.world y.world)
  (hscenes : ∀ x ∈ s :: t, R.others x.world x.world)
include hmoves hscenes

/-- A bounded call that goes on from where it stands. -/
theorem Bound.Stands.runs {p q q' : Activity σ (Except Failure α)} (h : Runs moves q s t q' s')
    {scenes : List (Scene σ ε)} (hs : s ∈ scenes)
    (hq : b.Stands R operation scenes s.world p q) :
    ∃ p' t', Runs moves p s t' p' s' ∧ b.Stands R operation (scenes ++ t) s'.world p' q' := by
  induction h generalizing p scenes with
  | here q s => exact ⟨p, [], .here p s, by rwa [List.append_nil]⟩
  | @step q r q' s s' w t hstep hrest ih =>
    obtain ⟨hrefl, hscenes⟩ := List.forall_mem_cons.mp hscenes
    have hone : ∃ p1 t1, Runs moves p s t1 p1 (s.put w) ∧ b.Stands R operation scenes w p1 r :=
      hq.step hs hrefl hstep
    obtain ⟨p1, t1, hp1, hr⟩ := hone
    have hmem : s.put w ∈ scenes ++ [s.put w] := List.mem_append_right _ List.mem_cons_self
    obtain ⟨p2, t2, hp2, hq'⟩ :=
      ih hscenes hmem (hr.mono fun x hx => List.mem_append_left _ hx)
    rw [List.append_assoc] at hq'
    exact ⟨p2, _, hp1.trans hp2, hq'⟩
  | @aside q q' s s1 s' t hmove hrest ih =>
    obtain ⟨-, hscenes⟩ := List.forall_mem_cons.mp hscenes
    have hs1 : R.others s.world s1.world :=
      hmoves s s1 hmove (List.forall_mem_cons.mp hscenes).1
    have hmem : s1 ∈ scenes ++ [s1] := List.mem_append_right _ List.mem_cons_self
    obtain ⟨p2, t2, hp2, hq'⟩ :=
      ih hscenes hmem ((hq.aside hs1).mono fun x hx => List.mem_append_left _ hx)
    rw [List.append_assoc] at hq'
    exact ⟨p2, _, .aside hmove hp2, hq'⟩

/-- **A run of a call that has begun is a run of the call**, as far as the bound lets it come. -/
theorem Runs.race_inv {p q : Activity σ (Except Failure α)}
    (hp : Safe R (fun _ => True) p s.world) (h : Runs moves (b.race operation p) s t q s') :
    ∃ p' t', Runs moves p s t' p' s' ∧ b.Stands R operation (s :: t) s'.world p' q :=
  Bound.Stands.runs hmoves hscenes h (List.mem_singleton_self s) (.along hp)

/-- **A run of a bounded call is a run of the call**, which need not have begun. -/
theorem Runs.run_inv {p q : Activity σ (Except Failure α)}
    (hp : Safe R (fun _ => True) p s.world) (h : Runs moves (b.run operation p) s t q s') :
    ∃ p' t', Runs moves p s t' p' s' ∧
      (p' = p ∧ q = b.run operation p ∨ b.Stands R operation (s :: t) s'.world p' q) := by
  generalize hx : b.run operation p = x at h ⊢
  induction h with
  | here x s => exact ⟨p, [], .here p s, Or.inl ⟨rfl, rfl⟩⟩
  | @step x q r s s' w t hstep hrest ih =>
    subst hx
    cases hstep
    dsimp only at hrest
    obtain ⟨hrefl, hlater⟩ := List.forall_mem_cons.mp hscenes
    by_cases hcancelled : s.world.isCancelled b.token = true
    · -- the call is given up before it begins
      rw [if_pos hcancelled] at hrest
      obtain ⟨rfl, hbeside⟩ := hrest.of_done
      have hgiven : Failure.cancelled operation = b.interruption s.world operation :=
        (if_pos hcancelled).symm
      have hstop : b.interrupts s.world = true := by
        unfold Bound.interrupts
        rw [hcancelled, Bool.true_or]
      rw [hgiven]
      exact ⟨p, t, hbeside p, Or.inr (.givenUp p List.mem_cons_self fun _ => hstop)⟩
    · rw [if_neg hcancelled] at hrest
      obtain ⟨p', t', hp', hq⟩ := hrest.race_inv hmoves hlater hp
      exact ⟨p', t', hp', Or.inr (hq.mono fun x hx => List.mem_cons_of_mem s hx)⟩
  | @aside x q s s1 s' t hmove hrest ih =>
    obtain ⟨-, hlater⟩ := List.forall_mem_cons.mp hscenes
    have hs1 : R.others s.world s1.world := hmoves s s1 hmove (List.forall_mem_cons.mp hlater).1
    obtain ⟨p', t', hp', hq⟩ := ih hlater (hp.aside hs1) hx
    refine ⟨p', _, .aside hmove hp', hq.imp_right fun hq => ?_⟩
    exact hq.mono fun x hx => List.mem_cons_of_mem s hx

end

/-- A bounded call that has ended stands where the call has ended, or was given up. -/
theorem Bound.Stands.of_done {scenes : List (Scene σ ε)} {now : World σ}
    {p : Activity σ (Except Failure α)} {result : Except Failure α}
    (h : b.Stands R operation scenes now p (.done result)) :
    p = .done result ∨ ∃ x ∈ scenes, (R.attentive → b.interrupts x.world = true) ∧
      result = .error (b.interruption x.world operation) := by
  generalize hq : Activity.done result = q at h
  cases h with
  | along hp =>
    cases p with
    | done a =>
      cases hq
      exact Or.inl rfl
    | act update next => cases hq
    | wait ready due next => cases hq
  | looking hp hover => cases hq
  | givenUp p hx hstop =>
    cases hq
    exact Or.inr ⟨_, hx, hstop, rfl⟩

/-- A bounded call has ended once the call has. -/
theorem Bound.Stands.ended {scenes : List (Scene σ ε)} {now : World σ}
    {q : Activity σ (Except Failure α)} {result : Except Failure α}
    (h : b.Stands R operation scenes now (.done result) q) : ∃ given, q = .done given := by
  cases h with
  | along hp => exact ⟨result, rfl⟩
  | givenUp p hx hstop => exact ⟨_, rfl⟩

/-- A wait for what never comes does not end, and what the others do beside it they do beside any. -/
theorem Runs.of_never {due : Option Nat} {next : Activity σ α} {q : Activity σ α}
    (h : Runs moves (.wait (fun _ => false) due next) s t q s') :
    q = .wait (fun _ => false) due next ∧
      ∀ {β : Type} (p : Activity σ β), Runs moves p s t p s' := by
  generalize hp : Activity.wait (fun _ => false) due next = p at h ⊢
  induction h with
  | here p s => exact ⟨rfl, fun p => .here p s⟩
  | step hstep hrest ih =>
    subst hp
    cases hstep with
    | wake hready => cases hready
  | aside hmove hrest ih =>
    obtain ⟨hq, hothers⟩ := ih hp
    exact ⟨hq, fun p => .aside hmove (hothers p)⟩

end FederatedStorage.Schedule
