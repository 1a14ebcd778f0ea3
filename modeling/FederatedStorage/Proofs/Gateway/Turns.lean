import FederatedStorage.Proofs.Gateway.Alike
import FederatedStorage.Proofs.Gateway.Cancelled

/-!
# Passes that take turns

Any number of passes are asked for, and each goes on one step at a time: it takes a ticket, waits for
its turn, does what a pass does, gives its turn away and is counted. Whoever has a turn holds the
lock, and tickets are never issued twice, so no two passes have their turn at once.

## Main statements

* `Stage.step_iff`: a pass makes the steps of its activity.
* `Orderly.moves`: whoever has a turn holds the lock.
* `Orderly.alone`: at most one pass has its turn.
* `Recorded.perm`: the order of the turns names every pass once.
-/

namespace FederatedStorage.Deployment

open Schedule Gateway

variable {ι : Type} {v w : World Deployment}

/-! ## The stages of a pass -/

/-- The lock is as it was. -/
def SameLock (v w : World Deployment) : Prop := w.state.lock = v.state.lock

/-- Nothing to count on, and acts that leave the lock alone. -/
def unlocking : Rely Deployment := .nothing SameLock fun _ => rfl

namespace PassKind

/-- **What a pass does in its turn.** -/
def body (b : Bound) : (k : PassKind) → Work k.Result
  | whole => (ask now).bind fun started => loadClusters.bind fun
    | .error failure => .done (.error failure)
    | .ok clusters => (syncResources b).bind (finish (started, clusters))
  | resources => syncResources b

/-- The gateway once a pass is counted. -/
def count (g : Gateway) : (k : PassKind) → k.Result → Gateway
  | whole, result => g.observe "reload" result
  | resources, report =>
    g.refreshSizes.observe "resync_all" (.ok report : Except Failure ResourceSyncReport)

/-- Counting touches only the metrics. -/
theorem exists_count_eq (g : Gateway) (k : PassKind) (result : k.Result) :
    ∃ metrics, k.count g result = { g with metrics := metrics } := by
  cases k <;> exact ⟨_, rfl⟩

theorem count_alike (v : World Deployment) (k : PassKind) (result : k.Result) :
    Alike v (v.modify fun d => { d with gateway := k.count d.gateway result }) := by
  obtain ⟨metrics, hcount⟩ := exists_count_eq v.state.gateway k result
  refine ⟨v.state.lock, metrics, ?_⟩
  exact congrArg (fun g => v.modify fun d => { d with gateway := g }) hcount

/-- Counts a pass. -/
def note (k : PassKind) (result : k.Result) : Work k.Result :=
  onGateway fun g => (k.count g result, result)

theorem asked_eq (b : Bound) (k : PassKind) : k.asked b = (alone (k.body b)).bind k.note := by
  cases k with
  | whole =>
    refine congrArg (fun p : Work (Except Failure PassReport) => (alone p).bind (note .whole)) ?_
    refine congrArg (Activity.bind _) (funext fun started => congrArg (Activity.bind _) ?_)
    funext loaded
    cases loaded <;> rfl
  | resources => rfl

theorem body_blind (b : Bound) (k : PassKind) : Blind undressed (k.body b) := by
  cases k with
  | whole =>
    refine Blind.bind (fun started => ?_) (ask_blind fun _ _ _ => rfl)
    refine Blind.bind (fun loaded => ?_) loadClusters_blind
    cases loaded with
    | error failure => trivial
    | ok clusters => exact Blind.bind (fun r => finish_blind _ r) syncResources_blind
  | resources => exact syncResources_blind

theorem syncResources_unlocking {b : Bound} :
    Safe unlocking (fun _ => True) (syncResources b) w := by
  refine Safe.bind (fun opened _ _ => ?_) (Safe.look (Q := fun _ => True) fun _ _ => trivial)
  refine Safe.bind (fun inventories _ _ => ?_) (gather_safe (fun _ _ _ _ _ _ _ => rfl) opened)
  exact Safe.step fun _ _ => ⟨rfl, trivial⟩

/-- **In its turn** a pass leaves the lock alone. -/
theorem body_unlocking (b : Bound) (k : PassKind) :
    Safe unlocking (fun _ => True) (k.body b) w := by
  cases k with
  | whole =>
    refine Safe.bind (fun started _ _ => ?_) (Safe.look (Q := fun _ => True) fun _ _ => trivial)
    refine Safe.bind (Q := fun _ => True) (fun loaded _ _ => ?_) (Safe.step fun v _ => ?_)
    · cases loaded with
      | error failure => trivial
      | ok clusters =>
        refine Safe.bind (fun r _ _ => ?_) syncResources_unlocking
        exact Safe.step fun _ _ => ⟨rfl, trivial⟩
    · cases h : v.state.source.load <;> simp only [h] <;> exact ⟨rfl, trivial⟩
  | resources => exact syncResources_unlocking

end PassKind

/-- **How far a pass has come.** -/
inductive Stage (k : PassKind)
  | asked
  | queued (ticket : Nat)
  /-- The pass has its turn, and has that much left to do in it. -/
  | inside (ticket : Nat) (rest : Work k.Result)
  /-- The pass has given its turn away. -/
  | leaving (result : k.Result)
  | ended (result : k.Result)

namespace Stage

variable {k : PassKind} {b : Bound} {st st' : Stage k}

/-- What is left to do for a pass. -/
def rest (b : Bound) : Stage k → Work k.Result
  | asked => k.asked b
  | queued ticket =>
    ((Activity.await fun w => w.state.lock.holder == some ticket).bind fun _ =>
      (k.body b).bind PassKind.leave).bind k.note
  | inside _ rest => (rest.bind PassKind.leave).bind k.note
  | leaving result => k.note result
  | ended result => .done result

/-- The ticket of a pass that waits for its turn, or has it. -/
def ticket? : Stage k → Option Nat
  | queued ticket => some ticket
  | inside ticket _ => some ticket
  | _ => none

/-- The ticket of a pass that has its turn. -/
def turn? : Stage k → Option Nat
  | inside ticket _ => some ticket
  | _ => none

/-- What a pass reports once it has given its turn away. -/
def result? : Stage k → Option k.Result
  | leaving result => some result
  | ended result => some result
  | _ => none

/-- Whether a pass has had its turn, or has it. -/
def hasTurned : Stage k → Bool
  | asked => false
  | queued _ => false
  | _ => true

/-- **A step of a pass.** -/
inductive Step (b : Bound) (v : World Deployment) :
    Stage k → World Deployment → Stage k → Prop
  | enter : Step b v asked (v.modify fun d => { d with lock := d.lock.enter.1 })
      (queued v.state.lock.enter.2)
  | acquire {ticket : Nat} (h : v.state.lock.holder = some ticket) :
    Step b v (queued ticket) v (inside ticket (k.body b))
  | work {w : World Deployment} {ticket : Nat} {p q : Work k.Result} (h : p.Step v q w) :
    Step b v (inside ticket p) w (inside ticket q)
  | leave (ticket : Nat) (result : k.Result) :
    Step b v (inside ticket (.done result)) (v.modify fun d => { d with lock := d.lock.leave })
      (leaving result)
  | note (result : k.Result) :
    Step b v (leaving result)
      (v.modify fun d => { d with gateway := k.count d.gateway result }) (ended result)

theorem Step.rest (h : Step b v st w st') : (st.rest b).Step v (st'.rest b) w := by
  cases h with
  | enter =>
    show (k.asked b).Step v _ _
    rw [PassKind.asked_eq]
    exact .act _ _ v
  | acquire h => exact .wake (by rw [h]; exact beq_self_eq_true _)
  | work h => exact (h.bind PassKind.leave).bind k.note
  | leave ticket result => exact .act _ _ v
  | note result => exact .act _ _ v

/-- **A pass makes the steps of its activity**, and no others. -/
theorem step_iff {q : Work k.Result} :
    (st.rest b).Step v q w ↔ ∃ st', q = st'.rest b ∧ Step b v st w st' := by
  refine ⟨fun h => ?_, fun ⟨st', hq, h⟩ => hq ▸ h.rest⟩
  cases st with
  | asked =>
    have hasked : (k.asked b).Step v q w := h
    rw [PassKind.asked_eq] at hasked
    cases hasked
    exact ⟨queued _, rfl, .enter⟩
  | queued ticket =>
    cases h with
    | wake hready => exact ⟨inside ticket (k.body b), rfl, .acquire (beq_iff_eq.mp hready)⟩
  | inside ticket p =>
    rcases h.bind_inv with ⟨r, hr, hnote⟩ | ⟨r, rfl, hfirst⟩
    · cases p <;> cases hr
    · rcases hfirst.bind_inv with ⟨result, rfl, hleave⟩ | ⟨p', rfl, hwork⟩
      · cases hleave
        exact ⟨leaving result, rfl, .leave ticket result⟩
      · exact ⟨inside ticket p', rfl, .work hwork⟩
  | leaving result =>
    cases h
    exact ⟨ended result, rfl, .note result⟩
  | ended result => cases h

/-- **Outside its turn** a pass touches only the lock and the metrics. -/
theorem Step.alike (h : Step b v st w st') :
    Alike v w ∨ ∃ ticket p q, st = inside ticket p ∧ st' = inside ticket q ∧ p.Step v q w := by
  cases h with
  | enter => exact Or.inl ⟨_, v.state.gateway.metrics, rfl⟩
  | acquire h => exact Or.inl ⟨v.state.lock, v.state.gateway.metrics, rfl⟩
  | work h => exact Or.inr ⟨_, _, _, rfl, rfl, h⟩
  | leave ticket result => exact Or.inl ⟨_, v.state.gateway.metrics, rfl⟩
  | note result => exact Or.inl (PassKind.count_alike v k result)

end Stage

/-! ## Many passes -/

/-- A pass that is asked for. -/
structure Asked where
  kind : PassKind
  bound : Bound

/-- What is done for it. -/
def Asked.work (a : Asked) : Work a.kind.Result := a.kind.asked a.bound

/-- A pass that is asked for, and how far it has come. -/
structure Passer where
  asked : Asked
  stage : Stage asked.kind

/-- What a pass reports. -/
structure Reported where
  kind : PassKind
  result : kind.Result

namespace Passer

/-- The same pass at another stage. -/
def goOn (p : Passer) (st : Stage p.asked.kind) : Passer := ⟨p.asked, st⟩

/-- What the pass reports once it has given its turn away. -/
def reported? (p : Passer) : Option Reported := p.stage.result?.map fun r => ⟨p.asked.kind, r⟩

end Passer

/-- **All passes that are asked for**, who has had a turn, and how the rest of the world changed. -/
structure Passes (ι : Type) where
  passers : List Passer
  /-- The passes that have had their turn, or have it, in the order of their turns. -/
  order : List Nat
  changes : List ι

namespace Passes

/-- Nobody has begun. -/
def new (asked : List Asked) : Passes ι := ⟨asked.map fun a => ⟨a, .asked⟩, [], []⟩

def reported? (s : Passes ι) (i : Nat) : Option Reported := s.passers[i]?.bind Passer.reported?

/-- The passes after one of them has made a step. -/
def goOn (s : Passes ι) (i : Nat) (p : Passer) (st : Stage p.asked.kind) : Passes ι :=
  ⟨s.passers.set i (p.goOn st),
    if st.hasTurned && !p.stage.hasTurned then s.order ++ [i] else s.order, s.changes⟩

end Passes

/-- **A move**: some pass makes a step, or the rest of the world changes. -/
inductive PassMoves (env : ι → World Deployment → World Deployment → Prop) :
    Scene Deployment (Passes ι) → Scene Deployment (Passes ι) → Prop
  | pass {x : Scene Deployment (Passes ι)} {i : Nat} {p : Passer} {st : Stage p.asked.kind}
      {w : World Deployment} (hi : x.others.passers[i]? = some p)
      (hstep : Stage.Step p.asked.bound x.world p.stage w st) :
      PassMoves env x ⟨w, x.others.goOn i p st⟩
  | change {x : Scene Deployment (Passes ι)} {c : ι} {w : World Deployment}
      (h : env c x.world w) :
      PassMoves env x ⟨w, { x.others with changes := x.others.changes ++ [c] }⟩

/-! ## Turns -/

section Turns

variable {env : ι → World Deployment → World Deployment → Prop} {asked : List Asked}
  {x y : Scene Deployment (Passes ι)} {i j : Nat} {p q : Passer}

/-- Who stands where after a step of one pass. -/
theorem Passes.goOn_cases {s : Passes ι} {st : Stage p.asked.kind}
    (h : (s.goOn i p st).passers[j]? = some q) :
    j = i ∧ q = p.goOn st ∨ j ≠ i ∧ s.passers[j]? = some q := by
  unfold Passes.goOn at h
  rw [List.getElem?_set] at h
  by_cases hij : i = j
  · rw [if_pos hij] at h
    split at h
    · exact Or.inl ⟨hij.symm, (Option.some.inj h).symm⟩
    · cases h
  · rw [if_neg hij] at h
    exact Or.inr ⟨fun hji => hij hji.symm, h⟩

/-- What is left to do in a turn leaves the lock alone, and does not look at it. -/
def Passer.Fits (p : Passer) : Prop :=
  ∀ ticket rest, p.stage = .inside ticket rest →
    Blind undressed rest ∧ ∀ w, Safe unlocking (fun _ => True) rest w

/-- **Whoever has a turn holds the lock**, and no ticket is issued twice. -/
structure Orderly (x : Scene Deployment (Passes ι)) : Prop where
  holds : ∀ (i : Nat) (p : Passer) (ticket : Nat), x.others.passers[i]? = some p →
    p.stage.turn? = some ticket → x.world.state.lock.holder = some ticket
  issued : ∀ (i : Nat) (p : Passer) (ticket : Nat), x.others.passers[i]? = some p →
    p.stage.ticket? = some ticket → ticket < x.world.state.lock.nextTicket
  distinct : ∀ (i j : Nat) (p q : Passer) (ticket : Nat), x.others.passers[i]? = some p →
    x.others.passers[j]? = some q → p.stage.ticket? = some ticket →
      q.stage.ticket? = some ticket → i = j
  fits : ∀ (i : Nat) (p : Passer), x.others.passers[i]? = some p → p.Fits

namespace Orderly

theorem ticket?_of_turn? {k : PassKind} {st : Stage k} {ticket : Nat}
    (h : st.turn? = some ticket) : st.ticket? = some ticket := by
  cases st <;> first | exact h | cases h

/-- **At most one pass has its turn.** -/
theorem alone (h : Orderly x) {ticket ticket' : Nat} (hi : x.others.passers[i]? = some p)
    (hj : x.others.passers[j]? = some q) (hp : p.stage.turn? = some ticket)
    (hq : q.stage.turn? = some ticket') : i = j := by
  have hsame : ticket = ticket' :=
    Option.some.inj ((h.holds i p ticket hi hp).symm.trans (h.holds j q ticket' hj hq))
  subst hsame
  exact h.distinct i j p q ticket hi hj (ticket?_of_turn? hp) (ticket?_of_turn? hq)

/-- A step of one pass keeps the order if its ticket is its own, and if no other turn suffers. -/
theorem goOn (h : Orderly x) {st : Stage p.asked.kind} {w : World Deployment}
    (hi : x.others.passers[i]? = some p)
    (hothers : ∀ j q ticket, j ≠ i → x.others.passers[j]? = some q →
      q.stage.turn? = some ticket → w.state.lock.holder = some ticket)
    (hturn : ∀ ticket, st.turn? = some ticket → w.state.lock.holder = some ticket)
    (hnext : x.world.state.lock.nextTicket ≤ w.state.lock.nextTicket)
    (hticket : ∀ ticket, st.ticket? = some ticket → p.stage.ticket? = some ticket ∨
      x.world.state.lock.nextTicket ≤ ticket ∧ ticket < w.state.lock.nextTicket)
    (hfits : (p.goOn st).Fits) : Orderly ⟨w, x.others.goOn i p st⟩ := by
  -- a ticket of the pass that goes on is not that of another
  have hown : ∀ j q ticket, j ≠ i → x.others.passers[j]? = some q →
      q.stage.ticket? = some ticket → st.ticket? = some ticket → False := by
    intro j q ticket hji hj hq hst
    rcases hticket ticket hst with hold | ⟨hnew, -⟩
    · exact hji (h.distinct j i q p ticket hj hi hq hold)
    · exact Nat.lt_irrefl _ (Nat.lt_of_lt_of_le (h.issued j q ticket hj hq) hnew)
  refine ⟨fun j q ticket hj hq => ?_, fun j q ticket hj hq => ?_,
    fun j l q r ticket hj hl hq hr => ?_, fun j q hj => ?_⟩
  · rcases Passes.goOn_cases hj with ⟨rfl, rfl⟩ | ⟨hji, hj⟩
    · exact hturn ticket hq
    · exact hothers j q ticket hji hj hq
  · rcases Passes.goOn_cases hj with ⟨rfl, rfl⟩ | ⟨hji, hj⟩
    · rcases hticket ticket hq with hold | ⟨-, hnew⟩
      · exact Nat.lt_of_lt_of_le (h.issued j p ticket hi hold) hnext
      · exact hnew
    · exact Nat.lt_of_lt_of_le (h.issued j q ticket hj hq) hnext
  · rcases Passes.goOn_cases hj with ⟨hji, rfl⟩ | ⟨hji, hj'⟩
    · rcases Passes.goOn_cases hl with ⟨hli, -⟩ | ⟨hli, hl'⟩
      · exact hji.trans hli.symm
      · exact (hown l r ticket hli hl' hr hq).elim
    · rcases Passes.goOn_cases hl with ⟨-, rfl⟩ | ⟨-, hl'⟩
      · exact (hown j q ticket hji hj' hq hr).elim
      · exact h.distinct j l q r ticket hj' hl' hq hr
  · rcases Passes.goOn_cases hj with ⟨rfl, rfl⟩ | ⟨-, hj⟩
    · exact hfits
    · exact h.fits j q hj

/-- Nobody who waits for a turn or has had it does anything in a turn. -/
theorem fits_of_turn? {st : Stage p.asked.kind} (h : st.turn? = none) : (p.goOn st).Fits := by
  intro ticket rest hst
  rw [show st = .inside ticket rest from hst] at h
  cases h

theorem enter_holder {l : PassLock} {ticket : Nat} (h : l.holder = some ticket) :
    l.enter.1.holder = some ticket := by
  unfold PassLock.enter
  rw [h]

theorem enter_next (l : PassLock) :
    l.enter.2 = l.nextTicket ∧ l.enter.1.nextTicket = l.nextTicket + 1 := by
  unfold PassLock.enter
  cases l.holder <;> exact ⟨rfl, rfl⟩

theorem leave_next (l : PassLock) : l.leave.nextTicket = l.nextTicket := by
  unfold PassLock.leave
  cases l.queue <;> rfl

/-- **A step of a pass keeps the order.** -/
theorem step {st : Stage p.asked.kind} {w : World Deployment} (h : Orderly x)
    (hi : x.others.passers[i]? = some p)
    (hstep : Stage.Step p.asked.bound x.world p.stage w st) :
    Orderly ⟨w, x.others.goOn i p st⟩ := by
  have hsame : ∀ j q ticket, j ≠ i → x.others.passers[j]? = some q →
      q.stage.turn? = some ticket → x.world.state.lock.holder = some ticket :=
    fun j q ticket _ hj hq => h.holds j q ticket hj hq
  generalize hstage : p.stage = before at hstep
  cases hstep with
  | enter =>
    obtain ⟨hown, hnext⟩ := enter_next x.world.state.lock
    refine h.goOn hi (fun j q ticket hji hj hq => enter_holder (hsame j q ticket hji hj hq))
      (fun ticket hst => ?_) ?_ (fun ticket hst => Or.inr ?_) (fits_of_turn? rfl)
    · cases hst
    · exact Nat.le_trans (Nat.le_succ _) (Nat.le_of_eq hnext.symm)
    · have hticket : x.world.state.lock.enter.2 = ticket := Option.some.inj hst
      rw [← hticket, hown]
      refine ⟨Nat.le_refl _, ?_⟩
      exact Nat.lt_of_lt_of_eq (Nat.lt_succ_self _) hnext.symm
  | acquire hholder =>
    refine h.goOn hi hsame (fun ticket hst => ?_) (Nat.le_refl _) (fun ticket hst => Or.inl ?_) ?_
    · rw [← hst]
      exact hholder
    · rw [hstage]
      exact hst
    · intro ticket rest hst
      cases hst
      exact ⟨PassKind.body_blind _ _, fun w => PassKind.body_unlocking _ _⟩
  | @work w ticket rest rest' hwork =>
    obtain ⟨hblind, hsafe⟩ := h.fits i p hi ticket rest hstage
    obtain ⟨hlock, hrest⟩ := (hsafe x.world).of_step trivial hwork
    have hlock : w.state.lock = x.world.state.lock := hlock
    refine h.goOn hi ?_ (fun t hst => ?_) ?_ (fun t hst => Or.inl ?_) ?_
    · rw [hlock]
      exact hsame
    · rw [hlock]
      exact h.holds i p t hi (hstage ▸ hst)
    · exact Nat.le_of_eq (congrArg PassLock.nextTicket hlock.symm)
    · rw [hstage]
      exact hst
    · intro t r hst
      cases hst
      obtain ⟨-, -, -, hblind'⟩ := hblind.step (undressed.refl x.world) hwork
      exact ⟨hblind', fun w' => hrest.aside trivial⟩
  | leave ticket result =>
    -- the others have no turn to lose
    have hmine : p.stage.turn? = some ticket := hstage ▸ rfl
    refine h.goOn hi (fun j q t hji hj hq => absurd (h.alone hj hi hq hmine) hji)
      (fun t hst => ?_) (Nat.le_of_eq (leave_next _).symm) (fun t hst => ?_) (fits_of_turn? rfl)
    · cases hst
    · cases hst
  | note result =>
    refine h.goOn hi hsame (fun t hst => ?_) (Nat.le_refl _) (fun t hst => ?_) (fits_of_turn? rfl)
    · cases hst
    · cases hst

/-- **Passes take turns**, as long as nobody else touches the lock. -/
theorem moves (henv : ∀ c v w, env c v w → SameLock v w) (h : Orderly x)
    (hmove : PassMoves env x y) : Orderly y := by
  cases hmove with
  | pass hi hstep => exact h.step hi hstep
  | @change c w hchange =>
    have hlock : w.state.lock = x.world.state.lock := henv _ _ _ hchange
    refine ⟨?_, ?_, h.distinct, h.fits⟩
    · show ∀ i p ticket, _ → _ → w.state.lock.holder = _
      rw [hlock]
      exact h.holds
    · show ∀ i p ticket, _ → _ → ticket < w.state.lock.nextTicket
      rw [hlock]
      exact h.issued

/-- Passes that have not begun are in order. -/
theorem new {w : World Deployment} (asked : List Asked) :
    Orderly (⟨w, .new asked⟩ : Scene Deployment (Passes ι)) := by
  have hnew : ∀ (i : Nat) (p : Passer), (Passes.new asked : Passes ι).passers[i]? = some p →
      p.stage.ticket? = none ∧ p.stage.turn? = none := by
    intro i p hi
    obtain ⟨a, -, rfl⟩ := List.mem_map.mp (List.mem_of_getElem? hi)
    exact ⟨rfl, rfl⟩
  refine ⟨fun i p ticket hi hp => ?_, fun i p ticket hi hp => ?_, fun i j p q ticket hi _ hp => ?_,
    fun i p hi => fits_of_turn? (hnew i p hi).2⟩
  · rw [(hnew i p hi).2] at hp
    cases hp
  · rw [(hnew i p hi).1] at hp
    cases hp
  · rw [(hnew i p hi).1] at hp
    cases hp

end Orderly

/-! ## The order of the turns -/

/-- **The order of the turns** names every pass that has had its turn once. -/
structure Recorded (asked : List Asked) (x : Scene Deployment (Passes ι)) : Prop where
  length : x.others.passers.length = asked.length
  asked : ∀ (i : Nat) (p : Passer), x.others.passers[i]? = some p → asked[i]? = some p.asked
  nodup : x.others.order.Nodup
  mem : ∀ i : Nat, i ∈ x.others.order ↔
    ∃ p : Passer, x.others.passers[i]? = some p ∧ p.stage.hasTurned = true

theorem Passes.getElem?_goOn_self {s : Passes ι} {st : Stage p.asked.kind}
    (hi : s.passers[i]? = some p) : (s.goOn i p st).passers[i]? = some (p.goOn st) := by
  obtain ⟨hlt, -⟩ := List.getElem?_eq_some_iff.mp hi
  unfold Passes.goOn
  rw [List.getElem?_set, if_pos rfl, if_pos hlt]

theorem Passes.getElem?_goOn_of_ne {s : Passes ι} {st : Stage p.asked.kind} (hji : j ≠ i) :
    (s.goOn i p st).passers[j]? = s.passers[j]? := by
  unfold Passes.goOn
  rw [List.getElem?_set, if_neg fun h => hji h.symm]

theorem Passes.order_goOn {s : Passes ι} {st : Stage p.asked.kind}
    (h : st.hasTurned = p.stage.hasTurned) : (s.goOn i p st).order = s.order := by
  unfold Passes.goOn
  rw [h]
  cases p.stage.hasTurned <;> rfl

/-- A turn is not forgotten. -/
theorem Stage.Step.hasTurned {k : PassKind} {b : Bound} {st st' : Stage k}
    (h : Stage.Step b v st w st') (hst : st.hasTurned = true) : st'.hasTurned = true := by
  cases h <;> first | rfl | cases hst

/-- A step that begins a turn makes it the last in the order; any other leaves the order as it is. -/
theorem Passes.order_step {s : Passes ι} {st : Stage p.asked.kind}
    (h : Stage.Step p.asked.bound v p.stage w st) :
    p.stage.hasTurned = false ∧ st.hasTurned = true ∧ (s.goOn i p st).order = s.order ++ [i] ∨
      st.hasTurned = p.stage.hasTurned ∧ (s.goOn i p st).order = s.order := by
  cases hp : p.stage.hasTurned with
  | false =>
    cases hst : st.hasTurned with
    | false => exact Or.inr ⟨rfl, Passes.order_goOn (by rw [hst, hp])⟩
    | true =>
      refine Or.inl ⟨rfl, rfl, ?_⟩
      unfold Passes.goOn
      rw [hst, hp]
      rfl
  | true =>
    have hst : st.hasTurned = true := h.hasTurned hp
    exact Or.inr ⟨hst, Passes.order_goOn (hst.trans hp.symm)⟩

/-- **A step of a pass keeps the record.** -/
theorem Recorded.step {st : Stage p.asked.kind} (h : Recorded asked x)
    (hi : x.others.passers[i]? = some p)
    (hstep : Stage.Step p.asked.bound x.world p.stage w st) :
    Recorded asked ⟨w, x.others.goOn i p st⟩ := by
  have hmem : ∀ j : Nat, (∃ q : Passer, (x.others.goOn i p st).passers[j]? = some q ∧
      q.stage.hasTurned = true) ↔ j = i ∧ st.hasTurned = true ∨ j ≠ i ∧ j ∈ x.others.order := by
    intro j
    by_cases hji : j = i
    · subst hji
      rw [Passes.getElem?_goOn_self hi]
      simp [Passer.goOn]
    · rw [Passes.getElem?_goOn_of_ne hji, ← h.mem j]
      simp [hji]
  have hi_mem : i ∈ x.others.order ↔ p.stage.hasTurned = true := by
    rw [h.mem i, hi]
    simp
  refine ⟨?_, fun j q hj => ?_, ?_, fun j => ?_⟩
  · exact (List.length_set ..).trans h.length
  · rcases Passes.goOn_cases hj with ⟨rfl, rfl⟩ | ⟨-, hj⟩
    · exact h.asked j p hi
    · exact h.asked j q hj
  · show (x.others.goOn i p st).order.Nodup
    rcases Passes.order_step hstep with ⟨hp, -, horder⟩ | ⟨-, horder⟩
    · rw [horder]
      refine List.nodup_append.mpr ⟨h.nodup, by simp, ?_⟩
      rintro j hj _ hji rfl
      rw [List.mem_singleton.mp hji, hi_mem, hp] at hj
      cases hj
    · rw [horder]
      exact h.nodup
  · refine Iff.trans ?_ (hmem j).symm
    show j ∈ (x.others.goOn i p st).order ↔ _
    rcases Passes.order_step hstep with ⟨hp, hst, horder⟩ | ⟨hsame, horder⟩
    · rw [horder, List.mem_append, List.mem_singleton, hst]
      by_cases hji : j = i <;> simp [hji]
    · rw [horder, hsame]
      by_cases hji : j = i
      · simp [hji, hi_mem]
      · simp [hji]

theorem Recorded.moves (h : Recorded asked x) (hmove : PassMoves env x y) : Recorded asked y := by
  cases hmove with
  | pass hi hstep => exact h.step hi hstep
  | change _ => exact ⟨h.length, h.asked, h.nodup, h.mem⟩

theorem Recorded.new {w : World Deployment} (asked : List Asked) :
    Recorded asked (⟨w, .new asked⟩ : Scene Deployment (Passes ι)) := by
  refine ⟨List.length_map _, fun i p hi => ?_, List.nodup_nil, fun i => ?_⟩
  · obtain ⟨a, ha, rfl⟩ := Option.map_eq_some_iff.mp ((List.getElem?_map ..).symm.trans hi)
    exact ha
  · refine ⟨fun h => absurd h List.not_mem_nil, fun ⟨p, hi, hp⟩ => ?_⟩
    obtain ⟨a, -, rfl⟩ := List.mem_map.mp (List.mem_of_getElem? hi)
    cases hp

/-- **Once every pass has had its turn**, the order names all of them. -/
theorem Recorded.perm (h : Recorded asked x)
    (hall : ∀ p ∈ x.others.passers, p.stage.hasTurned = true) :
    x.others.order.Perm (List.range asked.length) := by
  refine (List.perm_ext_iff_of_nodup h.nodup List.nodup_range).mpr fun i => ?_
  rw [h.mem i, List.mem_range, ← h.length]
  constructor
  · rintro ⟨p, hi, -⟩
    exact (List.getElem?_eq_some_iff.mp hi).1
  · intro hlt
    have hi : x.others.passers[i]? = some x.others.passers[i] := List.getElem?_eq_getElem hlt
    exact ⟨_, hi, hall _ (List.mem_of_getElem? hi)⟩

end Turns

end FederatedStorage.Deployment
