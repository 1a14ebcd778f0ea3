import FederatedStorage.Proofs.Schedule.Audit
import FederatedStorage.Proofs.Schedule.Scripts
import Mathlib.Algebra.GroupWithZero.Nat
import Mathlib.Logic.Relation

/-!
# Customers

Any number of customers go through their scripts side by side, one step at a time and in any order.
New ones join, and beside them the world may change in ways that do not concern what is looked at.
All demands that are met are noted in their order.

Of such a run two things are known from audits of what meets the demands. A property of the world
that no act breaks holds in every scene. And a total that every demand raises by what its answer
says, in one act or in many, is in the end the sum over all answers: in between, what the demands
under way have already added is owed.

## Main statements

* `Kept.runs`: what no act breaks holds in every scene.
* `accounts`: when no demand is under way, the total is the sum of the bills.
-/

namespace FederatedStorage.Schedule

variable {σ κ : Type} {Answer : κ → Type}

/-- **All customers**: where each of them stands, and what was demanded and met so far. -/
structure Customers (σ : Type) {κ : Type} (Answer : κ → Type) where
  stages : List (Stage σ Answer Unit)
  met : List (Met Answer)

namespace Customers

/-- Nobody has come yet. -/
def nobody : Customers σ Answer := ⟨[], []⟩

/-- No demand is under way. -/
def Idle (c : Customers σ Answer) : Prop := ∀ st ∈ c.stages, st.isIdle = true

/-- **A move**: a customer joins, a demand of his begins or has been met, he makes a step, or the rest
of the world changes. Beside the demands only changes of one kind occur. -/
inductive Moves (work : (k : κ) → Activity σ (Answer k)) (apart : World σ → World σ → Prop) :
    Scene σ (Customers σ Answer) → Scene σ (Customers σ Answer) → Prop
  | joins {x : Scene σ (Customers σ Answer)} (s : Script σ Answer Unit) (hs : s.Does apart) :
      Moves work apart x ⟨x.world, ⟨x.others.stages ++ [.idle s], x.others.met⟩⟩
  | turns {x : Scene σ (Customers σ Answer)} {before after : List (Stage σ Answer Unit)}
      {st st' : Stage σ Answer Unit} {met : List (Met Answer)}
      (hx : x.others.stages = before ++ st :: after) (h : st.Turns work met st') :
      Moves work apart x ⟨x.world, ⟨before ++ st' :: after, x.others.met ++ met⟩⟩
  | steps {x : Scene σ (Customers σ Answer)} {before after : List (Stage σ Answer Unit)}
      {st st' : Stage σ Answer Unit} {w : World σ}
      (hx : x.others.stages = before ++ st :: after) (h : st.Step x.world st' w) :
      Moves work apart x ⟨w, ⟨before ++ st' :: after, x.others.met⟩⟩
  | aside {x : Scene σ (Customers σ Answer)} {w : World σ} (h : apart x.world w) :
      Moves work apart x (x.put w)

/-- **A run** of customers. -/
abbrev Run (work : (k : κ) → Activity σ (Answer k)) (apart : World σ → World σ → Prop) :
    Scene σ (Customers σ Answer) → Scene σ (Customers σ Answer) → Prop :=
  Relation.ReflTransGen (Moves work apart)

variable {work : (k : κ) → Activity σ (Answer k)} {apart : World σ → World σ → Prop}
  {x y : Scene σ (Customers σ Answer)} {st st' : Stage σ Answer Unit} {v w : World σ}

/-! ## Who stands where -/

theorem does_of_turns {met : List (Met Answer)} (h : st.Turns work met st') (hst : st.Does apart) :
    st'.Does apart := by
  cases h with
  | begins k next => exact hst
  | ends k a next => exact hst a

theorem does_of_step (h : st.Step v st' w) (hst : st.Does apart) : st'.Does apart := by
  cases h with
  | act update next => exact (hst v).2
  | wake hready => exact hst
  | work hwork => exact hst

/-- What holds of all after one of them has gone on. -/
theorem forall_goOn {P : Stage σ Answer Unit → Prop} {before after : List (Stage σ Answer Unit)}
    (h : ∀ s ∈ before ++ st :: after, P s) (hst : P st → P st') :
    ∀ s ∈ before ++ st' :: after, P s := by
  intro s hs
  rcases List.mem_append.mp hs with hs | hs
  · exact h s (List.mem_append_left _ hs)
  · rcases List.mem_cons.mp hs with rfl | hs
    · exact hst (h st (List.mem_append_right _ List.mem_cons_self))
    · exact h s (List.mem_append_right _ (List.mem_cons_of_mem _ hs))

/-- What holds of all when one has joined. -/
theorem forall_joins {P : Stage σ Answer Unit → Prop} {stages : List (Stage σ Answer Unit)}
    {s : Script σ Answer Unit} (h : ∀ st ∈ stages, P st) (hs : P (.idle s)) :
    ∀ st ∈ stages ++ [.idle s], P st := by
  intro st hst
  rcases List.mem_append.mp hst with hst | hst
  · exact h st hst
  · rw [List.mem_singleton.mp hst]
    exact hs

/-- **Between their demands** customers only do what does not concern what is looked at. -/
theorem does_of_run (hrun : Run work apart ⟨v, nobody⟩ x) :
    ∀ st ∈ x.others.stages, st.Does apart := by
  induction hrun with
  | refl => exact fun _ h => absurd h List.not_mem_nil
  | tail _ hmove ih =>
    cases hmove with
    | joins s hs => exact forall_joins ih hs
    | turns hx hturn => exact forall_goOn (hx ▸ ih) (does_of_turns hturn)
    | steps hx hstep => exact forall_goOn (hx ▸ ih) (does_of_step hstep)
    | aside haside => exact ih

/-! ## One customer going on -/

/-- What meets a demand goes on while nobody else moves. -/
theorem Run.works {k : κ} {rest rest' : Activity σ (Answer k)} {next : Answer k → Script σ Answer Unit}
    {before after : List (Stage σ Answer Unit)} {met : List (Met Answer)} {s s' : Scene σ Unit}
    {t : List (Scene σ Unit)} (h : Runs (fun _ _ => False) rest s t rest' s') :
    Run work apart ⟨s.world, ⟨before ++ .busy k rest next :: after, met⟩⟩
      ⟨s'.world, ⟨before ++ .busy k rest' next :: after, met⟩⟩ := by
  induction h with
  | here p s => exact .refl
  | step hstep _ ih => exact .head (.steps rfl (.work hstep)) ih
  | aside hmove _ _ => exact hmove.elim

/-- Somebody joins with a single demand, which begins. -/
theorem Run.begins (k : κ) (stages : List (Stage σ Answer Unit)) (met : List (Met Answer)) :
    Run work apart ⟨v, ⟨stages, met⟩⟩
      ⟨v, ⟨stages ++ [.busy k (work k) fun _ => .done ()], met⟩⟩ := by
  have hjoins : Run work apart ⟨v, ⟨stages, met⟩⟩
      ⟨v, ⟨stages ++ [.idle (.demand k fun _ => .done ())], met⟩⟩ :=
    .single (.joins _ fun _ => trivial)
  have hbegins := hjoins.tail (.turns rfl (.begins k _))
  rwa [List.append_nil] at hbegins

/-- **A demand that nothing holds up** is made and met while nobody else moves. -/
theorem Run.serves (k : κ) {a : Answer k} (stages : List (Stage σ Answer Unit))
    (met : List (Met Answer)) (h : ((work k).advance v false).2.1.result? = some a) :
    Run work apart ⟨v, ⟨stages, met⟩⟩
      ⟨((work k).advance v false).1, ⟨stages ++ [.idle (.done ())], met ++ [⟨k, a⟩]⟩⟩ := by
  have hbegins : Run work apart ⟨v, ⟨stages, met⟩⟩ _ := .begins k stages met
  have hworks := hbegins.trans (Run.works (runs_of_result (fun _ _ => False) () h))
  exact hworks.tail (.turns rfl (.ends k a _))

/-! ## What no act breaks -/

section Kept

variable {M : Type} {A : Audit σ M} {Q : (k : κ) → Answer k → M → Prop} {I : World σ → Prop}

/-- **What is kept along a run**: a property of the world, and that books can be kept of all demands
under way. -/
structure Kept (A : Audit σ M) (Q : (k : κ) → Answer k → M → Prop) (I : World σ → Prop)
    (x : Scene σ (Customers σ Answer)) : Prop where
  world : I x.world
  busy : ∀ st ∈ x.others.stages, st.Holds fun k rest => ∃ m, Audited A (Q k) rest m

/-- A step of a stage whose demand is audited. -/
theorem Kept.step (hact : ∀ v w m m', A.act v w m m' → I v → I w)
    (hapart : ∀ v w, apart v w → I v → I w) (hstep : st.Step v st' w) (hv : I v)
    (hscript : st.Does apart) (hbusy : st.Holds fun k rest => ∃ m, Audited A (Q k) rest m) :
    I w ∧ st'.Holds fun k rest => ∃ m, Audited A (Q k) rest m := by
  cases hstep with
  | act update next => exact ⟨hapart _ _ (hscript v).1 hv, trivial⟩
  | wake hready => exact ⟨hv, trivial⟩
  | work hwork =>
    obtain ⟨m, hm⟩ := hbusy
    obtain ⟨m', hbooks, hrest⟩ := hm.of_step hwork
    refine ⟨?_, m', hrest⟩
    rcases hbooks with hbooks | ⟨rfl, -⟩
    · exact hact _ _ _ _ hbooks hv
    · exact hv

/-- **A move keeps it.** -/
theorem Kept.moves {m : M} (hwork : ∀ k, Audited A (Q k) (work k) m)
    (hact : ∀ v w m m', A.act v w m m' → I v → I w) (hapart : ∀ v w, apart v w → I v → I w)
    (hscripts : ∀ st ∈ x.others.stages, st.Does apart) (h : Kept A Q I x)
    (hmove : Moves work apart x y) : Kept A Q I y := by
  obtain ⟨hworld, hbusy⟩ := h
  cases hmove with
  | joins s hs => exact ⟨hworld, forall_joins hbusy trivial⟩
  | turns hx hturn =>
    rw [hx] at hbusy
    refine ⟨hworld, forall_goOn hbusy fun _ => ?_⟩
    cases hturn with
    | begins k next => exact ⟨m, hwork k⟩
    | ends k a next => trivial
  | @steps before after st st' w hx hstep =>
    rw [hx] at hscripts hbusy
    have hmem : st ∈ before ++ st :: after := List.mem_append_right _ List.mem_cons_self
    obtain ⟨hw, hholds⟩ := Kept.step hact hapart hstep hworld (hscripts st hmem) (hbusy st hmem)
    exact ⟨hw, forall_goOn hbusy fun _ => hholds⟩
  | aside haside => exact ⟨hapart _ _ haside hworld, hbusy⟩

/-- **What no act breaks holds in every scene** of a run. -/
theorem Kept.runs {m : M} (hwork : ∀ k, Audited A (Q k) (work k) m)
    (hact : ∀ v w m m', A.act v w m m' → I v → I w) (hapart : ∀ v w, apart v w → I v → I w)
    (hv : I v) (hrun : Run work apart ⟨v, nobody⟩ x) : Kept A Q I x := by
  induction hrun with
  | refl => exact ⟨hv, fun _ h => absurd h List.not_mem_nil⟩
  | tail hbefore hmove ih => exact ih.moves hwork hact hapart (does_of_run hbefore) hmove

end Kept

/-! ## Accounts -/

section Accounts

variable (total : World σ → Nat → Prop) (bill : (k : κ) → Answer k → Nat)

/-- **The audit of a total**: the books say what an activity has added to it. The world need not show
the whole of a total, as with a counter that comes round. -/
def addingTo : Audit σ Nat where
  act v w n n' := ∃ added, n' = n + added ∧ ∀ k, total v k → total w (k + added)
  wait n n' := n' = n

/-- What a stage owes: what its demand under way has added before it is met. -/
def Owes : Stage σ Answer Unit → Nat → Prop
  | .idle _, n => n = 0
  | .busy k rest _, n => Audited (addingTo total) (fun a n => n = bill k a) rest n

/-- What all stages owe together. -/
inductive Owing : List (Stage σ Answer Unit) → Nat → Prop
  | nil : Owing [] 0
  | cons {st : Stage σ Answer Unit} {sts : List (Stage σ Answer Unit)} {n m : Nat}
      (h : Owes total bill st n) (hs : Owing sts m) : Owing (st :: sts) (n + m)

/-- The sum of the bills of all demands that were met. -/
def billed (met : List (Met Answer)) : Nat := (met.map fun d => bill d.1 d.2).sum

/-- **The total is what was met and what is owed.** -/
def Accounted (x : Scene σ (Customers σ Answer)) : Prop :=
  ∃ n, Owing total bill x.others.stages n ∧ total x.world (billed bill x.others.met + n)

variable {total bill}

/-- What one stage owes beside the others. -/
theorem Owing.split {before after : List (Stage σ Answer Unit)} {n : Nat}
    (h : Owing total bill (before ++ st :: after) n) :
    ∃ own rest, Owes total bill st own ∧ n = own + rest ∧
      ∀ st' own', Owes total bill st' own' →
        Owing total bill (before ++ st' :: after) (own' + rest) := by
  induction before generalizing n with
  | nil =>
    cases h with
    | @cons _ _ own rest hown hrest => exact ⟨own, rest, hown, rfl, fun st' own' h' => .cons h' hrest⟩
  | cons s before ih =>
    cases h with
    | @cons _ _ mine m hmine hs =>
      obtain ⟨own, rest, hown, rfl, hgoOn⟩ := ih hs
      refine ⟨own, mine + rest, hown, by omega, fun st' own' h' => ?_⟩
      have hcons := Owing.cons hmine (hgoOn st' own' h')
      rwa [Nat.add_left_comm] at hcons

/-- Who has just joined owes nothing. -/
theorem Owing.joins {sts : List (Stage σ Answer Unit)} {n : Nat} (s : Script σ Answer Unit)
    (h : Owing total bill sts n) : Owing total bill (sts ++ [.idle s]) n := by
  induction h with
  | nil => exact .cons (m := 0) rfl .nil
  | cons hown _ ih => exact .cons hown ih

/-- Who has no demand under way owes nothing. -/
theorem Owing.idle {sts : List (Stage σ Answer Unit)} {n : Nat} (h : Owing total bill sts n)
    (hidle : ∀ st ∈ sts, st.isIdle = true) : n = 0 := by
  induction h with
  | nil => rfl
  | @cons st sts n m hown _ ih =>
    obtain ⟨hst, hsts⟩ := List.forall_mem_cons.mp hidle
    cases st with
    | idle s =>
      rw [ih hsts]
      exact hown
    | busy k rest next => cases hst

theorem billed_append (met met' : List (Met Answer)) :
    billed bill (met ++ met') = billed bill met + billed bill met' := by
  simp [billed]

/-- The accounts when one stage has gone on, which may have added something, and may have had it
billed. -/
theorem Accounted.goOn {own own' rest : Nat} (added : Nat) {before after : List (Stage σ Answer Unit)}
    {met : List (Met Answer)} (hst : Owing total bill (before ++ st' :: after) (own' + rest))
    (hw : total w (billed bill x.others.met + (own + rest) + added))
    (hown : own + added = own' + billed bill met) :
    Accounted total bill ⟨w, ⟨before ++ st' :: after, x.others.met ++ met⟩⟩ := by
  refine ⟨own' + rest, hst, ?_⟩
  have hsum : billed bill (x.others.met ++ met) + (own' + rest) =
      billed bill x.others.met + (own + rest) + added := by
    rw [billed_append]
    omega
  dsimp only
  rwa [hsum]

/-- **A move keeps the accounts.** -/
theorem Accounted.moves
    (hwork : ∀ k, Audited (addingTo total) (fun a n => n = bill k a) (work k) 0)
    (hapart : ∀ v w k, apart v w → total v k → total w k)
    (hscripts : ∀ st ∈ x.others.stages, st.Does apart)
    (h : Accounted total bill x) (hmove : Moves work apart x y) : Accounted total bill y := by
  obtain ⟨n, howing, htotal⟩ := h
  cases hmove with
  | joins s hs => exact ⟨n, howing.joins s, htotal⟩
  | aside haside => exact ⟨n, howing, hapart _ _ _ haside htotal⟩
  | @turns before after st st' met hx hturn =>
    rw [hx] at howing
    obtain ⟨own, rest, hown, rfl, hgoOn⟩ := howing.split
    cases hturn with
    | begins k next =>
      -- nothing was owed, and nothing has been added yet
      have hzero : own = 0 := hown
      exact .goOn 0 (hgoOn _ 0 (hwork k)) htotal (by rw [hzero]; rfl)
    | ends k a next =>
      -- what was owed is billed now
      have hbill : own = bill k a := hown
      exact .goOn 0 (hgoOn _ 0 rfl) htotal (by simp [billed, hbill])
  | @steps before after st st' w hx hstep =>
    rw [hx] at howing hscripts
    obtain ⟨own, rest, hown, rfl, hgoOn⟩ := howing.split
    suffices hgo : ∃ added, Owes total bill st' (own + added) ∧
        ∀ k, total x.world k → total w (k + added) by
      obtain ⟨added, hst', hadds⟩ := hgo
      have h : Accounted total bill ⟨w, ⟨before ++ st' :: after, x.others.met ++ []⟩⟩ :=
        .goOn added (hgoOn _ _ hst') (hadds _ htotal) rfl
      rwa [List.append_nil] at h
    cases hstep with
    | act update next =>
      have hdoes := hscripts _ (List.mem_append_right _ List.mem_cons_self)
      have hzero : own = 0 := hown
      exact ⟨0, hzero, fun k hk => hapart _ _ _ (hdoes x.world).1 hk⟩
    | wake hready => exact ⟨0, hown, fun _ hk => hk⟩
    | work hwork' =>
      obtain ⟨own', hbooks, hrest⟩ := Audited.of_step hown hwork'
      rcases hbooks with ⟨added, rfl, hadds⟩ | ⟨rfl, hsame⟩
      · exact ⟨added, hrest, hadds⟩
      · have hsame : own' = own := hsame
        exact ⟨0, hsame ▸ hrest, fun _ hk => hk⟩

/-- **Every run is accounted for.** -/
theorem Accounted.runs
    (hwork : ∀ k, Audited (addingTo total) (fun a n => n = bill k a) (work k) 0)
    (hapart : ∀ v w k, apart v w → total v k → total w k) (hv : total v 0)
    (hrun : Run work apart ⟨v, nobody⟩ x) : Accounted total bill x := by
  induction hrun with
  | refl => exact ⟨0, .nil, hv⟩
  | tail hbefore hmove ih => exact ih.moves hwork hapart (does_of_run hbefore) hmove

/-- **When no demand is under way**, the total is the sum of the bills of all that were met. -/
theorem accounts (hwork : ∀ k, Audited (addingTo total) (fun a n => n = bill k a) (work k) 0)
    (hapart : ∀ v w k, apart v w → total v k → total w k) (hv : total v 0)
    (hrun : Run work apart ⟨v, nobody⟩ x) (hidle : x.others.Idle) :
    total x.world (billed bill x.others.met) := by
  obtain ⟨n, howing, htotal⟩ := Accounted.runs hwork hapart hv hrun
  rwa [howing.idle hidle] at htotal

end Accounts

end Customers

end FederatedStorage.Schedule
