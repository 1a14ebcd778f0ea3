import FederatedStorage.Proofs.Schedule.Rely
import Mathlib.Logic.Relation

/-!
# What an activity does among others

Along a run the others move and the activity acts. If all its acts are of one kind, then the end of
the run is reached from its beginning by moves of the others and acts of that kind, in some order.
So whatever both leave alone is as it was.

An activity that spares something makes acts of one kind only, except that one last act may do
otherwise if it brings a result of a given kind. When another result comes, it has made no such act.

## Main statements

* `Runs.onward`: what acts and moves carry on holds from every scene to the end.
* `Runs.besides`: a safe activity makes only acts of its kind.
* `Runs.spares`: and so does one that spares something, if its result is not of the given kind.
-/

namespace FederatedStorage.Schedule

open Relation

variable {σ α β ε : Type} {moves : Scene σ ε → Scene σ ε → Prop} {s s' : Scene σ ε}
  {t : List (Scene σ ε)} {R : Rely σ} {Q : α → Prop} {w w' : World σ}

/-- **A move of the others, or an act of a given kind.** -/
inductive Beside (moves : Scene σ ε → Scene σ ε → Prop) (own : World σ → World σ → Prop) :
    Scene σ ε → Scene σ ε → Prop
  | move {x y : Scene σ ε} (h : moves x y) : Beside moves own x y
  | own {x : Scene σ ε} {w : World σ} (h : own x.world w) : Beside moves own x (x.put w)

/-- **One scene comes of another** by moves of the others and acts of a given kind. -/
abbrev Besides (moves : Scene σ ε → Scene σ ε → Prop) (own : World σ → World σ → Prop) :
    Scene σ ε → Scene σ ε → Prop := ReflTransGen (Beside moves own)

namespace Besides

theorem of_moves {own : World σ → World σ → Prop} (h : ReflTransGen moves s s') :
    Besides moves own s s' := ReflTransGen.mono (fun _ _ hxy => .move hxy) _ _ h

variable {own other : World σ → World σ → Prop}

theorem mono (h : ∀ v w, own v w → other v w) (hs : Besides moves own s s') :
    Besides moves other s s' := by
  refine ReflTransGen.mono (fun x y hxy => ?_) _ _ hs
  cases hxy with
  | move hmove => exact .move hmove
  | own hown => exact .own (h _ _ hown)

/-- What the moves and the acts preserve is preserved. -/
theorem keep {J : Scene σ ε → Prop} (hmoves : ∀ x y, moves x y → J x → J y)
    (hown : ∀ x w, own x.world w → J x → J (x.put w)) (hs : Besides moves own s s') (hJ : J s) :
    J s' := by
  induction hs with
  | refl => exact hJ
  | tail _ hxy ih =>
    cases hxy with
    | move hmove => exact hmoves _ _ hmove ih
    | own h => exact hown _ _ h ih

end Besides

/-- Beside an activity that has ended only the others move. -/
theorem Runs.moves_of_done {a : α} {q : Activity σ α} (h : Runs moves (.done a) s t q s') :
    ReflTransGen moves s s' := by
  generalize hp : Activity.done a = p at h
  induction h with
  | here p s => exact .refl
  | step hstep _ _ =>
    subst hp
    cases hstep
  | aside hmove _ ih => exact .head hmove (ih hp)

/-! ## Activities whose acts are all of a kind -/

/-- Acts of one kind are acts of any wider kind. -/
theorem Safe.wider {own own' : World σ → World σ → Prop} {own_refl : ∀ w, own w w}
    {own_refl' : ∀ w, own' w w} (hown : ∀ v w, own v w → own' v w) :
    ∀ {p : Activity σ α} {w : World σ}, Safe (.nothing own own_refl) Q p w →
      Safe (.nothing own' own_refl') Q p w
  | .done _, _, h => h
  | .act _ _, _, h => fun w' _ => ⟨hown _ _ (h w' trivial).1, wider hown (h w' trivial).2⟩
  | .wait _ _ _, _, h => ⟨False.elim, fun w' _ _ => wider hown (h.2 w' trivial False.elim)⟩

/-- **What the acts and the moves of the others carry on**, a run carries on to its end, from every
scene. -/
theorem Runs.onward {own : World σ → World σ → Prop} {own_refl : ∀ w, own w w}
    {L : Scene σ ε → Scene σ ε → Prop} (hrefl : ∀ x, L x x)
    (htrans : ∀ x y z, L x y → L y z → L x z) (hown : ∀ x w, own x.world w → L x (x.put w))
    (hmoves : ∀ x y, moves x y → L x y) {p q : Activity σ α}
    (hp : Safe (.nothing own own_refl) Q p s.world) (h : Runs moves p s t q s') :
    ∀ x ∈ s :: t, L x s' := by
  induction h with
  | here p s =>
    intro x hx
    rw [List.mem_singleton.mp hx]
    exact hrefl s
  | @step p q r s _ w t hstep _ ih =>
    obtain ⟨hact, hq⟩ := hp.of_step trivial hstep
    have hrest := ih hq
    refine List.forall_mem_cons.mpr ⟨?_, hrest⟩
    exact htrans _ _ _ (hown s w hact) (hrest _ List.mem_cons_self)
  | @aside p r s s1 _ t hmove _ ih =>
    have hrest := ih (hp.aside trivial)
    refine List.forall_mem_cons.mpr ⟨?_, hrest⟩
    exact htrans _ _ _ (hmoves s s1 hmove) (hrest _ List.mem_cons_self)

/-- **A safe activity makes only acts of its kind.** -/
theorem Runs.besides {p q : Activity σ α} (h : Runs moves p s t q s')
    (hmoves : ∀ x y, moves x y → R.others y.world y.world → R.others x.world y.world)
    (hscenes : ∀ x ∈ s :: t, R.others x.world x.world) (hp : Safe R Q p s.world) :
    Besides moves R.own s s' :=
  (h.keep (J := Besides moves R.own s) (K := fun _ => True) hmoves
    (fun _ _ hw _ hx => hx.tail (.own hw)) (fun _ _ hxy _ hx => hx.tail (.move hxy)) hscenes
    (fun _ _ => trivial) hp .refl).2.1

/-- An activity that counts on nothing. -/
theorem Safe.besides {own : World σ → World σ → Prop} {own_refl : ∀ w, own w w}
    {p q : Activity σ α} (hp : Safe (.nothing own own_refl) Q p s.world)
    (h : Runs moves p s t q s') : Besides moves own s s' :=
  h.besides (R := .nothing own own_refl) (fun _ _ _ _ => trivial) (fun _ _ => trivial) hp

/-! ## Activities that spare something -/

/-- **An activity makes acts of its kind only**, but for one that ends it with a result of a given
kind. -/
def Spares (R : Rely σ) (Q : α → Prop) : Activity σ α → World σ → Prop
  | .done _, _ => True
  | .act update next, w => ∀ w', R.others w w' →
    (∃ a, next w' = .done a ∧ Q a) ∨
      R.own w' (update w') ∧ Spares R Q (next w') (update w')
  | .wait _ _ next, w => ∀ w', R.others w w' → Spares R Q next w'

namespace Spares

/-- An activity still spares what it spares while the others move. -/
theorem aside {p : Activity σ α} (hw : R.others w w') (h : Spares R Q p w) : Spares R Q p w' := by
  cases p with
  | done a => trivial
  | act update next => exact fun v hv => h v (R.others_trans hw hv)
  | wait ready due next => exact fun v hv => h v (R.others_trans hw hv)

theorem follow {f : World σ → Activity σ α} (h : ∀ w', R.others w w' → Spares R Q (f w') w') :
    Spares R Q (.follow f) w := fun w' hw => Or.inr ⟨R.own_refl w', h w' hw⟩

/-- A call that has begun spares what it would spare without its bound. -/
theorem race {Q : Except Failure α → Prop} {b : Bound} {operation : String} :
    ∀ {p : Activity σ (Except Failure α)} {w : World σ}, Spares R Q p w →
      Spares R Q (b.race operation p) w
  | .done _, _, _ => trivial
  | .act update next, w, h => fun w' hw => by
    rcases h w' hw with ⟨a, ha, hQ⟩ | ⟨hown, hrest⟩
    · exact Or.inl ⟨a, by simp only [ha]; rfl, hQ⟩
    · exact Or.inr ⟨hown, race hrest⟩
  | .wait ready due next, w, h => fun w1 h1 w2 h2 => by
    refine Or.inr ⟨R.own_refl w2, ?_⟩
    by_cases hready : ready w2 = true
    · simp only [hready, if_true]
      exact race (h w2 (R.others_trans h1 h2))
    · simp only [hready]
      trivial

/-- A call within its bound. -/
theorem run {Q : Except Failure α → Prop} {b : Bound} {operation : String}
    {p : Activity σ (Except Failure α)} (h : Spares R Q p w) :
    Spares R Q (b.run operation p) w := by
  refine follow fun w' hw => ?_
  by_cases hc : w'.isCancelled b.token = true
  · rw [if_pos hc]
    trivial
  · rw [if_neg hc]
    exact race (h.aside hw)

end Spares

/-- **An activity that spares something** has made only acts of its kind, unless its result is of
the given one. -/
theorem Runs.spares {p : Activity σ α} {a : α} (h : Runs moves p s t (.done a) s')
    (hmoves : ∀ x y, moves x y → R.others y.world y.world → R.others x.world y.world)
    (hscenes : ∀ x ∈ s :: t, R.others x.world x.world) (hp : Spares R Q p s.world) :
    Q a ∨ Besides moves R.own s s' := by
  generalize hq : Activity.done a = q at h
  induction h with
  | here p s => exact Or.inr .refl
  | @step p _ _ s _ w t hstep hrest ih =>
    obtain ⟨hs, hscenes⟩ := List.forall_mem_cons.mp hscenes
    cases hstep with
    | act update next =>
      rcases hp _ hs with ⟨b, hb, hQ⟩ | ⟨hown, hnext⟩
      · -- this was the last act, and what follows are moves of the others
        rw [hb, ← hq] at hrest
        cases hrest.of_done.1
        exact Or.inl hQ
      · exact (ih hscenes hnext hq).imp_right fun hs => .head (.own hown) hs
    | wake hready =>
      exact (ih hscenes (hp _ hs) hq).imp_right fun hs => .head (.own (R.own_refl _)) hs
  | @aside _ _ s s1 _ t hmove _ ih =>
    obtain ⟨-, hscenes⟩ := List.forall_mem_cons.mp hscenes
    have hs1 := (List.forall_mem_cons.mp hscenes).1
    exact (ih hscenes (hp.aside (hmoves s s1 hmove hs1)) hq).imp_right fun hs =>
      .head (.move hmove) hs

end FederatedStorage.Schedule
