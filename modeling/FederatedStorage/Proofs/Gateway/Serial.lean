import FederatedStorage.Proofs.Gateway.OneByOne

/-!
# Overlapping passes

Passes overlap: each goes on whenever it can. But in its turn a pass is alone with the rest of the
world, and outside its turn it touches only what no pass looks at. So a serial run can be told along
the real one: a pass begins there when its turn begins, makes the steps that it makes in its turn,
and is counted when its turn ends. `Serial` is what holds at any time: either nobody has a turn, and
the passes that have had theirs have run one at a time; or somebody has a turn, and has come as far in
the serial run, in a world that looks alike.

## Main statements

* `Serial.step`, `serial`: what has happened is a serial run.
* `passes_serialize`: overlapping passes are serializable.
-/

namespace FederatedStorage.Deployment

open Schedule Gateway Relation

variable {ι : Type} {env : ι → World Deployment → World Deployment → Prop} {asked : List Asked}
  {w0 v w : World Deployment}

/-- **How the rest of the world changes** for somebody who sees neither the lock nor the metrics.
These stay as they are. -/
inductive Elsewhere (env : ι → World Deployment → World Deployment → Prop) :
    Scene Deployment (List ι) → Scene Deployment (List ι) → Prop
  | change {x : Scene Deployment (List ι)} {c : ι} {v w : World Deployment}
      (hv : Alike x.world v) (h : env c v w) :
      Elsewhere env x ⟨w.modify fun d => d.dress x.world.state.lock x.world.state.gateway.metrics,
        x.others ++ [c]⟩

/-! ## What has happened is a serial run -/

section Serial

variable {x y : Scene Deployment (Passes ι)} {i j : Nat} {p q : Passer}

/-- The passes of an order. -/
def inOrder (asked : List Asked) (order : List Nat) : List Asked := order.filterMap (asked[·]?)

theorem inOrder_append {order : List Nat} {a : Asked} (h : asked[i]? = some a) :
    inOrder asked (order ++ [i]) = inOrder asked order ++ [a] := by
  unfold inOrder
  rw [List.filterMap_append, List.filterMap_cons_some h]
  rfl

theorem Passes.reported?_of_ne {s : Passes ι} {st : Stage p.asked.kind} (hji : j ≠ i) :
    (s.goOn i p st).reported? j = s.reported? j := by
  unfold Passes.reported?
  rw [Passes.getElem?_goOn_of_ne hji]

/-- A step that does not end a turn changes no report. -/
theorem Passes.reported?_of_same {s : Passes ι} {st : Stage p.asked.kind}
    (hi : s.passers[i]? = some p) (h : st.result? = p.stage.result?) (j : Nat) :
    (s.goOn i p st).reported? j = s.reported? j := by
  by_cases hji : j = i
  · subst hji
    unfold Passes.reported?
    rw [Passes.getElem?_goOn_self hi, hi]
    exact congrArg (fun r => r.map (Reported.mk p.asked.kind)) h
  · exact Passes.reported?_of_ne hji

/-- Nobody has a turn. -/
def Resting (x : Scene Deployment (Passes ι)) : Prop :=
  ∀ (i : Nat) (p : Passer), x.others.passers[i]? = some p → p.stage.turn? = none

/-- **Passes, one at a time, come to a scene** with these reports, and nobody has a turn there. -/
structure OneAtATime (env : ι → World Deployment → World Deployment → Prop) (asked : List Asked)
    (w0 : World Deployment) (order : List Nat) (reports : List Reported)
    (y : Scene Deployment (List ι)) : Prop where
  runs : ∃ t, Runs (Elsewhere env) (oneByOne (inOrder asked order)) ⟨w0, []⟩ t (.done reports) y
  unlocked : Unlocked y.world

/-- A scene of the serial run looks like one of the real run, after the same changes. -/
structure Mirrors (x : Scene Deployment (Passes ι)) (y : Scene Deployment (List ι)) : Prop where
  alike : Alike y.world x.world
  changes : y.others = x.others.changes

/-- **What has happened so far is a serial run**, or one that is in the midst of a pass. -/
inductive Serial (env : ι → World Deployment → World Deployment → Prop) (asked : List Asked)
    (w0 : World Deployment) (x : Scene Deployment (Passes ι)) : Prop
  | between {reports : List Reported} {y : Scene Deployment (List ι)} (hrest : Resting x)
      (hbefore : OneAtATime env asked w0 x.others.order reports y)
      (hreports : x.others.order.map x.others.reported? = reports.map some) (hmirror : Mirrors x y)
  | within {before : List Nat} {reports : List Reported} {y z : Scene Deployment (List ι)}
      {t : List (Scene Deployment (List ι))} {i : Nat} {p : Passer} {ticket ticket' : Nat}
      {rest : Work p.asked.kind.Result} (hi : x.others.passers[i]? = some p)
      (hstage : p.stage = .inside ticket rest) (horder : x.others.order = before ++ [i])
      (hbefore : OneAtATime env asked w0 before reports y)
      (hreports : before.map x.others.reported? = reports.map some)
      (hrun : Runs (Elsewhere env) p.asked.work y t
        ((Stage.inside ticket' rest).rest p.asked.bound) z)
      (hqueue : z.world.state.lock.queue = []) (hmirror : Mirrors x z)

theorem Mirrors.change {y : Scene Deployment (List ι)} {c : ι} (h : Mirrors x y)
    (hchange : env c x.world w) :
    ∃ z, Elsewhere env y z ∧ z.world.state.lock = y.world.state.lock ∧
      Mirrors ⟨w, { x.others with changes := x.others.changes ++ [c] }⟩ z := by
  refine ⟨_, .change h.alike hchange, rfl, ⟨?_, ?_⟩⟩
  · exact ⟨w.state.lock, w.state.gateway.metrics, rfl⟩
  · exact congrArg (· ++ [c]) h.changes

theorem Mirrors.aside {y : Scene Deployment (List ι)} {st : Stage p.asked.kind} (h : Mirrors x y)
    (halike : Alike x.world w) : Mirrors ⟨w, x.others.goOn i p st⟩ y :=
  ⟨h.alike.trans halike, h.changes⟩

theorem OneAtATime.aside {order : List Nat} {reports : List Reported}
    {y z : Scene Deployment (List ι)} (h : OneAtATime env asked w0 order reports y)
    (hmove : Elsewhere env y z) (hlock : z.world.state.lock = y.world.state.lock) :
    OneAtATime env asked w0 order reports z := by
  obtain ⟨⟨t, hruns⟩, hunlocked⟩ := h
  refine ⟨⟨_, hruns.trans (.aside hmove (.here _ z))⟩, ?_⟩
  unfold Unlocked
  rw [hlock]
  exact hunlocked

namespace Serial

/-- What changes elsewhere changes in the serial run. -/
theorem change {c : ι} (h : Serial env asked w0 x) (hchange : env c x.world w) :
    Serial env asked w0 ⟨w, { x.others with changes := x.others.changes ++ [c] }⟩ := by
  cases h with
  | between hrest hbefore hreports hmirror =>
    obtain ⟨z, hmove, hlock, hmirror'⟩ := hmirror.change hchange
    exact .between hrest (hbefore.aside hmove hlock) hreports hmirror'
  | within hi hstage horder hbefore hreports hrun hqueue hmirror =>
    obtain ⟨z, hmove, hlock, hmirror'⟩ := hmirror.change hchange
    refine .within hi hstage horder hbefore hreports (hrun.trans (.aside hmove (.here _ z))) ?_
      hmirror'
    rw [hlock]
    exact hqueue

/-- A step of a pass that neither begins nor has a turn is none of the serial run. -/
theorem aside {st : Stage p.asked.kind} (h : Serial env asked w0 x)
    (hi : x.others.passers[i]? = some p) (hp : p.stage.turn? = none) (hst : st.turn? = none)
    (hturned : st.hasTurned = p.stage.hasTurned) (hresult : st.result? = p.stage.result?)
    (halike : Alike x.world w) : Serial env asked w0 ⟨w, x.others.goOn i p st⟩ := by
  have horder : (x.others.goOn i p st).order = x.others.order := Passes.order_goOn hturned
  have hreported : (x.others.goOn i p st).reported? = x.others.reported? :=
    funext (Passes.reported?_of_same hi hresult)
  cases h with
  | between hrest hbefore hreports hmirror =>
    refine .between (fun j q hj => ?_) (horder ▸ hbefore) ?_ (hmirror.aside halike)
    · rcases Passes.goOn_cases hj with ⟨rfl, rfl⟩ | ⟨-, hj⟩
      · exact hst
      · exact hrest j q hj
    · show (x.others.goOn i p st).order.map _ = _
      rw [horder, hreported]
      exact hreports
  | @within _ _ _ _ _ j _ _ _ _ hj hstage hlast hbefore hreports hrun hqueue hmirror =>
    have hji : j ≠ i := by
      rintro rfl
      rw [hi] at hj
      cases hj
      rw [hstage] at hp
      cases hp
    refine .within ((Passes.getElem?_goOn_of_ne hji).trans hj) hstage (horder.trans hlast) hbefore
      ?_ hrun hqueue (hmirror.aside halike)
    show List.map (x.others.goOn i p st).reported? _ = _
    rw [hreported]
    exact hreports

/-- **A turn that begins** begins in the serial run, where nobody else has one. -/
theorem acquire {ticket : Nat} {body : Work p.asked.kind.Result} (h : Serial env asked w0 x)
    (horderly : Orderly x) (hi : x.others.passers[i]? = some p)
    (hasked : asked[i]? = some p.asked) (hp : p.stage = .queued ticket)
    (hholder : x.world.state.lock.holder = some ticket)
    (hbody : body = p.asked.kind.body p.asked.bound) :
    Serial env asked w0 ⟨x.world, x.others.goOn i p (.inside ticket body)⟩ := by
  subst hbody
  cases h with
  | between hrest hbefore hreports hmirror =>
    obtain ⟨t, ticket', v, hrun, halike, hqueue⟩ := asked_begins p.asked hbefore.unlocked
    let st : Stage p.asked.kind := .inside ticket (p.asked.kind.body p.asked.bound)
    have horder : (x.others.goOn i p st).order = x.others.order ++ [i] := by
      unfold Passes.goOn
      rw [hp]
      rfl
    have hsame : (x.others.goOn i p st).reported? = x.others.reported? :=
      funext (Passes.reported?_of_same hi (by rw [hp]; rfl))
    refine .within (Passes.getElem?_goOn_self hi) rfl horder hbefore ?_ hrun hqueue
      ⟨halike.symm.trans hmirror.alike, hmirror.changes⟩
    show List.map (x.others.goOn i p st).reported? _ = _
    rw [hsame]
    exact hreports
  | @within _ _ _ _ _ j q ticket' _ rest hj hstage =>
    -- whoever has a turn holds the lock, so it would be the same pass
    have hsame : ticket' = ticket := by
      have hturn : q.stage.turn? = some ticket' := by rw [hstage]; rfl
      exact Option.some.inj ((horderly.holds j q ticket' hj hturn).symm.trans hholder)
    have hji : j = i := horderly.distinct j i q p ticket' hj hi (by rw [hstage]; rfl)
      (by rw [hp, hsame]; rfl)
    subst hji
    rw [hi] at hj
    cases hj
    rw [hp] at hstage
    cases hstage

/-- Whoever has a turn has come as far in the serial run. -/
theorem of_turn {ticket : Nat} {rest : Work p.asked.kind.Result} (h : Serial env asked w0 x)
    (horderly : Orderly x) (hi : x.others.passers[i]? = some p) (hp : p.stage = .inside ticket rest) :
    ∃ before reports y t ticket' z, x.others.order = before ++ [i] ∧
      OneAtATime env asked w0 before reports y ∧
      before.map x.others.reported? = reports.map some ∧
      Runs (Elsewhere env) p.asked.work y t ((Stage.inside ticket' rest).rest p.asked.bound) z ∧
      z.world.state.lock.queue = [] ∧ Mirrors x z := by
  have hturn : p.stage.turn? = some ticket := by rw [hp]; rfl
  cases h with
  | between hrest =>
    rw [hrest i p hi] at hturn
    cases hturn
  | @within _ _ _ _ _ j _ _ _ _ hj hstage hlast hbefore hreports hrun hqueue hmirror =>
    -- nobody else has a turn
    have hji : j = i := horderly.alone hj hi (by rw [hstage]; rfl) hturn
    subst hji
    rw [hi] at hj
    cases hj
    rw [hp] at hstage
    cases hstage
    exact ⟨_, _, _, _, _, _, hlast, hbefore, hreports, hrun, hqueue, hmirror⟩

/-- **A step in a turn** is a step of the serial run. -/
theorem work {ticket : Nat} {rest rest' : Work p.asked.kind.Result} (h : Serial env asked w0 x)
    (horderly : Orderly x) (hi : x.others.passers[i]? = some p)
    (hp : p.stage = .inside ticket rest) (hwork : rest.Step x.world rest' w) :
    Serial env asked w0 ⟨w, x.others.goOn i p (.inside ticket rest')⟩ := by
  obtain ⟨before, reports, y, t, ticket', z, hlast, hbefore, hreports, hrun, hqueue, hmirror⟩ :=
    h.of_turn horderly hi hp
  obtain ⟨hblind, hsafe⟩ := horderly.fits i p hi ticket rest hp
  obtain ⟨v, hstep, halike, -⟩ := hblind.step hmirror.alike hwork
  obtain ⟨hlock, -⟩ := (hsafe z.world).of_step trivial hstep
  have hlock : v.state.lock = z.world.state.lock := hlock
  have hnext : Runs (Elsewhere env) p.asked.work y _
      ((Stage.inside ticket' rest').rest p.asked.bound) (z.put v) :=
    hrun.trans (.step (Stage.Step.rest (.work hstep)) (.here _ _))
  let st : Stage p.asked.kind := .inside ticket rest'
  have hsame : (x.others.goOn i p st).reported? = x.others.reported? :=
    funext (Passes.reported?_of_same hi (by rw [hp]; rfl))
  have horder : (x.others.goOn i p st).order = x.others.order :=
    Passes.order_goOn (by rw [hp]; rfl)
  have hmirror' : Mirrors ⟨w, x.others.goOn i p st⟩ (z.put v) := ⟨halike, hmirror.changes⟩
  refine .within (Passes.getElem?_goOn_self hi) rfl (horder.trans hlast) hbefore ?_ hnext ?_
    hmirror'
  · show List.map (x.others.goOn i p st).reported? _ = _
    rw [hsame]
    exact hreports
  · show v.state.lock.queue = []
    rw [hlock]
    exact hqueue

/-- The reports of an order once its last pass has ended its turn. -/
theorem reports_leave {before : List Nat} {reports : List Reported} {st : Stage p.asked.kind}
    {result : p.asked.kind.Result} (hi : x.others.passers[i]? = some p)
    (hnodup : (before ++ [i]).Nodup) (hreports : before.map x.others.reported? = reports.map some)
    (hst : st.result? = some result) :
    (before ++ [i]).map (x.others.goOn i p st).reported? =
      (reports ++ [Reported.mk p.asked.kind result]).map some := by
  have hnotin : i ∉ before := fun hmem =>
    (List.nodup_append.mp hnodup).2.2 i hmem i List.mem_cons_self rfl
  have hbefore : before.map (x.others.goOn i p st).reported? = before.map x.others.reported? :=
    List.map_congr_left fun l hl => Passes.reported?_of_ne fun hli => hnotin (hli ▸ hl)
  have hown : (x.others.goOn i p st).reported? i = some ⟨p.asked.kind, result⟩ := by
    unfold Passes.reported?
    rw [Passes.getElem?_goOn_self hi]
    exact congrArg (fun r => r.map (Reported.mk p.asked.kind)) hst
  rw [List.map_append, hbefore, hreports, List.map_append, List.map_singleton, hown]
  rfl

/-- **A turn that ends** ends a pass of the serial run. -/
theorem leave {ticket : Nat} {result : p.asked.kind.Result} (h : Serial env asked w0 x)
    (horderly : Orderly x) (hrecorded : Recorded asked x) (hi : x.others.passers[i]? = some p)
    (hp : p.stage = .inside ticket (.done result)) (halike : Alike x.world w) :
    Serial env asked w0 ⟨w, x.others.goOn i p (.leaving result)⟩ := by
  obtain ⟨before, reports, y, t, ticket', z, hlast, hbefore, hreports, hrun, hqueue, hmirror⟩ :=
    h.of_turn horderly hi hp
  have hends : ∃ t1 v, Runs (Elsewhere env) ((Stage.inside ticket' (.done result)).rest
      p.asked.bound) z t1 (.done result) (z.put v) ∧ Alike z.world v ∧ Unlocked v :=
    asked_ends p.asked ticket' result hqueue
  obtain ⟨t1, v, hends, hleft, hunlocked⟩ := hends
  obtain ⟨⟨t0, hruns⟩, -⟩ := hbefore
  obtain ⟨t2, hall⟩ := oneByOne_append hruns (hrun.trans hends)
  rw [← inOrder_append (hrecorded.asked i p hi)] at hall
  have hdone : OneAtATime env asked w0 (before ++ [i]) (reports ++ [⟨p.asked.kind, result⟩])
      (z.put v) := ⟨⟨t2, hall⟩, hunlocked⟩
  let st : Stage p.asked.kind := .leaving result
  have horder : (x.others.goOn i p st).order = before ++ [i] :=
    (Passes.order_goOn (by rw [hp]; rfl)).trans hlast
  have hmirror' : Mirrors ⟨w, x.others.goOn i p st⟩ (z.put v) :=
    ⟨hleft.symm.trans (hmirror.alike.trans halike), hmirror.changes⟩
  refine .between (fun l q hl => ?_) (horder ▸ hdone) ?_ hmirror'
  · rcases Passes.goOn_cases hl with ⟨-, rfl⟩ | ⟨hli, hl'⟩
    · rfl
    · cases hq : q.stage.turn? with
      | none => rfl
      | some ticket1 => exact absurd (horderly.alone hl' hi hq (by rw [hp]; rfl)) hli
  · show (x.others.goOn i p st).order.map (x.others.goOn i p st).reported? = _
    have hst : st.result? = some result := rfl
    rw [horder]
    exact reports_leave hi (hlast ▸ hrecorded.nodup) hreports hst

/-- **A step of a pass** leaves a serial run. -/
theorem step {st : Stage p.asked.kind} (h : Serial env asked w0 x) (horderly : Orderly x)
    (hrecorded : Recorded asked x) (hi : x.others.passers[i]? = some p)
    (hstep : Stage.Step p.asked.bound x.world p.stage w st) :
    Serial env asked w0 ⟨w, x.others.goOn i p st⟩ := by
  generalize hp : p.stage = before at hstep
  have halike := hstep.alike
  cases hstep with
  | enter =>
    exact h.aside hi (by rw [hp]; rfl) rfl (by rw [hp]; rfl) (by rw [hp]; rfl)
      (halike.resolve_right (by rintro ⟨_, _, _, hst, -⟩; cases hst))
  | acquire hholder =>
    exact h.acquire horderly hi (hrecorded.asked i p hi) hp hholder rfl
  | work hwork => exact h.work horderly hi hp hwork
  | leave ticket result =>
    exact h.leave horderly hrecorded hi hp
      (halike.resolve_right (by rintro ⟨_, _, _, -, hst, -⟩; cases hst))
  | note result =>
    exact h.aside hi (by rw [hp]; rfl) rfl (by rw [hp]; rfl) (by rw [hp]; rfl)
      (halike.resolve_right (by rintro ⟨_, _, _, hst, -⟩; cases hst))

end Serial

/-- **Whatever has happened**, turns were taken one after the other, and it is a serial run. -/
theorem serial (henv : ∀ c v w, env c v w → SameLock v w) (hw0 : Unlocked w0)
    (h : ReflTransGen (PassMoves env) ⟨w0, .new asked⟩ x) :
    Orderly x ∧ Recorded asked x ∧ Serial env asked w0 x := by
  induction h with
  | refl =>
    have hturnless : Resting (⟨w0, .new asked⟩ : Scene Deployment (Passes ι)) := by
      intro i p hi
      obtain ⟨a, -, rfl⟩ := List.mem_map.mp (List.mem_of_getElem? hi)
      rfl
    refine ⟨.new asked, .new asked, ?_⟩
    have hnone : OneAtATime env asked w0 [] [] (⟨w0, []⟩ : Scene Deployment (List ι)) :=
      ⟨⟨[], .here _ _⟩, hw0⟩
    exact .between hturnless hnone rfl ⟨undressed.refl w0, rfl⟩
  | tail _ hmove ih =>
    obtain ⟨horderly, hrecorded, hserial⟩ := ih
    refine ⟨horderly.moves henv hmove, hrecorded.moves hmove, ?_⟩
    cases hmove with
    | pass hi hstep => exact hserial.step horderly hrecorded hi hstep
    | change hchange => exact hserial.change hchange

end Serial

/-- What leaves the registry alone leaves it alone for whoever sees neither the lock nor the metrics.
-/
theorem Elsewhere.sameRegistry {x y : Scene Deployment (List ι)}
    (henv : ∀ c v w, env c v w → SameRegistry v w) (h : Elsewhere env x y) :
    SameRegistry x.world y.world := by
  cases h with
  | change hv hchange =>
    exact (hv.sameRegistry.trans (henv _ _ _ hchange)).trans (Alike.sameRegistry ⟨_, _, rfl⟩)

/-- **Overlapping passes are serializable.**

Any number of passes are asked for, each goes on whenever it can, and the rest of the world changes
in between as it likes, as long as it leaves the lock alone. Passes go through the stages named here,
and outside its turn a pass touches only the lock and the metrics. Whoever has a turn holds the lock,
so no two have one. When nobody has a turn, the passes that have had theirs have reported what they
report one at a time, in the order of their turns, among the same changes; and the world looks as it
does then, but for the lock and the metrics. Once all have come to their end, these are all passes.

If moreover nobody else touches the clusters, and they were those of the last report at first, then
they are so whenever nobody has a turn, and the last report is that of the last reload that has
succeeded. -/
theorem passes_serialize :
    (∀ a : Asked, (Stage.asked : Stage a.kind).rest a.bound = a.work) ∧
    (∀ (k : PassKind) (b : Bound) (st : Stage k) (v w : World Deployment) (q : Work k.Result),
      ((st.rest b).Step v q w ↔ ∃ st', q = st'.rest b ∧ Stage.Step b v st w st') ∧
      ∀ st', Stage.Step b v st w st' →
        Alike v w ∨ ∃ ticket p q, st = .inside ticket p ∧ st' = .inside ticket q) ∧
    ∀ {ι : Type} (env : ι → World Deployment → World Deployment → Prop) (asked : List Asked)
      (w0 : World Deployment) (x : Scene Deployment (Passes ι)),
      (∀ c v w, env c v w → SameLock v w) → Unlocked w0 →
      ReflTransGen (PassMoves env) ⟨w0, .new asked⟩ x →
        (∀ (i : Nat) (p : Passer) (ticket : Nat), x.others.passers[i]? = some p →
          p.stage.turn? = some ticket → x.world.state.lock.holder = some ticket ∧
            ∀ (j : Nat) (q : Passer) (ticket' : Nat), x.others.passers[j]? = some q →
              q.stage.turn? = some ticket' → j = i) ∧
        (Resting x → ∃ reports y, OneAtATime env asked w0 x.others.order reports y ∧
          x.others.order.map x.others.reported? = reports.map some ∧ Mirrors x y ∧
          ((∀ c v w, env c v w → SameRegistry v w) → Follows w0 → Follows x.world ∧
            x.world.state.gateway.lastReport = ((reports.filterMap Reported.pass?).getLast?).or
              w0.state.gateway.lastReport)) ∧
        ((∀ p ∈ x.others.passers, ∃ result, p.stage = .ended result) →
          Resting x ∧ x.others.order.Perm (List.range asked.length)) := by
  refine ⟨fun a => rfl, fun k b st v w q => ⟨Stage.step_iff, fun st' hstep => ?_⟩,
    fun env asked w0 x henv hw0 hreach => ?_⟩
  · refine hstep.alike.imp_right ?_
    rintro ⟨ticket, p, q, hst, hst', -⟩
    exact ⟨ticket, p, q, hst, hst'⟩
  obtain ⟨horderly, hrecorded, hserial⟩ := serial henv hw0 hreach
  refine ⟨fun i p ticket hi hp => ⟨horderly.holds i p ticket hi hp, fun j q ticket' hj hq =>
    horderly.alone hj hi hq hp⟩, fun hrest => ?_, fun hended => ⟨fun i p hi => ?_, ?_⟩⟩
  · cases hserial with
    | within hi hstage =>
      -- somebody is in the midst of a turn
      have hturn := hrest _ _ hi
      rw [hstage] at hturn
      cases hturn
    | between _ hbefore hreports hmirror =>
      refine ⟨_, _, hbefore, hreports, hmirror, fun hregistry hfollows => ?_⟩
      obtain ⟨t, hruns⟩ := hbefore.runs
      obtain ⟨hfollows', hlast⟩ :=
        oneByOne_follows (fun _ _ h => h.sameRegistry hregistry) hruns hfollows
      have hsame := hmirror.alike.sameRegistry
      exact ⟨hfollows'.of_same hsame, hsame.lastReport.trans hlast⟩
  · obtain ⟨result, hp⟩ := hended p (List.mem_of_getElem? hi)
    rw [hp]
    rfl
  · refine hrecorded.perm fun p hp => ?_
    obtain ⟨result, hp⟩ := hended p hp
    rw [hp]
    rfl

/-- Nothing is registered before the first report. -/
theorem Follows.of_fresh (hclusters : w.state.gateway.clusters.ids = [])
    (hreport : w.state.gateway.lastReport = none) : Follows w := by
  intro id
  rw [hclusters, hreport]
  constructor
  · exact fun h => absurd h List.not_mem_nil
  · rintro ⟨_, h, -⟩
    cases h

/-! ## Two reloads that overlap -/

namespace Overlap

/-- Two clusters are configured. -/
def begun : World Deployment := freshWorld.modify fun d => { d with source := .list twoVendors }

/-- Somebody may configure both clusters twice. -/
def Spoils (_ : Unit) (v w : World Deployment) : Prop :=
  w = v.modify fun d => { d with source := .list (twoVendors ++ twoVendors) }

def reload : Asked := ⟨.whole, free⟩

/-- Two reloads. -/
def both (st st' : Stage .whole) (order : List Nat) (changes : List Unit) : Passes Unit :=
  ⟨[⟨reload, st⟩, ⟨reload, st'⟩], order, changes⟩

variable {st st' : Stage .whole} {order : List Nat} {changes : List Unit}

theorem first {next : Stage .whole} (h : Stage.Step free v st w next) :
    PassMoves Spoils ⟨v, both st st' order changes⟩ ⟨w, both next st'
      (if next.hasTurned && !st.hasTurned then order ++ [0] else order) changes⟩ :=
  @PassMoves.pass _ Spoils ⟨v, both st st' order changes⟩ 0 ⟨reload, st⟩ next w rfl h

theorem second {next : Stage .whole} (h : Stage.Step free v st' w next) :
    PassMoves Spoils ⟨v, both st st' order changes⟩ ⟨w, both st next
      (if next.hasTurned && !st'.hasTurned then order ++ [1] else order) changes⟩ :=
  @PassMoves.pass _ Spoils ⟨v, both st st' order changes⟩ 1 ⟨reload, st'⟩ next w rfl h

/-- What is done in a turn while nobody else moves. -/
theorem works {C : Stage .whole → Passes Unit} {ticket : Nat} {v w : World Deployment}
    {p q : Work (PassKind.Result .whole)} {t : List (Scene Deployment Unit)}
    (hC : ∀ {v w p q}, Stage.Step free v (.inside ticket p) w (.inside ticket q) →
      PassMoves Spoils ⟨v, C (.inside ticket p)⟩ ⟨w, C (.inside ticket q)⟩)
    (h : Runs (fun _ _ => False) p ⟨v, ()⟩ t q ⟨w, ()⟩) :
    ReflTransGen (PassMoves Spoils) ⟨v, C (.inside ticket p)⟩ ⟨w, C (.inside ticket q)⟩ := by
  generalize hs : (⟨v, ()⟩ : Scene Deployment Unit) = s at h
  generalize hs' : (⟨w, ()⟩ : Scene Deployment Unit) = s' at h
  induction h generalizing v with
  | here p s =>
    subst hs
    cases hs'
    exact .refl
  | step hstep _ ih =>
    subst hs
    exact .head (hC (.work hstep)) (ih rfl hs')
  | aside hmove => exact hmove.elim

/-- Both reloads wait for their turn. -/
def entered : World Deployment :=
  (begun.modify fun d => { d with lock := d.lock.enter.1 }).modify fun d =>
    { d with lock := d.lock.enter.1 }

/-- The first one has had its turn, and the configuration is no good any more. -/
def spoiled : World Deployment :=
  (doing entered (PassKind.whole.body free)).modify fun d =>
    { d with source := .list (twoVendors ++ twoVendors) }

/-- The second one has its turn. -/
def handed : World Deployment := spoiled.modify fun d => { d with lock := d.lock.leave }

/-- The second one has had its turn, too. -/
def left : World Deployment :=
  (doing handed (PassKind.whole.body free)).modify fun d => { d with lock := d.lock.leave }

/-- What came of the two. -/
def results : PassKind.Result .whole × PassKind.Result .whole :=
  ((((PassKind.whole.body free).advance entered false).2.1.result?).getD (.error (.exchange "")),
    (((PassKind.whole.body free).advance handed false).2.1.result?).getD (.error (.exchange "")))

/-- Both are counted, the second one first. -/
def counted : World Deployment :=
  (left.modify fun d => { d with gateway := PassKind.whole.count d.gateway results.2 }).modify
    fun d => { d with gateway := PassKind.whole.count d.gateway results.1 }

def finished : Scene Deployment (Passes Unit) :=
  ⟨counted, both (.ended results.1) (.ended results.2) [0, 1] [()]⟩

theorem reached :
    ReflTransGen (PassMoves Spoils) ⟨begun, .new [reload, reload]⟩ finished := by
  have hresult : ∀ w : World Deployment, ((PassKind.whole.body free).advance w
      false).2.1.result?.isSome → Runs (fun _ _ => False) (PassKind.whole.body free) ⟨w, ()⟩
        (((PassKind.whole.body free).trail w).map fun y => ⟨y.1, ()⟩)
        (.done ((((PassKind.whole.body free).advance w false).2.1.result?).getD (.error (.exchange ""))))
        ⟨doing w (PassKind.whole.body free), ()⟩ := by
    intro w hw
    obtain ⟨r, hr⟩ := Option.isSome_iff_exists.mp hw
    rw [hr]
    exact runs_of_result _ () hr
  have hwait : ReflTransGen (PassMoves Spoils) ⟨begun, .new [reload, reload]⟩
      ⟨entered, both (.queued 0) (.queued 1) [] []⟩ :=
    .tail (.single (first .enter)) (second .enter)
  have hfirst : ReflTransGen (PassMoves Spoils) ⟨begun, .new [reload, reload]⟩
      ⟨doing entered (PassKind.whole.body free),
        both (.inside 0 (.done results.1)) (.queued 1) [0] []⟩ :=
    (hwait.tail (first (.acquire rfl))).trans
      (works (C := fun st => both st (.queued 1) [0] []) first (hresult _ (by decide +kernel)))
  have hhanded : ReflTransGen (PassMoves Spoils) ⟨begun, .new [reload, reload]⟩
      ⟨handed, both (.leaving results.1) (.queued 1) [0] [()]⟩ :=
    .tail (hfirst.tail (.change rfl)) (first (.leave 0 results.1))
  have hsecond : ReflTransGen (PassMoves Spoils) ⟨begun, .new [reload, reload]⟩
      ⟨doing handed (PassKind.whole.body free),
        both (.leaving results.1) (.inside 1 (.done results.2)) [0, 1] [()]⟩ :=
    (hhanded.tail (second (.acquire (by decide +kernel)))).trans
      (works (C := fun st => both (.leaving results.1) st [0, 1] [()]) second
        (hresult _ (by decide +kernel)))
  exact ((hsecond.tail (second (.leave 1 results.2))).tail (second (.note results.2))).tail
    (first (.note results.1))

end Overlap

/-- Two reloads overlap, and the configuration is spoiled before the second one has its turn, which
therefore fails. Both clusters stay registered, as the last report says. -/
theorem passes_serialize_overlap :
    (∃ reports y, OneAtATime Overlap.Spoils [Overlap.reload, Overlap.reload] Overlap.begun [0, 1]
        reports y ∧ reports.map some = [0, 1].map Overlap.finished.others.reported? ∧
        Mirrors Overlap.finished y) ∧
      Follows Overlap.finished.world ∧ (∃ failure, Overlap.results.2 = .error failure) ∧
      Overlap.finished.world.state.gateway.clusters.ids = ["a", "b"] ∧
      Overlap.finished.others.order.Perm (List.range 2) := by
  obtain ⟨-, -, hserial⟩ := passes_serialize
  obtain ⟨-, hresting, hended⟩ := hserial Overlap.Spoils [Overlap.reload, Overlap.reload]
    Overlap.begun Overlap.finished (by rintro c v _ rfl; rfl) ⟨rfl, rfl⟩ Overlap.reached
  obtain ⟨hrest, hperm⟩ := hended fun p hp => by
    rcases List.mem_cons.mp hp with rfl | hp
    · exact ⟨Overlap.results.1, rfl⟩
    · rw [List.mem_singleton.mp hp]
      exact ⟨Overlap.results.2, rfl⟩
  obtain ⟨reports, y, hone, hreports, hmirror, hregistry⟩ := hresting hrest
  obtain ⟨hfollows, -⟩ := hregistry (by rintro c v _ rfl; exact ⟨rfl, rfl⟩) (.of_fresh rfl rfl)
  refine ⟨⟨reports, y, hone, hreports.symm, hmirror⟩, hfollows, ?_, by decide +kernel, hperm⟩
  have herror : Overlap.results.2.toOption.isSome = false := by decide +kernel
  cases hresult : Overlap.results.2 with
  | error failure => exact ⟨failure, rfl⟩
  | ok report =>
    rw [hresult] at herror
    cases herror

end FederatedStorage.Deployment
