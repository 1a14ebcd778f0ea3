import FederatedStorage.Proofs.Gateway.Arrays

/-!
# Callers beside a pass

While a pass is under way others call the gateway. A caller has made a request and has come some way
with it, and it goes on one step at a time. Every request reads the owners, and at most its last act
changes them: there a creation that the array has confirmed gets an owner, and a confirmed deletion
loses it. So what a caller has done to the owners can be told from its answer.

## Main statements

* `perform_ends`: a call ends with the act that concludes it.
* `Caller.step_cases`: what a step of a caller does to the owners.
* `Moves.cases`, `Moves.later`: what a move of the others does, and that answers stay.
-/

namespace FederatedStorage.Deployment

open Schedule

/-- **What can be asked of the gateway** about one resource, or to look at all. -/
inductive Request
  | call (c : Call)
  | list (kind : ResourceKind)
  | health
  | status

namespace Request

/-- The type of a request's answer. -/
abbrev Answer : Request → Type
  | call c => Except Failure c.Answer
  | list kind => Except Failure (Listing kind.Item)
  | health => List (String × Bool)
  | status => GatewayStatus

/-- What the gateway does for a request. -/
def work (b : Bound) : (r : Request) → Work r.Answer
  | call c => perform b c
  | list kind => listAll b kind
  | health => Deployment.health b
  | status => Deployment.status

/-- **The resource that a request has created**, with its owner, as the answer says. -/
def made : (r : Request) → r.Answer → Option Resource
  | call (.createVolume _), .ok v => v.clusterId.map fun c => ⟨v.id, c, .volume⟩
  | call (.createSnapshot _), .ok s => s.clusterId.map fun c => ⟨s.id, c, .snapshot⟩
  | _, _ => none

/-- **The resource that a request has deleted**, as the answer says. -/
def dropped : (r : Request) → r.Answer → Option String
  | call (.deleteVolume id), .ok () => some id
  | call (.deleteSnapshot id), .ok () => some id
  | _, _ => none

/-- Whether a request deletes a resource. -/
def isDelete : Request → Bool
  | call (.deleteVolume _) => true
  | call (.deleteSnapshot _) => true
  | _ => false

theorem dropped_of_not_isDelete {r : Request} (h : r.isDelete = false) (a : r.Answer) :
    r.dropped a = none := by
  cases r with
  | call c => cases c <;> first | rfl | cases h
  | _ => rfl

/-- No request both creates and deletes. -/
theorem made_of_dropped {r : Request} {a : r.Answer} {id : String} (h : r.dropped a = some id) :
    r.made a = none := by
  cases r with
  | call c => cases c <;> first | rfl | (cases a <;> cases h)
  | _ => rfl

end Request

/-- The owners after something was made, or else dropped, or else nothing happened. -/
def settledBy (made : Option Resource) (dropped : Option String) (o : Ownership) : Ownership :=
  match made, dropped with
  | some r, _ => o.map r
  | none, some id => o.unmap id
  | none, none => o

/-- What the last act of a request does. -/
structure Concludes (r : Request) (v w : World Deployment) (a : r.Answer) : Prop where
  clusters : w.state.gateway.clusters = v.state.gateway.clusters
  resources :
    w.state.gateway.resources = settledBy (r.made a) (r.dropped a) v.state.gateway.resources
  settings : w.state.settings = v.state.settings

/-! ## Calls -/

theorem clusterFor_quiet (g : Gateway) (r : CreateVolume) :
    (g.clusterFor r).2.clusters = g.clusters ∧ (g.clusterFor r).2.resources = g.resources := by
  unfold Gateway.clusterFor
  cases r.source <;> exact ⟨rfl, rfl⟩

/-- Accepting a call changes no owner. -/
theorem accept_quiet (g : Gateway) (c : Call) :
    (g.accept c).2.clusters = g.clusters ∧ (g.accept c).2.resources = g.resources := by
  cases c with
  | createVolume r =>
    simp only [Gateway.accept]
    cases Gateway.checkCreate r with
    | error failure => exact ⟨rfl, rfl⟩
    | ok _ =>
      have h := clusterFor_quiet g r
      generalize g.clusterFor r = found at h
      obtain ⟨cluster, g'⟩ := found
      cases cluster <;> exact h
  | createSnapshot r =>
    simp only [Gateway.accept]
    cases Gateway.refuseEmpty r.name "snapshot name" <;> exact ⟨rfl, rfl⟩
  | _ => exact ⟨rfl, rfl⟩

/-- **Concluding a call** changes the owners as its answer says. -/
theorem conclude_settled (g : Gateway) (clusterId : String) (c : Call)
    (answer : Except Failure c.Answer) :
    let concluded := g.conclude clusterId c answer
    concluded.1.clusters = g.clusters ∧
      concluded.1.resources = settledBy ((Request.call c).made concluded.2)
        ((Request.call c).dropped concluded.2) g.resources := by
  cases answer with
  | error failure => cases c <;> exact ⟨rfl, rfl⟩
  | ok a => cases c <;> exact ⟨rfl, rfl⟩

/-- An act on the gateway. -/
theorem onGateway_safe {α : Type} {R : Rely Deployment} {Q : α → Prop} {f : Gateway → Gateway × α}
    {w : World Deployment}
    (h : ∀ v, R.others w v → R.own v (v.modify fun d => { d with gateway := (f d.gateway).1 }) ∧
      Q (f v.state.gateway).2) : Safe R Q (onGateway f) w := Safe.step h

/-- The result of an act on the gateway is what the act found. -/
theorem onGateway_result {α ε : Type} {moves : Scene Deployment ε → Scene Deployment ε → Prop}
    {s s' : Scene Deployment ε} {t : List (Scene Deployment ε)} {f : Gateway → Gateway × α} {a : α}
    (h : Runs moves (onGateway f) s t (.done a) s') : ∃ g, a = (f g).2 := by
  obtain ⟨_, x, _, -, -, hrest⟩ := Runs.act_done h
  exact ⟨x.world.state.gateway, Activity.done.inj hrest.of_done.1⟩

/-- **A call ends with the act that concludes it**, and leaves the owners alone before. -/
theorem perform_ends (b : Bound) (c : Call) :
    Ends quietly (Concludes (.call c)) (perform b c) := by
  have haccept : ∀ w, Safe quietly (fun _ => True)
      (onGateway fun g => ((g.accept c).2, (g.accept c).1)) w := fun w =>
    onGateway_safe fun v _ => ⟨⟨(accept_quiet _ c).1, (accept_quiet _ c).2, rfl⟩, trivial⟩
  refine Ends.bind (fun target => ?_) haccept
  cases target with
  | error failure => exact Ends.step fun w => ⟨rfl, by cases c <;> rfl, rfl⟩
  | ok target =>
    have hrun : ∀ w, Safe quietly (fun _ => True)
        (b.run c.operation (callArray b target.client c)) w := fun w =>
      Safe.run (fun _ _ _ _ => trivial) (callArray_safe quietly_call c)
    refine Ends.bind (fun answer => ?_) hrun
    refine Ends.step fun w => ?_
    obtain ⟨hclusters, hresources⟩ := conclude_settled w.state.gateway target.clusterId c answer
    exact ⟨hclusters, hresources, rfl⟩

/-! ## Reads -/

section Reads

variable {R : Rely Deployment} {w : World Deployment}

theorem listAll_safe (hdial : LetsDial R) (hnote : LetsNote R) (b : Bound) (kind : ResourceKind) :
    Safe R (fun _ => True) (listAll b kind) w := by
  refine Safe.bind (fun ids _ _ => ?_) (Safe.look (Q := fun _ => True) fun _ _ => trivial)
  have hone : ∀ c ∈ ids, ∀ v, Safe R (fun _ => True) (contribute b kind c) v := by
    intro c _ v
    refine Safe.bind (fun target _ _ => ?_) (Safe.look (Q := fun _ => True) fun _ _ => trivial)
    cases target with
    | error failure => trivial
    | ok target =>
      refine Safe.bind (fun _ _ _ => ?_) (Safe.run (fun _ _ _ _ => trivial)
        ((listArray_safe hdial b target.client kind).mono fun _ _ => trivial))
      trivial
  refine Safe.bind (fun _ _ _ => ?_) (Safe.all fun c hc => hone c hc _)
  exact onGateway_safe fun v _ => ⟨hnote v _ rfl rfl, trivial⟩

theorem health_safe (hdial : LetsDial R) (b : Bound) : Safe R (fun _ => True) (health b) w := by
  refine Safe.bind (fun ids _ _ => ?_) (Safe.look (Q := fun _ => True) fun _ _ => trivial)
  have hone : ∀ c ∈ ids, ∀ v, Safe R (fun _ => True) (checkCluster b c) v := by
    intro c _ v
    refine Safe.bind (fun target _ _ => ?_) (Safe.look (Q := fun _ => True) fun _ _ => trivial)
    cases target with
    | error failure => trivial
    | ok target =>
      refine Safe.bind (fun answer _ _ => ?_) (Safe.run (fun _ _ _ _ => trivial)
        (checkArray_safe hdial))
      cases answer <;> trivial
  exact (Safe.all fun c hc => hone c hc _).mono fun _ _ => trivial

theorem status_safe (hnote : LetsNote R) : Safe R (fun _ => True) status w :=
  onGateway_safe fun v _ => ⟨hnote v _ rfl rfl, trivial⟩

end Reads

/-! ## Callers -/

/-- **A caller**: a request within its bound, and what is left to do for it. -/
structure Caller where
  request : Request
  bound : Bound
  rest : Work request.Answer

namespace Caller

/-- A caller that has not begun. -/
def new (r : Request) (b : Bound) : Caller := ⟨r, b, r.work b⟩

/-- The caller when something else is left to do. -/
def goOn (c : Caller) (rest : Work c.request.Answer) : Caller := ⟨c.request, c.bound, rest⟩

/-- The resource that the caller has been told it created. -/
def made (c : Caller) : Option Resource := c.rest.result?.bind c.request.made

/-- The resource that the caller has been told it deleted. -/
def dropped (c : Caller) : Option String := c.rest.result?.bind c.request.dropped

/-- What is left to do for a caller is what its request asks for. -/
def Fits : Caller → Prop
  | ⟨.call c, _, rest⟩ => (∃ a, rest = .done a) ∨ Ends quietly (Concludes (.call c)) rest
  | ⟨_, _, rest⟩ => ∀ w, Safe quietly (fun _ => True) rest w

theorem new_fits (r : Request) (b : Bound) : (new r b).Fits := by
  cases r with
  | call c => exact Or.inr (perform_ends b c)
  | list kind => exact fun w => listAll_safe quietly_call.dial quietly_note b kind
  | health => exact fun w => health_safe quietly_call.dial b
  | status => exact fun w => status_safe quietly_note

/-- An activity that ends with a decisive act has no result before. -/
theorem result?_of_ends {α : Type} {last : World Deployment → World Deployment → α → Prop}
    {p : Work α} (h : Ends quietly last p) : p.result? = none := by
  cases p with
  | done a => exact h.elim
  | act update next => rfl
  | wait ready due next => rfl

/-- A caller that has not begun has been told nothing. -/
theorem new_untold (r : Request) (b : Bound) :
    (new r b).made = none ∧ (new r b).dropped = none := by
  cases r with
  | call c =>
    have hnone : (perform b c).result? = none := result?_of_ends (perform_ends b c)
    simp [made, dropped, new, Request.work, hnone]
  | _ => exact ⟨Option.bind_fun_none _, Option.bind_fun_none _⟩

variable {c : Caller} {rest : Work c.request.Answer} {v w : World Deployment}

/-- Who still has a step to make has no answer yet. -/
theorem result?_of_step (h : c.rest.Step v rest w) : c.rest.result? = none := by
  cases hr : c.rest with
  | done a => rw [hr] at h; cases h
  | act update next => rfl
  | wait ready due next => rfl

/-- Who has been told of a deletion has not been told of a creation. -/
theorem made_of_dropped {id : String} (h : c.dropped = some id) : c.made = none := by
  unfold dropped at h
  unfold made
  cases hr : c.rest.result? with
  | none => rfl
  | some a =>
    rw [hr] at h
    exact Request.made_of_dropped h

theorem made_of_step (h : c.rest.Step v rest w) : c.made = none := by
  rw [made, result?_of_step h]
  rfl

theorem dropped_of_step (h : c.rest.Step v rest w) : c.dropped = none := by
  rw [dropped, result?_of_step h]
  rfl

/-- A quiet step of a caller that has not been told anything. -/
theorem quiet_settled (h : Quiet v w) (hmade : (c.goOn rest).made = none)
    (hdropped : (c.goOn rest).dropped = none) : w.state.gateway.resources =
      settledBy (c.goOn rest).made (c.goOn rest).dropped v.state.gateway.resources := by
  rw [hmade, hdropped]
  exact h.resources

/-- A step of a read changes nothing. -/
theorem step_of_read (hmade : ∀ a, c.request.made a = none)
    (hdropped : ∀ a, c.request.dropped a = none)
    (hsafe : ∀ w, Safe quietly (fun _ => True) c.rest w) (h : c.rest.Step v rest w) :
    (∀ w, Safe quietly (fun _ => True) rest w) ∧
      w.state.gateway.clusters = v.state.gateway.clusters ∧
      w.state.settings = v.state.settings ∧
      w.state.gateway.resources =
        settledBy (c.goOn rest).made (c.goOn rest).dropped v.state.gateway.resources := by
  obtain ⟨hquiet, hrest⟩ := (hsafe v).of_step trivial h
  refine ⟨fun x => hrest.aside trivial, hquiet.clusters, hquiet.settings,
    quiet_settled hquiet ?_ ?_⟩
  · cases hr : rest.result? with
    | none => simp [made, goOn, hr]
    | some a => simpa [made, goOn, hr] using hmade a
  · cases hr : rest.result? with
    | none => simp [dropped, goOn, hr]
    | some a => simpa [dropped, goOn, hr] using hdropped a

/-- **What a step of a caller does to the owners** is what it is told afterwards. -/
theorem step_cases (hfits : c.Fits) (h : c.rest.Step v rest w) :
    (c.goOn rest).Fits ∧ w.state.gateway.clusters = v.state.gateway.clusters ∧
      w.state.settings = v.state.settings ∧
      w.state.gateway.resources =
        settledBy (c.goOn rest).made (c.goOn rest).dropped v.state.gateway.resources := by
  obtain ⟨request, bound, before⟩ := c
  cases request with
  | call call =>
    -- either this is the act that concludes the call, or the caller is still without an answer
    rcases hfits with ⟨a, rfl⟩ | hends
    · cases h
    · rcases hends.of_step h with ⟨a, rfl, hlast⟩ | ⟨hquiet, hrest⟩
      · exact ⟨Or.inl ⟨a, rfl⟩, hlast.clusters, hlast.settings, hlast.resources⟩
      · have hnone := result?_of_ends hrest
        refine ⟨Or.inr hrest, hquiet.clusters, hquiet.settings, quiet_settled hquiet ?_ ?_⟩
        · simp [made, goOn, hnone]
        · simp [dropped, goOn, hnone]
  | list kind => exact step_of_read (fun _ => rfl) (fun _ => rfl) hfits h
  | health => exact step_of_read (fun _ => rfl) (fun _ => rfl) hfits h
  | status => exact step_of_read (fun _ => rfl) (fun _ => rfl) hfits h

end Caller

/-! ## Moves -/

/-- **What others do beside a pass**: a caller makes a step, or something happens that leaves
clusters, owners and settings alone. -/
inductive Moves : Scene Deployment (List Caller) → Scene Deployment (List Caller) → Prop
  | caller {x : Scene Deployment (List Caller)} (i : Nat) {c : Caller}
      {rest : Work c.request.Answer} {w : World Deployment} (hi : x.others[i]? = some c)
      (hstep : c.rest.Step x.world rest w) : Moves x ⟨w, x.others.set i (c.goOn rest)⟩
  | aside {x : Scene Deployment (List Caller)} {w : World Deployment} (h : Quiet x.world w) :
      Moves x (x.put w)

/-- What a caller has been told it created. -/
def madeAt (x : Scene Deployment (List Caller)) (i : Nat) : Option Resource :=
  x.others[i]?.bind Caller.made

/-- What a caller has been told it deleted. -/
def droppedAt (x : Scene Deployment (List Caller)) (i : Nat) : Option String :=
  x.others[i]?.bind Caller.dropped

variable {x y z : Scene Deployment (List Caller)}

theorem madeAt_of_droppedAt {i : Nat} {id : String} (h : droppedAt x i = some id) :
    madeAt x i = none := by
  unfold droppedAt at h
  unfold madeAt
  cases hi : x.others[i]? with
  | none => rfl
  | some c =>
    rw [hi] at h
    exact Caller.made_of_dropped h

/-- All callers are on their way. -/
def AllFit (x : Scene Deployment (List Caller)) : Prop := ∀ c ∈ x.others, c.Fits

/-- Callers that have not begun, with a request each. -/
def AllNew (x : Scene Deployment (List Caller)) : Prop := ∀ c ∈ x.others, ∃ r b, c = .new r b

namespace AllNew

theorem fits (h : AllNew x) : AllFit x := by
  intro c hc
  obtain ⟨r, b, rfl⟩ := h c hc
  exact Caller.new_fits r b

/-- Callers that have not begun have been told nothing. -/
theorem untold (h : AllNew x) (i : Nat) : madeAt x i = none ∧ droppedAt x i = none := by
  unfold madeAt droppedAt
  cases hi : x.others[i]? with
  | none => exact ⟨rfl, rfl⟩
  | some c =>
    obtain ⟨r, b, rfl⟩ := h c (List.mem_of_getElem? hi)
    exact Caller.new_untold r b

end AllNew

/-- **A move is made by one caller at most**, and does to the owners what that caller is told. -/
structure OneMoves (x y : Scene Deployment (List Caller)) (i : Nat) : Prop where
  requests : y.others.map Caller.request = x.others.map Caller.request
  untold : madeAt x i = none ∧ droppedAt x i = none
  others : ∀ j, j ≠ i → madeAt y j = madeAt x j ∧ droppedAt y j = droppedAt x j

theorem oneMoves_caller {i : Nat} {c : Caller} {rest : Work c.request.Answer}
    {w : World Deployment} (hi : x.others[i]? = some c) (hstep : c.rest.Step x.world rest w) :
    OneMoves x ⟨w, x.others.set i (c.goOn rest)⟩ i := by
  refine ⟨List.ext_getElem? fun j => ?_, ⟨?_, ?_⟩, fun j hj => ⟨?_, ?_⟩⟩
  · by_cases hj : i = j
    · subst hj
      obtain ⟨hlt, hget⟩ := List.getElem?_eq_some_iff.mp hi
      simp [hlt, hget, Caller.goOn]
    · simp [List.getElem?_set_ne hj]
  · simpa [madeAt, hi] using Caller.made_of_step hstep
  · simpa [droppedAt, hi] using Caller.dropped_of_step hstep
  · simp [madeAt, List.getElem?_set_ne (Ne.symm hj)]
  · simp [droppedAt, List.getElem?_set_ne (Ne.symm hj)]

theorem oneMoves_aside {w : World Deployment} : OneMoves x (x.put w) x.others.length :=
  ⟨rfl, ⟨by simp [madeAt], by simp [droppedAt]⟩, fun _ _ => ⟨rfl, rfl⟩⟩

/-- **What a move does**: clusters and settings stay, and the owners change as one caller is told.
-/
theorem Moves.cases (h : Moves x y) (hfits : AllFit x) :
    AllFit y ∧ y.world.state.gateway.clusters = x.world.state.gateway.clusters ∧
      y.world.state.settings = x.world.state.settings ∧
      ∃ i, OneMoves x y i ∧ y.world.state.gateway.resources =
        settledBy (madeAt y i) (droppedAt y i) x.world.state.gateway.resources := by
  cases h with
  | @caller i c rest w hi hstep =>
    obtain ⟨hrest, hclusters, hsettings, hresources⟩ :=
      Caller.step_cases (hfits c (List.mem_of_getElem? hi)) hstep
    have hlt : i < x.others.length := (List.getElem?_eq_some_iff.mp hi).1
    refine ⟨fun d hd => ?_, hclusters, hsettings, i, oneMoves_caller hi hstep, ?_⟩
    · rcases List.mem_or_eq_of_mem_set hd with hd | rfl
      · exact hfits d hd
      · exact hrest
    · simpa [madeAt, droppedAt, hlt] using hresources
  | aside h =>
    refine ⟨hfits, h.clusters, h.settings, x.others.length, oneMoves_aside, ?_⟩
    simpa [madeAt, droppedAt, settledBy] using h.resources

/-- The caller lets its request go on as far as it can, and nobody else moves. -/
theorem runs_caller {α : Type} (p : Work α) (i : Nat) (c : Caller) (w : World Deployment)
    (callers : List Caller) (moved : Bool) (hi : i < callers.length) :
    let advanced := c.rest.advance w moved
    Runs Moves p ⟨w, callers.set i c⟩
      ((c.rest.trail w).map fun y => ⟨y.1, callers.set i (c.goOn y.2)⟩) p
      ⟨advanced.1, callers.set i (c.goOn advanced.2.1)⟩ := by
  obtain ⟨request, bound, rest⟩ := c
  have hget : ∀ d : Caller, (callers.set i d)[i]? = some d := fun d => by simp [hi]
  -- on what is left to do, as `advance` does it
  induction rest generalizing w moved with
  | done a => exact .here _ _
  | act update next ih =>
    have hmove := Moves.caller (x := ⟨w, callers.set i ⟨request, bound, .act update next⟩⟩) i
      (hget _) (.act update next w)
    rw [List.set_set] at hmove
    exact .aside hmove (ih w (update w) true)
  | wait ready due next ih =>
    by_cases hready : ready w = true
    · have hmove := Moves.caller (x := ⟨w, callers.set i ⟨request, bound, .wait ready due next⟩⟩) i
        (hget _) (.wake hready)
      rw [List.set_set] at hmove
      simp only [Activity.advance, Activity.trail, if_pos hready]
      exact .aside hmove (ih w true)
    · simp only [Activity.advance, Activity.trail, if_neg hready]
      exact .here _ _

/-! ## Answers stay -/

/-- **A later scene**: the callers are the same, and who has been told something has been told it.
-/
structure Later (x y : Scene Deployment (List Caller)) : Prop where
  requests : y.others.map Caller.request = x.others.map Caller.request
  made : ∀ i r, madeAt x i = some r → madeAt y i = some r
  dropped : ∀ i id, droppedAt x i = some id → droppedAt y i = some id

namespace Later

theorem refl (x : Scene Deployment (List Caller)) : Later x x :=
  ⟨rfl, fun _ _ h => h, fun _ _ h => h⟩

theorem trans (h1 : Later x y) (h2 : Later y z) : Later x z :=
  ⟨h2.requests.trans h1.requests, fun i r h => h2.made i r (h1.made i r h),
    fun i id h => h2.dropped i id (h1.dropped i id h)⟩

end Later

theorem OneMoves.later {i : Nat} (h : OneMoves x y i) : Later x y := by
  refine ⟨h.requests, fun j r hj => ?_, fun j id hj => ?_⟩
  · by_cases hji : j = i
    · -- who makes a step has not been told anything yet
      rw [hji, h.untold.1] at hj
      cases hj
    · rw [(h.others j hji).1]
      exact hj
  · by_cases hji : j = i
    · rw [hji, h.untold.2] at hj
      cases hj
    · rw [(h.others j hji).2]
      exact hj

theorem Moves.later (h : Moves x y) : Later x y := by
  cases h with
  | caller i hi hstep => exact (oneMoves_caller hi hstep).later
  | aside h => exact oneMoves_aside.later

/-- **Along a run, answers stay.** -/
theorem runs_later {α : Type} {p q : Work α} {t : List (Scene Deployment (List Caller))}
    (h : Runs Moves p x t q y) : Later x y ∧ ∀ z ∈ t, Later z y :=
  h.later Later.refl (fun _ _ _ => Later.trans) (fun _ _ => ⟨rfl, fun _ _ h => h, fun _ _ h => h⟩)
    fun _ _ => Moves.later

end FederatedStorage.Deployment
