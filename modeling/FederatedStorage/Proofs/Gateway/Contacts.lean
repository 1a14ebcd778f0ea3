import FederatedStorage.Proofs.Gateway.Detour
import FederatedStorage.Proofs.Gateway.History
import FederatedStorage.Proofs.Gateway.Settled
import FederatedStorage.Proofs.Schedule.AlikeWhile
import FederatedStorage.Proofs.Schedule.Beside

/-!
# What a call contacts

A call is accepted or refused in a single act, before any client is asked. One that is refused asks
nobody, and so does one whose token is cancelled. One that is accepted asks the client of one
cluster, which for a call about an owned resource is its owner's; and its answer is what that client
has replied, stamped with the cluster.

That a run does not ask a client is said by exchanging the client: the run is one over any clients
that agree on the others.

## Main statements

* `went`: whom a call asks.
* `cancelled_asks_nobody`: whom a request asks whose token is cancelled.
* `failed_untouched`: over loopback arrays, a request that fails leaves the arrays alone.
* `calls_settle_owners`: calls that overlap.
-/

namespace FederatedStorage.Deployment

open Schedule Gateway

variable {ε α : Type} {moves : Scene Deployment ε → Scene Deployment ε → Prop} {V V' : Clients}
  {b : Bound} {c : Call} {s s' x : Scene Deployment ε} {t t1 t2 : List (Scene Deployment ε)}
  {a : Except Failure c.Answer} {w : World Deployment}

/-! ## Parts of a call -/

/-- What becomes of a call that is refused. -/
def refuse (c : Call) (failure : Failure) : Work (Except Failure c.Answer) :=
  onGateway fun g => (g.observe c.operation (.error failure : Except Failure Unit), .error failure)

/-- Asks the client of a cluster, and concludes the call. -/
def Clients.forward (V : Clients) (b : Bound) (c : Call) (target : Target) :
    Work (Except Failure c.Answer) :=
  (b.run c.operation (V.call b target.client c)).bind fun reply =>
    onGateway fun g => g.conclude target.clusterId c reply

/-- **A call once it is accepted or refused.** -/
def Clients.decided (V : Clients) (b : Bound) (c : Call) :
    Except Failure Target → Work (Except Failure c.Answer)
  | .error failure => refuse c failure
  | .ok target => V.forward b c target

/-- **A call is accepted or refused in one scene**, up to which only the others have moved. -/
theorem perform_decides (h : Runs moves (V.perform b c) s t (.done a) s') :
    ∃ t1 x t2, t = t1 ++ x.put (accepting x.world c) :: t2 ∧
      (∀ {β : Type} (p : Work β), Runs moves p s t1 p x) ∧
      Runs moves (V.decided b c (x.world.state.gateway.accept c).1) (x.put (accepting x.world c)) t2
        (.done a) s' := Runs.act_done h

theorem perform_again (hothers : ∀ {β : Type} (p : Work β), Runs moves p s t1 p x)
    (h : Runs moves (V.decided b c (x.world.state.gateway.accept c).1)
      (x.put (accepting x.world c)) t2 (.done a) s') :
    Runs moves (V.perform b c) s (t1 ++ x.put (accepting x.world c) :: t2) (.done a) s' :=
  (hothers _).trans (.act h)

theorem refuse_result {failure : Failure} (h : Runs moves (refuse c failure) s t (.done a) s') :
    a = .error failure := by
  obtain ⟨_, ha⟩ := onGateway_result h
  exact ha

/-! ## Contacts -/

/-- Clients that answer alike, as far as some of them go. -/
structure Clients.Agree (P : Client → Prop) (V V' : Clients) : Prop where
  call : ∀ x, P x → ∀ b c, V'.call b x c = V.call b x c
  list : ∀ x, P x → ∀ b kind, V'.list b x kind = V.list b x kind
  check : ∀ x, P x → ∀ b, V'.check b x = V.check b x

/-- **A run contacts only some clients**: whatever the others are, it is a run. -/
def ContactsOnly (P : Client → Prop) (V : Clients) (p : Clients → Work α)
    (moves : Scene Deployment ε → Scene Deployment ε → Prop) (s : Scene Deployment ε)
    (t : List (Scene Deployment ε)) (a : α) (s' : Scene Deployment ε) : Prop :=
  ∀ V' : Clients, V.Agree P V' → Runs moves (p V') s t (.done a) s'

/-- **Where a call went**, as the gateway was when it accepted or refused the call. -/
structure Went (moves : Scene Deployment ε → Scene Deployment ε → Prop) (V : Clients) (b : Bound)
    (c : Call) (s : Scene Deployment ε) (t : List (Scene Deployment ε))
    (a : Except Failure c.Answer) (s' x : Scene Deployment ε) : Prop where
  meanwhile : x ∈ s :: t
  refused : ∀ failure, (x.world.state.gateway.accept c).1 = .error failure →
    a = .error failure ∧ ContactsOnly (fun _ => False) V (·.perform b c) moves s t a s'
  accepted : ∀ target, (x.world.state.gateway.accept c).1 = .ok target →
    x.world.state.gateway.clusters.clientOf target.clusterId = .ok target.client ∧
      ContactsOnly (· = target.client) V (·.perform b c) moves s t a s'
  owned : ∀ target id, (x.world.state.gateway.accept c).1 = .ok target → c.subject? = some id →
    ∃ r, x.world.state.gateway.resources.record? id = some r ∧ r.clusterId = target.clusterId
  /-- The answer is what the client has replied. -/
  replied : ∀ target, (x.world.state.gateway.accept c).1 = .ok target →
    ∃ (reply : Except Failure c.Answer) (y : Scene Deployment ε) (t' : List (Scene Deployment ε))
      (z : Scene Deployment ε) (g : Gateway),
      Runs moves (b.run c.operation (V.call b target.client c)) y t' (.done reply) z ∧
        a = (g.conclude target.clusterId c reply).2
  made : ∀ target r, (x.world.state.gateway.accept c).1 = .ok target →
    (Request.call c).made a = some r → r.clusterId = target.clusterId

/-- What a call has created belongs to the cluster that was asked. -/
theorem made_conclude {g : Gateway} {clusterId : String} {reply : Except Failure c.Answer}
    {r : Resource} (h : (Request.call c).made (g.conclude clusterId c reply).2 = some r) :
    r.clusterId = clusterId := by
  cases reply with
  | error failure => cases c <;> cases h
  | ok x =>
    cases c with
    | createVolume request =>
      cases h
      rfl
    | createSnapshot request =>
      cases h
      rfl
    | _ => cases h

/-- **A call asks at most the client of one cluster**, and none if it is refused. -/
theorem went (h : Runs moves (V.perform b c) s t (.done a) s') :
    ∃ x, Went moves V b c s t a s' x := by
  obtain ⟨t1, x, t2, rfl, hothers, hrest⟩ := perform_decides h
  have hreplied : ∀ target, (x.world.state.gateway.accept c).1 = .ok target →
      ∃ (reply : Except Failure c.Answer) (y : Scene Deployment ε) (t' : List (Scene Deployment ε))
        (z : Scene Deployment ε) (g : Gateway),
        Runs moves (b.run c.operation (V.call b target.client c)) y t' (.done reply) z ∧
          a = (g.conclude target.clusterId c reply).2 := by
    intro target haccept
    rw [haccept] at hrest
    obtain ⟨reply, t3, z, t4, -, hasked, hconcludes⟩ := Runs.bind_done hrest
    obtain ⟨g, ha⟩ := onGateway_result hconcludes
    exact ⟨reply, _, t3, z, g, hasked, ha⟩
  refine ⟨x, ?_, fun failure haccept => ⟨?_, fun V' _ => ?_⟩, fun target haccept =>
    ⟨accept_ok haccept, fun V' hagree => ?_⟩, fun target id => accept_owned, hreplied,
    fun target r haccept hmade => ?_⟩
  · have hx : x ∈ s :: t1 := (hothers (.done ())).end_mem
    exact List.mem_append_left (x.put (accepting x.world c) :: t2) hx
  · rw [haccept] at hrest
    exact refuse_result hrest
  · refine perform_again hothers ?_
    rw [haccept] at hrest ⊢
    exact hrest
  · refine perform_again hothers ?_
    rw [haccept] at hrest ⊢
    show Runs moves (V'.forward b c target) _ _ _ _
    rw [Clients.forward, hagree.call target.client rfl]
    exact hrest
  · obtain ⟨reply, _, _, _, g, -, rfl⟩ := hreplied target haccept
    exact made_conclude hmade

/-! ## Requests that are cancelled already -/

/-- The token of a bound is cancelled. -/
def IsOver (b : Bound) (w : World Deployment) : Prop := w.isCancelled b.token = true

/-- An act on the gateway cancels nothing and revives nothing. -/
theorem onGateway_alike (f : Gateway → Gateway × α) :
    AlikeWhile (IsOver b) (onGateway f) (onGateway f) := .step fun _ hw => hw

theorem perform_alike (V V' : Clients) (b : Bound) (c : Call) :
    AlikeWhile (IsOver b) (V.perform b c) (V'.perform b c) := by
  refine AlikeWhile.bind (onGateway_alike _) fun accepted => ?_
  cases accepted with
  | error failure => exact onGateway_alike _
  | ok target => exact .bind (.cancelled (fun _ hw => hw) _ _ _) fun _ => onGateway_alike _

theorem listAll_alike (V V' : Clients) (b : Bound) (kind : ResourceKind) :
    AlikeWhile (IsOver b) (V.listAll b kind) (V'.listAll b kind) := by
  have hone : ∀ clusterId, AlikeWhile (IsOver b) (V.contribute b kind clusterId)
      (V'.contribute b kind clusterId) := by
    intro clusterId
    refine AlikeWhile.bind (.look _) fun target => ?_
    cases target with
    | error failure => exact .done _
    | ok target => exact .bind (.cancelled (fun _ hw => hw) _ _ _) fun _ => .done _
  refine AlikeWhile.bind (.look _) fun ids => ?_
  exact AlikeWhile.bind (.all hone ids) fun _ => onGateway_alike _

theorem health_alike (V V' : Clients) (b : Bound) :
    AlikeWhile (IsOver b) (V.health b) (V'.health b) := by
  refine AlikeWhile.bind (.look _) fun ids => .all (fun clusterId => ?_) ids
  refine AlikeWhile.bind (.look _) fun target => ?_
  cases target with
  | error failure => exact .done _
  | ok target =>
    refine AlikeWhile.bind (.cancelled (fun _ hw => hw) _ _ _) fun answer => ?_
    cases answer <;> exact .done _

/-- **A request whose token is cancelled** is the same over all clients. -/
theorem work_alike (V V' : Clients) (b : Bound) (r : Request) :
    AlikeWhile (IsOver b) (V.work b r) (V'.work b r) := by
  cases r with
  | call c => exact perform_alike V V' b c
  | list kind => exact listAll_alike V V' b kind
  | health => exact health_alike V V' b
  | status => exact onGateway_alike fun g => (g.status.2, g.status.1)

section

variable (hkeep : ∀ x y, moves x y → IsOver b x.world → IsOver b y.world) (hs : IsOver b s.world)
include hkeep hs

/-- **A request whose token is cancelled asks nobody.** -/
theorem cancelled_asks_nobody {r : Request} {answer : r.Answer}
    (h : Runs moves (V.work b r) s t (.done answer) s') :
    ContactsOnly (fun _ => False) V (·.work b r) moves s t answer s' :=
  fun V' _ => (work_alike V V' b r).runs_done hkeep hs h

/-- If it is a call, it fails. -/
theorem cancelled_fails (h : Runs moves (V.perform b c) s t (.done a) s') :
    ∃ failure, a = .error failure := by
  obtain ⟨hscenes, -⟩ := (perform_alike V V b c).runs hkeep hs h
  refine h.result (R := .amid (IsOver b)) (Q := fun a => ∃ failure, a = .error failure)
    (fun _ _ _ hy => hy) hscenes ?_
  have haccepts : Safe (.amid (IsOver b)) (fun _ => True)
      (onGateway fun g => ((g.accept c).2, (g.accept c).1)) s.world :=
    onGateway_safe fun _ _ => ⟨trivial, trivial⟩
  refine Safe.bind (fun accepted v _ => ?_) haccepts
  cases accepted with
  | error failure => exact onGateway_safe fun _ _ => ⟨trivial, failure, rfl⟩
  | ok target =>
    -- the token is looked at before the client is asked, and it is cancelled
    refine Safe.bind (Q := (· = .error (.cancelled c.operation))) (fun reply u hreply => ?_) ?_
    · subst hreply
      exact onGateway_safe fun _ _ => ⟨trivial, _, rfl⟩
    · refine Safe.follow fun u hu => ?_
      have hu : u.isCancelled b.token = true := hu
      rw [if_pos hu]
      exact rfl

end

/-- **A clone goes where its snapshot is**, whatever labels it asks for. -/
theorem accept_clone {r : CreateVolume} {id : String} (hr : r.source = .snapshot id) (g : Gateway)
    (tags : Tags) :
    g.accept (.createVolume { r with affinityTags := tags }) = g.accept (.createVolume r) := by
  simp only [Gateway.accept, Gateway.clusterFor, hr]
  rfl

/-! ## Loopback arrays -/

/-- Whether an array is a loopback array. -/
def isLoopback : Backend → Bool
  | .loopback _ => true
  | .remote _ => false

/-- All arrays are loopback arrays. -/
def OnlyLoopbacks (shelf : Shelf) : Prop := ∀ x ∈ shelf.backends, isLoopback x = true

instance (shelf : Shelf) : Decidable (OnlyLoopbacks shelf) :=
  inferInstanceAs (Decidable (∀ x ∈ shelf.backends, isLoopback x = true))

/-- **Arrays, clusters and owners are as they were.** -/
structure Untouched (v w : World Deployment) : Prop where
  shelf : w.state.shelf = v.state.shelf
  clusters : w.state.gateway.clusters = v.state.gateway.clusters
  resources : w.state.gateway.resources = v.state.gateway.resources

/-- There are only loopback arrays, and acts leave them alone. -/
def amidLoopbacks : Rely Deployment where
  others _ w := OnlyLoopbacks w.state.shelf
  own := Untouched
  attentive := False
  others_trans _ h := h
  own_refl _ := ⟨rfl, rfl, rfl⟩
  own_others _ h := h
  clock_le h := h.elim
  cancelled h := h.elim

theorem not_remote {shelf : Shelf} {client : Client} {r : Remote} (h : OnlyLoopbacks shelf) :
    shelf.get? client ≠ some (.remote r) := by
  intro hr
  have hloopback := h _ (List.mem_of_getElem? hr)
  cases hloopback

theorem amidLoopbacks_dial : LetsDial amidLoopbacks :=
  fun _ _ _ _ _ hv hr => absurd hr (not_remote hv)

theorem amidLoopbacks_note : LetsNote amidLoopbacks :=
  fun _ _ hclusters hresources => ⟨rfl, hclusters, hresources⟩

/-- Putting an array where it is changes nothing. -/
theorem set_same {shelf : Shelf} {client : Client} {x : Backend} (h : shelf.get? client = some x) :
    shelf.set client x = shelf := by
  obtain ⟨hlt, hget⟩ := List.getElem?_eq_some_iff.mp h
  have hset : shelf.backends.set client.place x = shelf.backends := by
    rw [← hget]
    exact List.set_getElem_self hlt
  simp only [Shelf.set, hset]

/-- **A loopback array is changed only by a call that succeeds.** -/
theorem callArray_spares (b : Bound) (client : Client) (c : Call) :
    Spares amidLoopbacks (fun reply => ∃ x, reply = .ok x) (callArray b client c) w := by
  refine Spares.follow fun v hv => ?_
  cases hs : v.state.shelf.get? client with
  | none => trivial
  | some backend =>
    cases backend with
    | remote r => exact absurd hs (not_remote hv)
    | loopback a =>
      intro u hu
      cases hget : u.state.shelf.get? client with
      | none => exact Or.inr ⟨by simpa [hget] using amidLoopbacks.own_refl u, trivial⟩
      | some backend =>
        cases backend with
        | remote r => exact absurd hget (not_remote hu)
        | loopback a =>
          -- the array refuses the call and is left as it was, or this is the last act
          simp only [hget]
          cases hreply : (a.perform u.state.now c).2 with
          | ok x => exact Or.inl ⟨.ok x, rfl, x, rfl⟩
          | error failure =>
            refine Or.inr ⟨⟨?_, rfl, rfl⟩, trivial⟩
            show u.state.shelf.set client (.loopback (a.perform u.state.now c).1) = u.state.shelf
            rw [Loopback.perform_error hreply]
            exact set_same hget

/-- Whether a request has failed. -/
def Request.Fails : (r : Request) → r.Answer → Prop
  | .call _, answer => ∃ failure, answer = .error failure
  | .list _, answer => ∃ failure, answer = .error failure
  | .health, _ => False
  | .status, _ => False

theorem failed_call_untouched {failure : Failure} (ha : a = .error failure)
    (hloopbacks : ∀ x ∈ s :: t, OnlyLoopbacks x.world.state.shelf)
    (h : Runs moves (perform b c) s t (.done a) s') : Besides moves Untouched s s' := by
  obtain ⟨t1, x, t2, rfl, hothers, hrest⟩ := perform_decides (V := .arrays) h
  have hx : x.put (accepting x.world c) ∈ t1 ++ x.put (accepting x.world c) :: t2 :=
    List.mem_append_right _ List.mem_cons_self
  have hscenes : ∀ y ∈ x.put (accepting x.world c) :: t2, OnlyLoopbacks y.world.state.shelf :=
    fun y hy => hloopbacks y (List.mem_cons_of_mem _ (List.mem_append_right _ hy))
  have hbefore : Besides moves Untouched s x := .of_moves (hothers (.done ())).moves_of_done
  have hquiet := accept_quiet x.world.state.gateway c
  have haccepted : Besides moves Untouched s (x.put (accepting x.world c)) :=
    hbefore.tail (.own ⟨rfl, hquiet.1, hquiet.2⟩)
  refine haccepted.trans ?_
  cases haccept : (x.world.state.gateway.accept c).1 with
  | error failure =>
    rw [haccept] at hrest
    have hrefused : Runs moves (refuse c failure) (x.put (accepting x.world c)) t2 (.done a) s' :=
      hrest
    refine hrefused.besides (R := amidLoopbacks) (Q := fun _ => True) (fun _ _ _ hy => hy)
      hscenes ?_
    exact onGateway_safe fun _ _ => ⟨⟨rfl, rfl, rfl⟩, trivial⟩
  | ok target =>
    rw [haccept] at hrest
    obtain ⟨reply, t3, y, t4, rfl, hasked, hconcludes⟩ := Runs.bind_done hrest
    obtain ⟨g, hreply⟩ := onGateway_result hconcludes
    have hspares := hasked.spares (fun _ _ _ hy => hy)
      (fun z hz => hscenes z (Runs.mem_before t4 hz))
      (Spares.run (callArray_spares b target.client c))
    rcases hspares with ⟨v, rfl⟩ | hspares
    · -- a call to which the array replied with a success does not fail
      rw [hreply] at ha
      cases ha
    · cases reply with
      | ok v =>
        rw [hreply] at ha
        cases ha
      | error failure =>
        refine hspares.trans (hconcludes.besides (R := amidLoopbacks) (Q := fun _ => True)
          (fun _ _ _ hz => hz) (fun z hz => ?_) ?_)
        · rcases List.mem_cons.mp hz with rfl | hz
          · exact hscenes _ (Runs.mem_before t4 hasked.end_mem)
          · exact hscenes z (List.mem_cons_of_mem _ (List.mem_append_right t3 hz))
        · exact onGateway_safe fun _ _ => ⟨⟨rfl, rfl, rfl⟩, trivial⟩

/-- **A request that fails leaves loopback arrays alone**, and clusters and owners. -/
theorem failed_untouched (r : Request) {answer : r.Answer} (hfails : r.Fails answer)
    (hloopbacks : ∀ x ∈ s :: t, OnlyLoopbacks x.world.state.shelf)
    (h : Runs moves (r.work b) s t (.done answer) s') : Besides moves Untouched s s' := by
  cases r with
  | call c =>
    obtain ⟨failure, ha⟩ := hfails
    exact failed_call_untouched ha hloopbacks h
  | list kind =>
    exact h.besides (fun _ _ _ hy => hy) hloopbacks
      (listAll_safe amidLoopbacks_dial amidLoopbacks_note b kind)
  | health => exact hfails.elim
  | status => exact hfails.elim

/-! ## Calls that overlap -/

/-- **Owners change only with confirmed changes of the arrays, and each call touches one cluster.**

Callers make requests side by side, each over clients that answer what they like, and created
resources bear new names. Then no cluster changes, and the owners are at any time those of the
beginning, with a record for each creation that was answered with a success, and without the ids of
the deletions that were. A call asks the client of the cluster that owns its resource, and no other;
one that is refused asks nobody, and so does any request whose token is cancelled, a listing among
them. A clone goes where its snapshot is, whatever labels it asks for. Over loopback arrays, a request
that fails changes no array, no cluster and no owner. -/
theorem calls_settle_owners :
    (∀ s s' : Scene Deployment (List Caller), AllBegin s → Fresh s s' →
      Relation.ReflTransGen Moves s s' →
        s'.world.state.gateway.clusters = s.world.state.gateway.clusters ∧
        (∀ id r, s'.world.state.gateway.resources.record? id = some r ↔
          (s.world.state.gateway.resources.record? id = some r ∨
            ∃ i, madeAt s' i = some r ∧ r.id = id) ∧ ∀ i, droppedAt s' i ≠ some id) ∧
        (∀ i r b v, s'.others[i]? = some ⟨.call (.createVolume r), b, .done (.ok v)⟩ →
          ∃ c, v.clusterId = some c ∧ madeAt s' i = some ⟨v.id, c, .volume⟩) ∧
        ∀ i r b v, s'.others[i]? = some ⟨.call (.createSnapshot r), b, .done (.ok v)⟩ →
          ∃ c, v.clusterId = some c ∧ madeAt s' i = some ⟨v.id, c, .snapshot⟩) ∧
    (∀ {ε : Type} (moves : Scene Deployment ε → Scene Deployment ε → Prop) (V : Clients) (b : Bound)
      (c : Call) (s s' : Scene Deployment ε) (t : List (Scene Deployment ε))
      (a : Except Failure c.Answer), Runs moves (V.perform b c) s t (.done a) s' →
        (∃ x, Went moves V b c s t a s' x) ∧
        ((∀ x y, moves x y → x.world.isCancelled b.token = true →
            y.world.isCancelled b.token = true) → s.world.isCancelled b.token = true →
          (∃ failure, a = .error failure) ∧
            ContactsOnly (fun _ => False) V (·.perform b c) moves s t a s')) ∧
    (∀ {ε : Type} (moves : Scene Deployment ε → Scene Deployment ε → Prop) (V : Clients) (b : Bound)
      (r : Request) (s s' : Scene Deployment ε) (t : List (Scene Deployment ε)) (answer : r.Answer),
      (∀ x y, moves x y → x.world.isCancelled b.token = true →
        y.world.isCancelled b.token = true) → s.world.isCancelled b.token = true →
      Runs moves (V.work b r) s t (.done answer) s' →
        ContactsOnly (fun _ => False) V (·.work b r) moves s t answer s') ∧
    (∀ (g : Gateway) (r : CreateVolume) (id : String) (tags : Tags), r.source = .snapshot id →
      g.accept (.createVolume { r with affinityTags := tags }) = g.accept (.createVolume r)) ∧
    ∀ {ε : Type} (moves : Scene Deployment ε → Scene Deployment ε → Prop) (b : Bound) (r : Request)
      (s s' : Scene Deployment ε) (t : List (Scene Deployment ε)) (answer : r.Answer),
      Runs moves (r.work b) s t (.done answer) s' → r.Fails answer →
        (∀ x ∈ s :: t, OnlyLoopbacks x.world.state.shelf) → Besides moves Untouched s s' := by
  refine ⟨fun s s' hbegin hfresh hmoves => ?_, fun moves V b c s s' t a h => ⟨went h, ?_⟩,
    fun moves V b r s s' t answer hkeep hs h => cancelled_asks_nobody hkeep hs h,
    fun g r id tags hr => accept_clone hr g tags, fun moves b r s s' t answer h hfails hloopbacks =>
      failed_untouched r hfails hloopbacks h⟩
  · have hend : Accounted s s' := accounted hbegin hfresh hmoves
    refine ⟨hend.clusters, hend.owners, fun i r b v hi => ?_, fun i r b v hi => ?_⟩
    · obtain ⟨c, hc⟩ := hend.stamped hi
      exact ⟨c, hc, by simp [madeAt, hi, Caller.made, Activity.result?, Request.made, hc]⟩
    · obtain ⟨c, hc⟩ := hend.stamped hi
      exact ⟨c, hc, by simp [madeAt, hi, Caller.made, Activity.result?, Request.made, hc]⟩
  · intro hkeep hs
    have h : Runs moves (V.work b (.call c)) s t (.done a) s' := h
    exact ⟨cancelled_fails hkeep hs h, cancelled_asks_nobody hkeep hs h⟩

/-! ## Two callers -/

/-- A caller that creates a volume. -/
def creator : Caller :=
  Clients.arrays.caller (.call (.createVolume ⟨"v", 1, .new, .empty, .empty⟩)) free

/-- A caller that deletes the volume of the slow array. -/
def deleter : Caller := Clients.arrays.caller (.call (.deleteVolume "a-old")) free

/-- Both are about to begin. -/
def twoBegin : Scene Deployment (List Caller) := ⟨.start slowArray, [creator, deleter]⟩

/-- The creator is served. -/
def creatorServed : World Deployment × Work creator.request.Answer × Bool :=
  creator.rest.advance twoBegin.world false

/-- The deleter is served. -/
def deleterServed : World Deployment × Work deleter.request.Answer × Bool :=
  deleter.rest.advance creatorServed.1 false

/-- Both are served. -/
def twoServed : Scene Deployment (List Caller) :=
  ⟨deleterServed.1, [creator.goOn creatorServed.2.1, deleter.goOn deleterServed.2.1]⟩

theorem twoServed_moves : Relation.ReflTransGen Moves twoBegin twoServed := by
  have hcreator := runs_caller (.done ()) 0 creator twoBegin.world [creator, deleter] false
    (by simp)
  have hdeleter := runs_caller (.done ()) 1 deleter creatorServed.1
    [creator.goOn creatorServed.2.1, deleter] false (by simp)
  exact hcreator.moves_of_done.trans hdeleter.moves_of_done

/-- The only created volume. -/
theorem madeAt_twoServed {i : Nat} {r : Resource} (h : madeAt twoServed i = some r) :
    i = 0 ∧ r = ⟨"a-vol-000001", "a", .volume⟩ := by
  have hfirst : madeAt twoServed 0 = some ⟨"a-vol-000001", "a", .volume⟩ := by decide +kernel
  have hsecond : madeAt twoServed 1 = none := by decide +kernel
  match i with
  | 0 =>
    rw [hfirst] at h
    exact ⟨rfl, (Option.some.inj h).symm⟩
  | 1 =>
    rw [hsecond] at h
    cases h
  | n + 2 => cases h

theorem twoServed_fresh : Fresh twoBegin twoServed := by
  refine ⟨fun i r hr => ?_, fun i j r q hr hq _ => ?_⟩
  · obtain ⟨-, rfl⟩ := madeAt_twoServed hr
    decide +kernel
  · exact (madeAt_twoServed hr).1.trans (madeAt_twoServed hq).1.symm

/-- The volume that is created has an owner, and the one that is deleted has none. A look at a
volume asks one client, and nobody if it is cancelled, and neither does a listing; and a volume that is
not to shrink stays as it is. -/
theorem calls_settle_owners_twoCallers :
    (twoServed.world.state.gateway.resources.record? "a-vol-000001" =
        some ⟨"a-vol-000001", "a", .volume⟩ ∧
      twoServed.world.state.gateway.resources.record? "a-old" = none) ∧
    (∃ a t s' x, Went (ε := Unit) (fun _ _ => False) .arrays free (.getVolume "a-old")
      ⟨.start slowArray, ()⟩ t a s' x) ∧
    (∃ (a : Except Failure Volume) (t : List (Scene Deployment Unit)) (s' : Scene Deployment Unit),
      (∃ failure, a = .error failure) ∧
        ContactsOnly (fun _ => False) .arrays (·.perform ⟨⟨[0]⟩, none⟩ (.getVolume "a-old"))
          (fun _ _ => False) ⟨(World.start slowArray).cancel ⟨[0]⟩, ()⟩ t a s') ∧
    (∃ (answer : Except Failure (Listing Volume)) (t : List (Scene Deployment Unit))
      (s' : Scene Deployment Unit),
      ContactsOnly (fun _ => False) .arrays (·.work ⟨⟨[0]⟩, none⟩ (.list .volume))
        (fun _ _ => False) ⟨(World.start slowArray).cancel ⟨[0]⟩, ()⟩ t answer s') ∧
    (slowArray.gateway.accept
        (.createVolume ⟨"v", 1, .snapshot "s", Keyed.empty.insert "zone" "z", .empty⟩) =
      slowArray.gateway.accept (.createVolume ⟨"v", 1, .snapshot "s", .empty, .empty⟩)) ∧
    Besides (fun _ _ => False) Untouched (⟨.start slowArray, ()⟩ : Scene Deployment Unit)
      ⟨doing (.start slowArray) ((Request.call (.resizeVolume ⟨"a-old", 0⟩)).work free),
        ()⟩ := by
  obtain ⟨howners, hcalls, hcancelled, hclone, hfailed⟩ := calls_settle_owners
  refine ⟨?_, ?_, ?_, ?_, ?_, ?_⟩
  · have hbegin : AllBegin twoBegin := by
      refine List.forall_mem_cons.mpr ⟨⟨.arrays, _, _, rfl⟩, List.forall_mem_cons.mpr ?_⟩
      exact ⟨⟨.arrays, _, _, rfl⟩, fun _ h => absurd h List.not_mem_nil⟩
    obtain ⟨-, hrecords, -⟩ := howners twoBegin twoServed hbegin twoServed_fresh twoServed_moves
    have hmade : madeAt twoServed 0 = some ⟨"a-vol-000001", "a", .volume⟩ := by decide +kernel
    have hdropped : droppedAt twoServed 1 = some "a-old" := by decide +kernel
    have hother : droppedAt twoServed 0 = none := by decide +kernel
    constructor
    · refine (hrecords _ _).mpr ⟨Or.inr ⟨0, hmade, rfl⟩, fun i hi => ?_⟩
      match i with
      | 0 => rw [hother] at hi; cases hi
      | 1 => rw [hdropped] at hi; exact absurd (Option.some.inj hi) (by decide)
      | n + 2 => cases hi
    · refine Option.eq_none_iff_forall_ne_some.mpr fun r hr => ?_
      exact ((hrecords _ _).mp hr).2 1 hdropped
  · have hanswer : ((Clients.arrays.perform free (.getVolume "a-old")).advance
        (.start slowArray) false).2.1.result?.isSome := by decide +kernel
    obtain ⟨a, hrun⟩ := exists_runs_of_isSome (fun _ _ => False) () hanswer
    obtain ⟨hwent, -⟩ := hcalls _ .arrays _ _ _ _ _ a hrun
    exact ⟨a, _, _, hwent⟩
  · have hanswer : ((Clients.arrays.perform ⟨⟨[0]⟩, none⟩ (.getVolume "a-old")).advance
        ((World.start slowArray).cancel ⟨[0]⟩) false).2.1.result?.isSome := by decide +kernel
    obtain ⟨a, hrun⟩ := exists_runs_of_isSome (fun _ _ => False) () hanswer
    obtain ⟨-, hnobody⟩ := hcalls _ .arrays _ _ _ _ _ a hrun
    exact ⟨a, _, _, hnobody (fun _ _ h => h.elim) (World.isCancelled_cancel _ _)⟩
  · have hanswer : ((Clients.arrays.work ⟨⟨[0]⟩, none⟩ (.list .volume)).advance
        ((World.start slowArray).cancel ⟨[0]⟩) false).2.1.result?.isSome := by decide +kernel
    obtain ⟨answer, hrun⟩ := exists_runs_of_isSome (fun _ _ => False) () hanswer
    exact ⟨answer, _, _, hcancelled _ .arrays _ _ _ _ _ answer (fun _ _ h => h.elim)
      (World.isCancelled_cancel _ _) hrun⟩
  · exact hclone slowArray.gateway ⟨"v", 1, .snapshot "s", .empty, .empty⟩ "s" _ rfl
  · have hanswer : (((Request.call (.resizeVolume ⟨"a-old", 0⟩)).work free).advance
        (.start slowArray) false).2.1.result?.map (fun a => a.toOption.isNone) = some true := by
      decide +kernel
    obtain ⟨a, ha, hfails⟩ := Option.map_eq_some_iff.mp hanswer
    cases a with
    | ok v => cases hfails
    | error failure =>
      exact hfailed _ _ _ _ _ _ _ (runs_of_result (fun _ _ => False) () ha) ⟨failure, rfl⟩
        (by decide +kernel)

end FederatedStorage.Deployment
