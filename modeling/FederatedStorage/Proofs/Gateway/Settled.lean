import FederatedStorage.Proofs.Gateway.Clients
import FederatedStorage.Proofs.Gateway.Sequential
import Mathlib.Logic.Relation

/-!
# Owners after calls that overlap

Any number of callers make their requests side by side, over clients that answer what they like
whenever they like. An owner changes only when a caller is told of a creation or of a deletion. So
the owners at any time are those of the beginning, with what callers have been told was created, and
without what they have been told was deleted, provided that no created resource bears the name of an
older one.

Such an account needs that a deletion is never concluded before the creation of the same resource. A
deletion is accepted only if the resource has an owner then, so what may be told of a deletion was
seen before: it is owned in the beginning, or its creator has been told already.

## Main statements

* `Grounded.step`: a caller that is told of a deletion tells of what was seen.
* `Accounted.move`, `accounted`: the owners at any time.
-/

namespace FederatedStorage

open Schedule Gateway

/-! ## Calls about owned resources -/

/-- **The owned resource that a call is about**: a clone is about its snapshot, and a snapshot about
its volume. -/
def Call.subject? : Call → Option String
  | getVolume id => some id
  | createVolume r =>
    match r.source with
    | .snapshot id => some id
    | .new => none
  | resizeVolume r => some r.volumeId
  | deleteVolume id => some id
  | attachVolume l => some l.volumeId
  | detachVolume l => some l.volumeId
  | getSnapshot id => some id
  | createSnapshot r => some r.volumeId
  | deleteSnapshot id => some id

variable {g : Gateway} {id : String} {target : Target}

theorem owner_ok {clusterId : String} (h : g.resources.owner id = .ok clusterId) :
    ∃ r, g.resources.record? id = some r ∧ r.clusterId = clusterId := by
  unfold Ownership.owner Ownership.find at h
  cases hr : g.resources.record? id with
  | none =>
    rw [hr] at h
    cases h
  | some r =>
    rw [hr] at h
    cases h
    exact ⟨r, rfl, rfl⟩

theorem route_owned (h : g.route id = .ok target) :
    ∃ r, g.resources.record? id = some r ∧ r.clusterId = target.clusterId := by
  unfold Gateway.route at h
  obtain ⟨c, howner, h⟩ := bind_eq_ok h
  rw [(targetOf_ok h).1]
  exact owner_ok howner

/-- **A call about an owned resource goes to its owner.** -/
theorem accept_owned {c : Call} (h : (g.accept c).1 = .ok target) (hc : c.subject? = some id) :
    ∃ r, g.resources.record? id = some r ∧ r.clusterId = target.clusterId := by
  cases c with
  | createVolume r =>
    simp only [Gateway.accept] at h
    cases hcheck : Gateway.checkCreate r with
    | error failure =>
      rw [hcheck] at h
      cases h
    | ok _ =>
      rw [hcheck] at h
      cases hsource : r.source with
      | new => simp [Call.subject?, hsource] at hc
      | snapshot source =>
        obtain rfl : source = id := by simpa [Call.subject?, hsource] using hc
        simp only [Gateway.clusterFor, hsource] at h
        cases howner : g.resources.owner source with
        | error failure =>
          rw [howner] at h
          cases h
        | ok clusterId =>
          rw [howner] at h
          rw [(targetOf_ok h).1]
          exact owner_ok howner
  | createSnapshot r =>
    simp only [Gateway.accept] at h
    cases hcheck : Gateway.refuseEmpty r.name "snapshot name" with
    | error failure =>
      rw [hcheck] at h
      cases h
    | ok _ =>
      rw [hcheck] at h
      cases hc
      exact route_owned h
  | _ =>
    cases hc
    exact route_owned h

namespace Deployment

variable {V : Clients} {b : Bound} {s x y : Scene Deployment (List Caller)}

/-! ## Callers -/

/-- A caller of clients of any kind that has not begun. -/
def Clients.caller (V : Clients) (r : Request) (b : Bound) : Caller := ⟨r, b, V.work b r⟩

theorem caller_fits (r : Request) : (V.caller r b).Fits := by
  cases r with
  | call c => exact Or.inr (Clients.perform_ends c)
  | list kind => exact fun w => Clients.listAll_quiet kind
  | health => exact fun w => Clients.health_quiet
  | status => exact fun w => status_safe quietly_note

theorem caller_untold (r : Request) :
    (V.caller r b).made = none ∧ (V.caller r b).dropped = none := by
  cases r with
  | call c =>
    have hnone : (V.perform b c).result? = none := Caller.result?_of_ends (Clients.perform_ends c)
    simp [Caller.made, Caller.dropped, Clients.caller, Clients.work, hnone]
  | _ => exact ⟨Option.bind_fun_none _, Option.bind_fun_none _⟩

/-- Callers that have not begun, each over clients of its own. -/
def AllBegin (x : Scene Deployment (List Caller)) : Prop :=
  ∀ c ∈ x.others, ∃ (V : Clients) (r : Request) (b : Bound), c = V.caller r b

theorem AllBegin.untold (h : AllBegin x) (i : Nat) : madeAt x i = none ∧ droppedAt x i = none := by
  unfold madeAt droppedAt
  cases hi : x.others[i]? with
  | none => exact ⟨rfl, rfl⟩
  | some c =>
    obtain ⟨V, r, b, rfl⟩ := h c (List.mem_of_getElem? hi)
    exact caller_untold r

/-- **What was created is stamped** with a cluster. -/
def Stamped : (r : Request) → r.Answer → Prop
  | .call (.createVolume _), .ok v => ∃ c, v.clusterId = some c
  | .call (.createSnapshot _), .ok s => ∃ c, s.clusterId = some c
  | _, _ => True

theorem conclude_stamped (g : Gateway) (clusterId : String) (c : Call)
    (answer : Except Failure c.Answer) : Stamped (.call c) (g.conclude clusterId c answer).2 := by
  cases answer with
  | error failure => cases c <;> trivial
  | ok a =>
    cases c with
    | createVolume r => exact ⟨clusterId, rfl⟩
    | createSnapshot r => exact ⟨clusterId, rfl⟩
    | _ => trivial

/-! ## What callers tell of -/

/-- A resource is owned in the beginning, or a caller has been told that it was created. -/
def Seen (s x : Scene Deployment (List Caller)) (id : String) : Prop :=
  (∃ r, s.world.state.gateway.resources.record? id = some r) ∨
    ∃ i r, madeAt x i = some r ∧ r.id = id

theorem Seen.later (h : Seen s x id) (hlater : Later x y) : Seen s y id :=
  h.imp_right fun ⟨i, r, hr, hid⟩ => ⟨i, r, hlater.made i r hr, hid⟩

/-- Nothing to count on, and acts of any kind. -/
def anyhow : Rely Deployment := .nothing (fun _ _ => True) fun _ => trivial

/-- What holds of all results holds of an activity's. -/
theorem anyhow_safe {α : Type} {Q : α → Prop} (hQ : ∀ a, Q a) :
    ∀ (p : Work α) (w : World Deployment), Safe anyhow Q p w
  | .done a, _ => hQ a
  | .act _ next, _ => fun w _ => ⟨trivial, anyhow_safe hQ (next w) _⟩
  | .wait _ _ next, _ => ⟨False.elim, fun w _ _ => anyhow_safe hQ next w⟩

/-- An answer tells of a deletion only if the resource was seen, and of a creation with its cluster.
-/
structure Telling (s x : Scene Deployment (List Caller)) (r : Request) (a : r.Answer) : Prop where
  seen : ∀ id, r.dropped a = some id → Seen s x id
  stamped : Stamped r a

/-- **A grounded caller** has not begun, or will tell only of what was seen. -/
def Grounded (s x : Scene Deployment (List Caller)) (c : Caller) : Prop :=
  (∃ (V : Clients) (r : Request) (b : Bound), c = V.caller r b) ∨
    ∀ w, Safe anyhow (Telling s x c.request) c.rest w

/-- A read tells of nothing. -/
theorem telling_read (r : Request) (hdropped : ∀ a, r.dropped a = none) (hstamped : ∀ a, Stamped r a)
    (p : Work r.Answer) (w : World Deployment) : Safe anyhow (Telling s x r) p w := by
  refine anyhow_safe (fun a => ⟨fun id hid => ?_, hstamped a⟩) p w
  rw [hdropped a] at hid
  cases hid

/-- What a call may tell of is what it is about. -/
theorem subject?_of_dropped {c : Call} {a : (Request.call c).Answer}
    (h : (Request.call c).dropped a = some id) : c.subject? = some id := by
  cases c with
  | deleteVolume x =>
    cases a with
    | error failure => cases h
    | ok _ => exact h
  | deleteSnapshot x =>
    cases a with
    | error failure => cases h
    | ok _ => exact h
  | _ => cases a <;> cases h

namespace Grounded

variable {c : Caller} {rest : Work c.request.Answer} {w : World Deployment}

theorem later (h : Grounded s x c) (hlater : Later x y) : Grounded s y c :=
  h.imp_right fun hsafe w => (hsafe w).mono fun _ ha =>
    ⟨fun id hid => (ha.seen id hid).later hlater, ha.stamped⟩

/-- **The first step of a call** accepts it or not. A deletion is accepted only of what has an owner.
-/
theorem begin_perform {call : Call} {rest : Work (Except Failure call.Answer)}
    (hseen : ∀ id r, x.world.state.gateway.resources.record? id = some r → Seen s x id)
    (hstep : (V.perform b call).Step x.world rest w) (v : World Deployment) :
    Safe anyhow (Telling s x (.call call)) rest v := by
  have hrest : rest = _ := (Activity.Step.step_bind hstep).1
  rw [hrest]
  dsimp only
  cases haccept : (x.world.state.gateway.accept call).1 with
  | error failure =>
    refine Safe.step fun _ _ => ⟨trivial, fun id hid => ?_, ?_⟩
    · cases call <;> cases hid
    · cases call <;> trivial
  | ok target =>
    have hstamped : Safe anyhow (Stamped (.call call))
        ((b.run call.operation (V.call b target.client call)).bind fun answer =>
          onGateway fun g => g.conclude target.clusterId call answer) v := by
      refine Safe.bind (Q := fun _ => True) (fun answer _ _ => ?_)
        (anyhow_safe (fun _ => trivial) _ _)
      exact Safe.step fun u _ => ⟨trivial, conclude_stamped _ _ call answer⟩
    refine hstamped.mono fun a ha => ⟨fun id hid => ?_, ha⟩
    obtain ⟨r, hr, -⟩ := accept_owned haccept (subject?_of_dropped hid)
    exact hseen id r hr

/-- **A step of a grounded caller** leaves it grounded. -/
theorem step (h : Grounded s x c)
    (hseen : ∀ id r, x.world.state.gateway.resources.record? id = some r → Seen s x id)
    (hstep : c.rest.Step x.world rest w) : Grounded s x (c.goOn rest) := by
  refine Or.inr fun v => ?_
  rcases h with ⟨V, r, b, rfl⟩ | hsafe
  · cases r with
    | call call => exact begin_perform hseen hstep v
    | list kind => exact telling_read (.list kind) (fun _ => rfl) (fun _ => trivial) rest v
    | health => exact telling_read .health (fun _ => rfl) (fun _ => trivial) rest v
    | status => exact telling_read .status (fun _ => rfl) (fun _ => trivial) rest v
  · exact ((hsafe x.world).of_step trivial hstep).2.aside trivial

/-- Who has been told of a deletion tells of what was seen. -/
theorem seen_of_dropped (h : Grounded s x c) (hid : c.dropped = some id) : Seen s x id := by
  rcases h with ⟨V, r, b, rfl⟩ | hsafe
  · rw [(caller_untold r).2] at hid
    cases hid
  · obtain ⟨request, bound, rest⟩ := c
    cases rest with
    | done a => exact (hsafe x.world).seen id hid
    | act update next => cases hid
    | wait ready due next => cases hid

end Grounded

/-! ## The account -/

/-- **Created resources bear new names**: no resource of the beginning has one of them, and no two
creations give the same. -/
structure Fresh (s x : Scene Deployment (List Caller)) : Prop where
  new : ∀ i r, madeAt x i = some r → s.world.state.gateway.resources.record? r.id = none
  once : ∀ i j r q, madeAt x i = some r → madeAt x j = some q → r.id = q.id → i = j

theorem Fresh.before (h : Fresh s y) (hlater : Later x y) : Fresh s x :=
  ⟨fun i r hr => h.new i r (hlater.made i r hr), fun i j r q hr hq =>
    h.once i j r q (hlater.made i r hr) (hlater.made j q hq)⟩

/-- **The owners are accounted for**: they are those of the beginning and those of created
resources, but for what was deleted. -/
structure Accounted (s x : Scene Deployment (List Caller)) : Prop where
  fits : AllFit x
  grounded : ∀ c ∈ x.others, Grounded s x c
  clusters : x.world.state.gateway.clusters = s.world.state.gateway.clusters
  owners : ∀ id r, x.world.state.gateway.resources.record? id = some r ↔
    (s.world.state.gateway.resources.record? id = some r ∨ ∃ i, madeAt x i = some r ∧ r.id = id) ∧
      ∀ i, droppedAt x i ≠ some id

namespace Accounted

/-- In the beginning there is nothing to account for. -/
theorem of_begin (h : AllBegin s) : Accounted s s := by
  refine ⟨fun c hc => ?_, fun c hc => Or.inl (h c hc), rfl, fun id r => ?_⟩
  · obtain ⟨V, r, b, rfl⟩ := h c hc
    exact caller_fits r
  · have hnone : ∀ i, madeAt s i = none ∧ droppedAt s i = none := h.untold
    simp [hnone]

theorem seen (h : Accounted s x) {r : Resource}
    (hr : x.world.state.gateway.resources.record? id = some r) : Seen s x id := by
  rcases ((h.owners id r).mp hr).1 with hs | ⟨i, hi, hid⟩
  · exact Or.inl ⟨r, hs⟩
  · exact Or.inr ⟨i, r, hi, hid⟩

/-- What a caller has been told was deleted had been seen. -/
theorem seen_of_droppedAt (h : Accounted s x) {i : Nat} (hi : droppedAt x i = some id) :
    Seen s x id := by
  obtain ⟨c, hc, hid⟩ := Option.bind_eq_some_iff.mp hi
  exact (h.grounded c (List.mem_of_getElem? hc)).seen_of_dropped hid

/-- **Every creation that was answered with a success** has its record. -/
theorem stamped (h : Accounted s x) {i : Nat} {r : Request} {a : r.Answer}
    (hi : x.others[i]? = some ⟨r, b, .done a⟩) : Stamped r a := by
  rcases h.grounded _ (List.mem_of_getElem? hi) with ⟨V, q, d, hc⟩ | hsafe
  · -- a call that has not begun has no answer
    cases q with
    | call c =>
      injection hc with hr hb hrest
      subst hr
      cases hrest
    | list kind => injection hc with hr; subst hr; trivial
    | health => injection hc with hr; subst hr; trivial
    | status => injection hc with hr; subst hr; trivial
  · exact (hsafe x.world).stamped

/-- A created resource was not seen before its creator was told. -/
theorem not_seen {i : Nat} {r : Resource} (hfresh : Fresh s y) (hone : OneMoves x y i)
    (hi : madeAt y i = some r) : ¬ Seen s x r.id := by
  rintro (⟨q, hq⟩ | ⟨j, q, hj, hid⟩)
  · rw [hfresh.new i r hi] at hq
    cases hq
  · have hji : j = i := hfresh.once j i q r (hone.later.made j q hj) hi hid
    rw [hji, hone.untold.1] at hj
    cases hj

/-- Other callers are told nothing about a resource when one caller moves. -/
theorem account_other {i : Nat} {r : Resource} (hone : OneMoves x y i)
    (hmade : ∀ q, madeAt y i = some q → q.id ≠ id) (hdropped : droppedAt y i ≠ some id) :
    ((s.world.state.gateway.resources.record? id = some r ∨ ∃ j, madeAt y j = some r ∧ r.id = id) ∧
        ∀ j, droppedAt y j ≠ some id) ↔
      (s.world.state.gateway.resources.record? id = some r ∨ ∃ j, madeAt x j = some r ∧ r.id = id) ∧
        ∀ j, droppedAt x j ≠ some id := by
  have hcreated : (∃ j, madeAt y j = some r ∧ r.id = id) ↔ ∃ j, madeAt x j = some r ∧ r.id = id := by
    constructor
    · rintro ⟨j, hj, hid⟩
      have hji : j ≠ i := fun he => hmade r (he ▸ hj) hid
      exact ⟨j, (hone.others j hji).1 ▸ hj, hid⟩
    · rintro ⟨j, hj, hid⟩
      exact ⟨j, hone.later.made j r hj, hid⟩
  have hdeleted : (∀ j, droppedAt y j ≠ some id) ↔ ∀ j, droppedAt x j ≠ some id := by
    constructor
    · exact fun h j hj => h j (hone.later.dropped j id hj)
    · intro h j hj
      have hji : j ≠ i := fun he => hdropped (he ▸ hj)
      exact h j ((hone.others j hji).2 ▸ hj)
  rw [hcreated, hdeleted]

/-- **A move keeps the account**: a caller that is told something changes the owners accordingly. -/
theorem move (h : Accounted s x) (hfresh : Fresh s y) (hmove : Moves x y) : Accounted s y := by
  obtain ⟨hfits, hclusters, -, i, hone, hres⟩ := hmove.cases h.fits
  refine ⟨hfits, ?_, hclusters.trans h.clusters, fun id r => ?_⟩
  · cases hmove with
    | @caller j c rest w hj hstep =>
      intro d hd
      rcases List.mem_or_eq_of_mem_set hd with hd | rfl
      · exact (h.grounded d hd).later hone.later
      · exact ((h.grounded c (List.mem_of_getElem? hj)).step (fun id r hr => h.seen hr) hstep).later
          hone.later
    | aside _ => exact fun d hd => (h.grounded d hd).later hone.later
  rw [hres]
  cases hmade : madeAt y i with
  | some q =>
    have hnone : droppedAt y i = none := Option.eq_none_iff_forall_ne_some.mpr fun d hd => by
      rw [madeAt_of_droppedAt hd] at hmade
      cases hmade
    show (x.world.state.gateway.resources.map q).record? id = some r ↔ _
    rw [Ownership.record?_map]
    by_cases hid : id = q.id
    · -- the created resource has no other record, and nobody has been told of its deletion
      subst hid
      rw [if_pos rfl]
      have hnew := not_seen hfresh hone hmade
      constructor
      · rintro ⟨⟩
        refine ⟨Or.inr ⟨i, hmade, rfl⟩, fun j hj => ?_⟩
        have hji : j ≠ i := fun he => by rw [he, hnone] at hj; cases hj
        exact hnew (h.seen_of_droppedAt ((hone.others j hji).2 ▸ hj))
      · rintro ⟨hs | ⟨j, hj, hid⟩, -⟩
        · exact absurd (Or.inl ⟨r, hs⟩) hnew
        · rw [hfresh.once j i r q hj hmade hid, hmade] at hj
          exact hj
    · rw [if_neg hid, account_other hone (fun p hp hpid => ?_) (by rw [hnone]; simp)]
      · exact h.owners id r
      · rw [hmade] at hp
        cases hp
        exact hid hpid.symm
  | none =>
    have hnotMade : ∀ p, madeAt y i = some p → p.id ≠ id := fun p hp => by rw [hmade] at hp; cases hp
    cases hdropped : droppedAt y i with
    | some d =>
      show (x.world.state.gateway.resources.unmap d).record? id = some r ↔ _
      rw [Ownership.record?_unmap]
      by_cases hid : id = d
      · subst hid
        rw [if_pos rfl]
        exact ⟨fun hr => absurd hr (by simp), fun hr => absurd hdropped (hr.2 i)⟩
      · rw [if_neg hid, account_other hone hnotMade fun hd => ?_]
        · exact h.owners id r
        · rw [hdropped] at hd
          exact hid (Option.some.inj hd).symm
    | none =>
      rw [account_other hone hnotMade (by rw [hdropped]; simp)]
      exact h.owners id r

end Accounted

/-- **However calls overlap, the owners are accounted for.** -/
theorem accounted (hbegin : AllBegin s) (hfresh : Fresh s x)
    (hmoves : Relation.ReflTransGen Moves s x) : Accounted s x := by
  induction hmoves with
  | refl => exact .of_begin hbegin
  | tail _ hmove ih => exact (ih (hfresh.before hmove.later)).move hfresh hmove

end Deployment

end FederatedStorage
