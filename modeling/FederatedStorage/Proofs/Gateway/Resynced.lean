import FederatedStorage.Proofs.Gateway.Cancelled
import FederatedStorage.Proofs.Gateway.Contacts
import FederatedStorage.Proofs.Schedule.Bounded

/-!
# Taking one resource for a cluster's

A resync records the owner first and looks afterwards whether the cluster has the resource. While it
looks, others may write what they like, and its last act undoes only a record that is still the
cluster's. So a run of it has three moments: the act in which it is refused or records the owner, the
moment at which it has an answer, and the act in which it concludes.

## Main statements

* `beginResync_refused`, `beginResync_accepted`: when a resync is refused.
* `endResync_verdict`: what the last act does.
* `resync_begins`, `resync_ends`, `resync_returns`: the runs of a resync.
* `resync_exact`: what a resync does to the owners, among others and alone.
-/

namespace FederatedStorage.Deployment

open Schedule Gateway Relation

variable {ε : Type} {moves : Scene Deployment ε → Scene Deployment ε → Prop} {V : Clients}
  {b : Bound} {r : Resync} {s s' x y : Scene Deployment ε} {t : List (Scene Deployment ε)}
  {client : Client} {failure : Failure} {verified : Except Failure Unit}
  {answer : Except Failure ResyncAnswer} {v w : World Deployment}

/-! ## The first act -/

/-- **Why a resync is refused**, if it is: no ID, no such cluster, or no client for it. -/
def refusal? (g : Gateway) (r : Resync) : Option Failure :=
  if r.resourceId = "" then some (.invalidRequest "resource_id must not be empty")
  else
    match g.clusters.clusters.get? r.clusterId with
    | none => some (.clusterNotFound r.clusterId)
    | some c => if c.hasClient then none else some (.clientUnavailable c.id)

/-- A resync is refused exactly when it cannot begin. -/
theorem refusal?_eq (g : Gateway) (r : Resync) :
    refusal? g r = match g.beginResync r with
      | .error failure => some failure
      | .ok _ => none := by
  unfold refusal? Gateway.beginResync Gateway.refuseEmpty
  by_cases hid : r.resourceId = ""
  · rw [if_pos hid, if_pos (by rw [hid]; rfl)]
    rfl
  · rw [if_neg hid, if_neg (by rw [String.isEmpty_iff]; exact hid)]
    simp only [Gateway.targetOf, ClusterRegistry.clientOf, ClusterRegistry.find]
    cases g.clusters.clusters.get? r.clusterId with
    | none => rfl
    | some c =>
      obtain ⟨id, vendor, tags, config, since, client⟩ := c
      cases client <;> rfl

theorem beginResync_refused {g : Gateway} (h : refusal? g r = some failure) :
    g.beginResync r = .error failure := by
  rw [refusal?_eq] at h
  cases hbegin : g.beginResync r with
  | error f =>
    rw [hbegin] at h
    exact congrArg Except.error (Option.some.inj h)
  | ok begun =>
    rw [hbegin] at h
    cases h

/-- A resync that is not refused records the owner, and asks the client of its cluster. -/
theorem beginResync_accepted {g : Gateway} (h : refusal? g r = none) :
    ∃ target, g.beginResync r = .ok (target, g.own r.resource) ∧
      g.clusters.clientOf r.clusterId = .ok target.client := by
  rcases beginResync_cases g r with ⟨failure, hbegin⟩ | hok
  · rw [refusal?_eq, hbegin] at h
    cases h
  · exact hok

/-! ## The last act -/

/-- **Only the record of one resource changes.** -/
def OnlyRecord (id : String) (v w : World Deployment) : Prop :=
  ∀ other, other ≠ id →
    w.state.gateway.resources.record? other = v.state.gateway.resources.record? other

/-- **A record is withdrawn if it is still the cluster's.** -/
structure Withdraws (r : Resync) (v w : World Deployment) : Prop where
  only : OnlyRecord r.resourceId v w
  record : w.state.gateway.resources.record? r.resourceId =
    (v.state.gateway.resources.record? r.resourceId).filter fun q => q.clusterId ≠ r.clusterId

/-- **What a resync does and answers in the end**, after what it has been told. -/
inductive Verdict (r : Resync) (v w : World Deployment) :
    Except Failure Unit → Except Failure ResyncAnswer → Prop
  | present (h : SameOwners v w) : Verdict r v w (.ok ()) (.ok ⟨r, true⟩)
  | absent {failure : Failure} (hfound : failure.isNotFound = true) (h : Withdraws r v w) :
      Verdict r v w (.error failure) (.ok ⟨r, false⟩)
  | failed {failure : Failure} (hfound : failure.isNotFound = false) (h : SameOwners v w) :
      Verdict r v w (.error failure) (.error failure)

/-- The world once a resync has concluded. -/
def concluding (w : World Deployment) (r : Resync) (verified : Except Failure Unit) :
    World Deployment :=
  let ended := w.state.gateway.endResync r verified
  w.modify fun d => { d with gateway := ended.1.observe resyncOperation ended.2 }

/-- **A record that the cluster does not confirm** is withdrawn if it is the cluster's. -/
theorem record?_endResync (g : Gateway) (r : Resync) (hfound : failure.isNotFound = true)
    (id : String) :
    (g.endResync r (.error failure)).1.resources.record? id =
      if id = r.resourceId then
        (g.resources.record? id).filter fun q => q.clusterId ≠ r.clusterId
      else g.resources.record? id := by
  simp only [Gateway.endResync, hfound, if_true]
  by_cases hid : id = r.resourceId
  · subst hid
    rw [if_pos rfl]
    cases hrecord : g.resources.record? r.resourceId with
    | none => exact hrecord
    | some q =>
      rw [Option.filter_some]
      by_cases hq : q.clusterId = r.clusterId
      · simp [Gateway.disown, hq]
      · simp [hrecord, hq]
  · rw [if_neg hid]
    split
    · exact (Ownership.record?_unmap _ _ _).trans (if_neg hid)
    · rfl

theorem endResync_verdict (w : World Deployment) (r : Resync) (verified : Except Failure Unit) :
    Verdict r w (concluding w r verified) verified (w.state.gateway.endResync r verified).2 := by
  cases verified with
  | ok u => exact .present rfl
  | error failure =>
    have hresources : (concluding w r (.error failure)).state.gateway.resources =
        (w.state.gateway.endResync r (.error failure)).1.resources := rfl
    cases hfound : failure.isNotFound with
    | false =>
      have hend : w.state.gateway.endResync r (.error failure) =
          (w.state.gateway, .error failure) := by simp [Gateway.endResync, hfound]
      rw [hend] at hresources ⊢
      exact .failed hfound hresources
    | true =>
      have hanswer : (w.state.gateway.endResync r (.error failure)).2 = .ok ⟨r, false⟩ := by
        simp [Gateway.endResync, hfound]
      rw [hanswer]
      refine .absent hfound ⟨fun other hother => ?_, ?_⟩
      · rw [hresources, record?_endResync _ r hfound, if_neg hother]
      · rw [hresources, record?_endResync _ r hfound, if_pos rfl]

theorem Verdict.only (h : Verdict r v w verified answer) : OnlyRecord r.resourceId v w := by
  cases h with
  | present hsame => exact fun _ _ => by rw [hsame]
  | absent _ hwithdraws => exact hwithdraws.only
  | failed _ hsame => exact fun _ _ => by rw [hsame]

/-! ## Runs -/

/-- The calls' own acts while a resync asks its client. -/
theorem verifying_idle : Safe idly (fun _ => True) (b.run resyncOperation (V.verify b client r)) w :=
  quiet_idle (Safe.run (fun _ _ _ _ => trivial) (Clients.verify_quiet client r))

/-- **What the client is asked comes to**: its answer, or the end of the bound. -/
def Heard (moves : Scene Deployment ε → Scene Deployment ε → Prop) (V : Clients) (b : Bound)
    (client : Client) (r : Resync) (s : Scene Deployment ε) (t : List (Scene Deployment ε))
    (verified : Except Failure Unit) (s' : Scene Deployment ε) : Prop :=
  (∃ t', Runs moves (V.verify b client r) s t' (.done verified) s') ∨
    ∃ x ∈ s :: t, verified = .error (b.interruption x.world resyncOperation)

/-- **A run of a resync**: it is refused, or records the owner, asks, and concludes. -/
inductive Resynced (moves : Scene Deployment ε → Scene Deployment ε → Prop) (V : Clients) (b : Bound)
    (r : Resync) (s : Scene Deployment ε) (answer : Except Failure ResyncAnswer)
    (s' : Scene Deployment ε) : Prop
  | refused {x : Scene Deployment ε} {failure : Failure} (hx : ReflTransGen moves s x)
      (hrefused : refusal? x.world.state.gateway r = some failure)
      (hanswer : answer = .error failure) (hend : Besides moves SameOwners x s')
  | accepted {x y : Scene Deployment ε} {t : List (Scene Deployment ε)} {client : Client}
      {verified : Except Failure Unit} {w : World Deployment} (hx : ReflTransGen moves s x)
      (haccepted : refusal? x.world.state.gateway r = none)
      (hclient : x.world.state.gateway.clusters.clientOf r.clusterId = .ok client)
      (hheard : Heard moves V b client r (x.put (owning x.world r.resource)) t verified y)
      (hpending : Besides moves SameOwners (x.put (owning x.world r.resource)) y)
      (hverdict : Verdict r y.world w verified answer) (hend : ReflTransGen moves (y.put w) s')

/-- A run that asks the client ends with its answer, or with the end of the bound. -/
theorem heard_of_runs
    (h : Runs moves (b.run resyncOperation (V.verify b client r)) s t (.done verified) s') :
    Heard moves V b client r s t verified s' := by
  have hinv := Runs.run_inv (R := quietly) (fun _ _ _ _ => trivial) (fun _ _ => trivial)
    (Clients.verify_quiet client r) h
  obtain ⟨p, t', hp, ⟨-, hq⟩ | hstands⟩ := hinv
  · cases hq
  · rcases hstands.of_done with rfl | ⟨x, hx, -, hgiven⟩
    · exact Or.inl ⟨t', hp⟩
    · exact Or.inr ⟨x, hx, hgiven⟩

/-- A resync that is refused. -/
def decline (failure : Failure) : Work (Except Failure ResyncAnswer) :=
  onGateway fun g =>
    (g.observe resyncOperation (.error failure : Except Failure Unit), .error failure)

/-- A resync that has recorded the owner. -/
def Clients.lookUp (V : Clients) (b : Bound) (client : Client) (r : Resync) :
    Work (Except Failure ResyncAnswer) :=
  (b.run resyncOperation (V.verify b client r)).bind fun verified =>
    onGateway fun g =>
      let ended := g.endResync r verified
      (ended.1.observe resyncOperation ended.2, ended.2)

/-- **A resync is refused or records the owner in one scene**, up to which only the others have
moved. -/
theorem resync_begins (h : Runs moves (V.resync b r) s t (.done answer) s') :
    ∃ x t2, ReflTransGen moves s x ∧
      ((∃ failure, refusal? x.world.state.gateway r = some failure ∧
          Runs moves (decline failure) x t2 (.done answer) s') ∨
        ∃ client, refusal? x.world.state.gateway r = none ∧
          x.world.state.gateway.clusters.clientOf r.clusterId = .ok client ∧
          Runs moves (V.lookUp b client r) (x.put (owning x.world r.resource)) t2 (.done answer)
            s') := by
  obtain ⟨t1, x, t2, -, hothers, hrest⟩ := Runs.act_done h
  refine ⟨x, t2, (hothers (.done () : Work Unit)).moves_of_done, ?_⟩
  cases hrefusal : refusal? x.world.state.gateway r with
  | some failure =>
    simp only [beginResync_refused hrefusal] at hrest
    exact Or.inl ⟨failure, rfl, hrest⟩
  | none =>
    obtain ⟨target, hbegin, hclient⟩ := beginResync_accepted hrefusal
    simp only [hbegin] at hrest
    exact Or.inr ⟨target.client, rfl, hclient, hrest⟩

/-- **Every run of a resync has its parts.** -/
theorem resync_ends (h : Runs moves (V.resync b r) s t (.done answer) s') :
    Resynced moves V b r s answer s' := by
  obtain ⟨x, t2, hx, ⟨failure, hrefused, hrun⟩ | ⟨client, haccepted, hclient, hrun⟩⟩ :=
    resync_begins h
  · obtain ⟨_, hanswer⟩ := onGateway_result hrun
    have hidle : Safe idly (fun _ => True) (decline failure) x.world :=
      onGateway_safe fun _ _ => ⟨rfl, trivial⟩
    exact .refused hx hrefused hanswer (hidle.besides hrun)
  · obtain ⟨verified, t3, y, t4, -, hasked, hends⟩ := Runs.bind_done hrun
    obtain ⟨t5, z, t6, -, hothers, hdone⟩ := Runs.act_done hends
    -- the others may move between the answer and the act that concludes
    have hheard := hasked.trans (hothers _)
    obtain ⟨hanswer, -⟩ := hdone.of_done
    cases hanswer
    exact .accepted hx haccepted hclient (heard_of_runs hheard) (verifying_idle.besides hheard)
      (endResync_verdict z.world r verified) hdone.moves_of_done

theorem refused_step (V : Clients) (b : Bound)
    (h : refusal? w.state.gateway r = some failure) :
    (V.resync b r).Step w (decline failure) w := by
  have hstep : (V.resync b r).Step w _ _ := .act _ _ w
  simp only [beginResync_refused h] at hstep
  exact hstep

theorem accepted_step (V : Clients) (b : Bound) (h : refusal? w.state.gateway r = none)
    (hclient : w.state.gateway.clusters.clientOf r.clusterId = .ok client) :
    (V.resync b r).Step w (V.lookUp b client r) (owning w r.resource) := by
  obtain ⟨target, hbegin, htarget⟩ := beginResync_accepted h
  rw [hclient] at htarget
  cases htarget
  have hstep : (V.resync b r).Step w _ _ := .act _ _ w
  simp only [hbegin] at hstep
  exact hstep

/-- **A resync that is refused returns**, wherever it is refused. -/
theorem resync_returns_refused (moves : Scene Deployment ε → Scene Deployment ε → Prop)
    (V : Clients) (b : Bound) (h : refusal? s.world.state.gateway r = some failure) :
    ∃ t s', Runs moves (V.resync b r) s t (.done (.error failure)) s' := by
  have hdeclines : ∃ t s', Runs moves (decline failure) s t (.done (.error failure)) s' :=
    ⟨_, _, .act (.here _ _)⟩
  obtain ⟨t, s', hrun⟩ := hdeclines
  exact ⟨_, s', .step (refused_step V b h) hrun⟩

/-- **A resync that has heard of the resource returns.** -/
theorem resync_returns (haccepted : refusal? s.world.state.gateway r = none)
    (hclient : s.world.state.gateway.clusters.clientOf r.clusterId = .ok client)
    (h : Runs moves (b.run resyncOperation (V.verify b client r))
      (s.put (owning s.world r.resource)) t (.done verified) y) :
    ∃ t' answer w, Runs moves (V.resync b r) s t' (.done answer) (y.put w) ∧
      Verdict r y.world w verified answer := by
  let w := concluding y.world r verified
  have hends : Runs moves (V.lookUp b client r) (s.put (owning s.world r.resource))
      (t ++ [y.put w]) (.done (y.world.state.gateway.endResync r verified).2) (y.put w) :=
    h.bind (.act (.here _ _))
  exact ⟨_, _, w, .step (accepted_step V b haccepted hclient) hends, endResync_verdict _ r _⟩

/-! ## What a resync does to the owners -/

/-- A resync changes no record but that of its resource. -/
theorem Resynced.only (h : Resynced moves V b r s answer s') :
    Besides moves (OnlyRecord r.resourceId) s s' := by
  have hidle : ∀ v w, SameOwners v w → OnlyRecord r.resourceId v w := fun _ _ hw _ _ => by rw [hw]
  cases h with
  | refused hx _ _ hend => exact (Besides.of_moves hx).trans (hend.mono hidle)
  | @accepted x y t client verified w hx _ _ _ hpending hverdict hend =>
    have howning : OnlyRecord r.resourceId x.world (owning x.world r.resource) := fun other ho =>
      (Ownership.record?_map _ _ _).trans (if_neg ho)
    have hbegun : Besides moves (OnlyRecord r.resourceId) s (x.put (owning x.world r.resource)) :=
      (Besides.of_moves hx).tail (.own howning)
    have hdone : Besides moves (OnlyRecord r.resourceId) s (y.put w) :=
      (hbegun.trans (hpending.mono hidle)).tail (.own hverdict.only)
    exact hdone.trans (Besides.of_moves hend)

/-- **What becomes of the owners when nobody else writes**: nothing if the resync is refused;
otherwise the resource is the cluster's, or nobody's if the cluster does not have it. -/
inductive Outcome (r : Resync) (o : Ownership) :
    Option Failure → Except Failure ResyncAnswer → Ownership → Prop
  | refused (failure : Failure) : Outcome r o (some failure) (.error failure) o
  | present : Outcome r o none (.ok ⟨r, true⟩) (o.map r.resource)
  | failed {failure : Failure} (hfound : failure.isNotFound = false) :
      Outcome r o none (.error failure) (o.map r.resource)
  | absent : Outcome r o none (.ok ⟨r, false⟩) (o.unmap r.resourceId)

/-- Others who do not write leave the owners as they were. -/
theorem sameOwners_of_still (hstill : ∀ x y, moves x y → SameOwners x.world y.world)
    (h : Besides moves SameOwners s s') : SameOwners s.world s'.world :=
  h.keep (J := fun x => SameOwners s.world x.world)
    (fun x y hmove hx => (hstill x y hmove).trans hx) (fun _ _ hw hx => Eq.trans hw hx) rfl

/-- Two tables of owners are one if all lookups agree. -/
theorem ownership_ext {o o' : Ownership} (h : ∀ id, o'.record? id = o.record? id) : o' = o := by
  obtain ⟨records, hkeys⟩ := o
  obtain ⟨records', hkeys'⟩ := o'
  have hrecords : records' = records := Keyed.ext_get? h
  subst hrecords
  rfl

/-- The withdrawal of a record that was just made leaves none, whoever had it before. -/
theorem Withdraws.unmaps (h : Withdraws r v w) {o : Ownership}
    (hv : v.state.gateway.resources = o.map r.resource) :
    w.state.gateway.resources = o.unmap r.resourceId := by
  refine ownership_ext fun id => ?_
  rw [Ownership.record?_unmap]
  by_cases hid : id = r.resourceId
  · rw [if_pos hid, hid, h.record, hv, Ownership.record?_map]
    simp [Resync.resource]
  · rw [if_neg hid, h.only id hid, hv, Ownership.record?_map]
    exact if_neg hid

theorem Resynced.alone (hstill : ∀ x y, moves x y → SameOwners x.world y.world)
    (h : Resynced moves V b r s answer s') :
    ∃ x, ReflTransGen moves s x ∧
      Outcome r s.world.state.gateway.resources (refusal? x.world.state.gateway r) answer
        s'.world.state.gateway.resources := by
  cases h with
  | @refused x failure hx hrefused hanswer hend =>
    have hsame := sameOwners_of_still hstill ((Besides.of_moves hx).trans hend)
    refine ⟨x, hx, ?_⟩
    rw [hrefused, hanswer, hsame]
    exact .refused failure
  | @accepted x y t client verified w hx haccepted hclient hheard hpending hverdict hend =>
    have hbegun := sameOwners_of_still hstill (Besides.of_moves hx)
    have hy := sameOwners_of_still hstill hpending
    have hend := sameOwners_of_still hstill (Besides.of_moves hend)
    have hrecorded : y.world.state.gateway.resources =
        s.world.state.gateway.resources.map r.resource := by
      rw [← hbegun]
      exact hy
    refine ⟨x, hx, ?_⟩
    rw [haccepted, hend]
    cases hverdict with
    | present hsame =>
      rw [Scene.put_world, hsame, hrecorded]
      exact .present
    | absent hfound hwithdraws =>
      rw [Scene.put_world, hwithdraws.unmaps hrecorded]
      exact .absent
    | failed hfound hsame =>
      rw [Scene.put_world, hsame, hrecorded]
      exact .failed hfound

/-- **What a resync does**, whatever its client answers and whatever others do meanwhile. Every run
has the parts that `Resynced` names and changes no other record; if the others do not write, the
owners in the end are those of the beginning but for the one record. And a resync returns: at once
if it is refused, and otherwise as soon as it has heard of the resource. -/
theorem resync_exact :
    (∀ {ε : Type} (moves : Scene Deployment ε → Scene Deployment ε → Prop) (V : Clients)
      (b : Bound) (r : Resync) (s s' : Scene Deployment ε) (t : List (Scene Deployment ε))
      (answer : Except Failure ResyncAnswer),
      Runs moves (V.resync b r) s t (.done answer) s' →
        Resynced moves V b r s answer s' ∧ Besides moves (OnlyRecord r.resourceId) s s' ∧
          ((∀ x y, moves x y → SameOwners x.world y.world) →
            ∃ x, ReflTransGen moves s x ∧
              Outcome r s.world.state.gateway.resources (refusal? x.world.state.gateway r) answer
                s'.world.state.gateway.resources)) ∧
      (∀ {ε : Type} (moves : Scene Deployment ε → Scene Deployment ε → Prop) (V : Clients)
        (b : Bound) (r : Resync) (s : Scene Deployment ε) (failure : Failure),
        refusal? s.world.state.gateway r = some failure →
          ∃ t s', Runs moves (V.resync b r) s t (.done (.error failure)) s') ∧
      ∀ {ε : Type} (moves : Scene Deployment ε → Scene Deployment ε → Prop) (V : Clients)
        (b : Bound) (r : Resync) (s y : Scene Deployment ε) (t : List (Scene Deployment ε))
        (client : Client) (verified : Except Failure Unit),
        refusal? s.world.state.gateway r = none →
        s.world.state.gateway.clusters.clientOf r.clusterId = .ok client →
        Runs moves (b.run resyncOperation (V.verify b client r))
          (s.put (owning s.world r.resource)) t (.done verified) y →
          ∃ t' answer w, Runs moves (V.resync b r) s t' (.done answer) (y.put w) ∧
            Verdict r y.world w verified answer := by
  refine ⟨fun moves V b r s s' t answer h => ?_, ?_, ?_⟩
  · have hresynced := resync_ends h
    exact ⟨hresynced, hresynced.only, hresynced.alone⟩
  · exact fun moves V b r s failure h => resync_returns_refused moves V b h
  · exact fun moves V b r s y t client verified haccepted hclient h =>
      resync_returns haccepted hclient h

/-- Somebody else takes the snapshot for another cluster's. -/
def takes : Scene Deployment Unit → Scene Deployment Unit → Prop :=
  fun x y => y = x.put (owning x.world ⟨"c-1", "b", .snapshot⟩)

/-- A resync of a snapshot that its cluster does not have drops the owner, also another one; but an
owner that somebody records while the cluster is asked stays. And a cluster without a client takes
nothing. -/
theorem resync_exact_twoClusters :
    (∃ o, Outcome ⟨"c-1", "a", .snapshot⟩ twoClusters.gateway.resources none
        (.ok ⟨⟨"c-1", "a", .snapshot⟩, false⟩) o ∧ o.record? "c-1" = none) ∧
      (∃ t s', Runs (fun _ _ => False) (Clients.arrays.resync free ⟨"b-2", "b", .volume⟩)
        (⟨.start twoClusters, ()⟩ : Scene Deployment Unit) t
        (.done (.error (.clientUnavailable "b"))) s') ∧
      ∃ y answer w, Verdict ⟨"c-1", "a", .snapshot⟩ y w
          (.error (.resourceNotFound "Snapshot" "c-1")) answer ∧
        w.state.gateway.resources.record? "c-1" = some ⟨"c-1", "b", .snapshot⟩ := by
  obtain ⟨hruns, hrefused, hreturns⟩ := resync_exact
  let s : Scene Deployment Unit := ⟨.start twoClusters, ()⟩
  let r : Resync := ⟨"c-1", "a", .snapshot⟩
  have haccepted : refusal? s.world.state.gateway r = none := by decide +kernel
  refine ⟨?_, ?_, ?_⟩
  · have hend : ((Clients.arrays.resync free r).advance s.world false).2.1.result? =
        some (.ok ⟨r, false⟩) := by decide +kernel
    have hrun := runs_of_result (fun _ _ => False) () hend
    obtain ⟨-, -, halone⟩ := hruns _ _ _ _ _ _ _ _ hrun
    obtain ⟨x, hx, houtcome⟩ := halone fun _ _ h => h.elim
    rcases hx.cases_tail with rfl | ⟨_, _, h⟩
    · rw [haccepted] at houtcome
      exact ⟨_, houtcome, by decide +kernel⟩
    · exact h.elim
  · exact hrefused _ _ _ _ _ _ (by decide +kernel)
  · -- the cluster has answered, and then somebody else records an owner
    let begun : Scene Deployment Unit := s.put (owning s.world r.resource)
    let asked := free.run resyncOperation (Clients.arrays.verify free ⟨0⟩ r)
    have hend : (asked.advance begun.world false).2.1.result? =
        some (.error (.resourceNotFound "Snapshot" "c-1")) := by decide +kernel
    have hrun : Runs takes asked begun _ _ _ :=
      (runs_of_result takes () hend).trans (.aside rfl (.here _ _))
    obtain ⟨_, answer, w, -, hverdict⟩ :=
      hreturns takes .arrays free r s _ _ ⟨0⟩ _ haccepted (by decide +kernel) hrun
    refine ⟨_, answer, w, hverdict, ?_⟩
    cases hverdict with
    | absent _ hwithdraws =>
      rw [hwithdraws.record]
      decide +kernel
    | failed hfound _ => cases hfound

end FederatedStorage.Deployment
