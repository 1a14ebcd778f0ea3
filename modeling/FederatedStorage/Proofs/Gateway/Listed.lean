import FederatedStorage.Proofs.Gateway.SyncResources
import FederatedStorage.Proofs.Gateway.Fetches

/-!
# Listings over all clusters

A listing asks all managed clusters at once and waits for all of them. Then it puts together what has
come in the order of the clusters, whatever the order in which it came. Every cluster is accounted for
once: by its items, which are said to be its own whatever it says itself, or by its failure. Only if
there are clusters and all have failed does the listing fail, with the failure of the first.

## Main statements

* `gather_accounts`: what is put together accounts for all contributions.
* `listAll_contributions`: a listing is put together from what all clusters contribute.
* `listAll_takes`: when a listing ends, and with what, if each cluster has something at some instant.
* `listings_account`: all of this together.
-/

namespace FederatedStorage.Deployment

open Schedule Gateway

variable {ε : Type} {moves : Scene Deployment ε → Scene Deployment ε → Prop} {V : Clients}
  {b : Bound} {kind : ResourceKind} {K : Surroundings Deployment} {w w' : World Deployment}
  {s s' : Scene Deployment ε} {t : List (Scene Deployment ε)}
  {result : Except Failure (Listing kind.Item)}

/-! ## Accounts -/

/-- The cluster that an item says it is on. -/
def clusterOf : (kind : ResourceKind) → kind.Item → Option String
  | .volume, v => v.clusterId
  | .snapshot, s => s.clusterId

/-- An item with its cluster overwritten. -/
def onCluster (clusterId : String) : (kind : ResourceKind) → kind.Item → kind.Item
  | .volume, v => { v with clusterId := some clusterId }
  | .snapshot, s => { s with clusterId := some clusterId }

/-- The items of a contribution, as they are listed. -/
def shownItems (kind : ResourceKind) (c : Contribution kind.Item) : List kind.Item :=
  match c.result with
  | .ok items => items.map (onCluster c.clusterId kind)
  | .error _ => []

/-- The failure of a contribution, as it is listed. -/
def excuse? {α : Type} (c : Contribution α) : Option ClusterFailure :=
  match c.result with
  | .ok _ => none
  | .error failure => some ⟨c.clusterId, failure.message⟩

/-- Whether a cluster has answered. -/
def hasAnswered {α : Type} (c : Contribution α) : Bool :=
  match c.result with
  | .ok _ => true
  | .error _ => false

/-- **A listing accounts for contributions**: for each one by its items or by its failure, in their
order. It fails only with all of them, and then as the first. -/
structure Accounts (kind : ResourceKind) (cs : List (Contribution kind.Item))
    (result : Except Failure (Listing kind.Item)) : Prop where
  succeeds : (cs = [] ∨ ∃ c ∈ cs, hasAnswered c = true) →
    result = .ok ⟨cs.flatMap (shownItems kind), cs.filterMap excuse?⟩
  fails : ∀ c rest, cs = c :: rest → (∀ x ∈ cs, hasAnswered x = false) →
    ∃ failure, c.result = .error failure ∧ result = .error failure
  owned : ∀ c ∈ cs, ∀ item ∈ shownItems kind c, clusterOf kind item = some c.clusterId
  failed : (cs.filterMap excuse?).map ClusterFailure.clusterId =
    (cs.filter fun c => !hasAnswered c).map Contribution.clusterId

/-- What is listed of the failures is what is listed of the contributions that have failed. -/
theorem contributedFailures_map {α : Type} (cs : List (Contribution α)) :
    ((contributedFailures cs).map fun f => (⟨f.1, f.2.message⟩ : ClusterFailure)) =
      cs.filterMap excuse? := by
  unfold contributedFailures
  rw [List.map_filterMap]
  refine List.filterMap_congr fun c _ => ?_
  unfold excuse?
  cases c.result <;> rfl

theorem excused_eq {α : Type} (cs : List (Contribution α)) :
    (cs.filterMap excuse?).map ClusterFailure.clusterId =
      (cs.filter fun c => !hasAnswered c).map Contribution.clusterId := by
  induction cs with
  | nil => rfl
  | cons c cs ih =>
    obtain ⟨clusterId, result⟩ := c
    cases result with
    | ok items => exact ih
    | error failure => exact congrArg (clusterId :: ·) ih

/-- As many have failed as there are if none has answered. -/
theorem all_failed_iff {α : Type} (cs : List (Contribution α)) :
    (contributedFailures cs).length = cs.length ↔ ∀ c ∈ cs, hasAnswered c = false := by
  have hlength : (contributedFailures cs).length = (cs.filter fun c => !hasAnswered c).length := by
    have hexcused := congrArg List.length (excused_eq cs)
    rw [← contributedFailures_map] at hexcused
    simpa using hexcused
  rw [hlength, List.length_filter_eq_length_iff]
  simp

theorem clusterOf_onCluster {clusterId : String} (kind : ResourceKind) (item : kind.Item) :
    clusterOf kind (onCluster clusterId kind item) = some clusterId := by
  cases kind <;> rfl

/-- What is put together of the answers are the items as they are listed. -/
theorem contributedItems_eq (kind : ResourceKind) (cs : List (Contribution kind.Item)) :
    contributedItems kind cs = cs.flatMap (shownItems kind) := by
  have hstamp : ∀ clusterId, stamp clusterId kind = onCluster clusterId kind := by
    intro clusterId
    funext item
    cases kind <;> rfl
  refine congrArg (List.flatMap · cs) (funext fun c => ?_)
  obtain ⟨clusterId, result⟩ := c
  cases result with
  | ok items => exact congrArg (fun f => items.map f) (hstamp clusterId)
  | error failure => rfl

/-- **What is put together accounts for all contributions.** -/
theorem gather_accounts (kind : ResourceKind) (cs : List (Contribution kind.Item)) :
    Accounts kind cs (Gateway.gather kind cs) where
  succeeds h := by
    rw [← contributedFailures_map, ← contributedItems_eq]
    unfold Gateway.gather
    cases hfailed : contributedFailures cs with
    | nil => rfl
    | cons first rest =>
      -- somebody has failed, so there are clusters, and one has answered
      have hsome : ∃ c ∈ cs, hasAnswered c = true := by
        rcases h with rfl | h
        · cases hfailed
        · exact h
      have hnot : ¬ (first :: rest).length = cs.length := by
        rw [← hfailed, all_failed_iff]
        intro hall
        obtain ⟨c, hc, hanswered⟩ := hsome
        rw [hall c hc] at hanswered
        cases hanswered
      simp only [hnot, if_false]
  fails c rest hcs hnone := by
    have hlength := (all_failed_iff cs).mpr hnone
    obtain ⟨clusterId, result⟩ := c
    cases result with
    | ok items =>
      have hc := hnone _ (hcs ▸ List.mem_cons_self)
      cases hc
    | error failure =>
      refine ⟨failure, rfl, ?_⟩
      have hfirst : contributedFailures cs = (clusterId, failure) :: contributedFailures rest := by
        rw [hcs]
        rfl
      unfold Gateway.gather
      rw [hfirst] at hlength ⊢
      exact if_pos hlength
  owned c hc item hitem := by
    unfold shownItems at hitem
    cases hresult : c.result with
    | ok items =>
      rw [hresult] at hitem
      obtain ⟨own, -, rfl⟩ := List.mem_map.mp hitem
      exact clusterOf_onCluster kind own
    | error failure =>
      rw [hresult] at hitem
      cases hitem
  failed := excused_eq cs

/-! ## Among others -/

/-- **What a cluster may contribute** in one of the scenes: the failure of having no client, what the
client answers, or the end of the bound. -/
inductive Contributed (answers : Client → Except Failure (List kind.Item) → Prop) (b : Bound)
    (scenes : List (Scene Deployment ε)) : Contribution kind.Item → Prop
  | missing {x : Scene Deployment ε} {clusterId : String} {failure : Failure} (hx : x ∈ scenes)
      (htarget : x.world.state.gateway.targetOf clusterId = .error failure) :
      Contributed answers b scenes ⟨clusterId, .error failure⟩
  | answered {x : Scene Deployment ε} {clusterId : String} {target : Target}
      {r : Except Failure (List kind.Item)} (hx : x ∈ scenes)
      (htarget : x.world.state.gateway.targetOf clusterId = .ok target)
      (hanswer : answers target.client r) : Contributed answers b scenes ⟨clusterId, r⟩
  | givenUp {x y : Scene Deployment ε} {clusterId : String} {target : Target} (hx : x ∈ scenes)
      (htarget : x.world.state.gateway.targetOf clusterId = .ok target) (hy : y ∈ scenes) :
      Contributed answers b scenes ⟨clusterId, .error (b.interruption y.world kind.listing)⟩

/-- What is safe whatever the others do is safe when they do only some of it. -/
theorem safe_amid {α : Type} {own : World Deployment → World Deployment → Prop}
    {own_refl : ∀ w, own w w} {I : World Deployment → Prop} {Q : α → Prop} :
    ∀ {p : Work α} {w : World Deployment}, Safe (.nothing own own_refl) Q p w →
      Safe (.amid I) Q p w
  | .done _, _, h => h
  | .act _ _, _, h => fun w' _ => ⟨trivial, safe_amid (h w' trivial).2⟩
  | .wait _ _ _, _, h => ⟨False.elim, fun w' _ _ => safe_amid (h.2 w' trivial False.elim)⟩

theorem contribute_safe {answers : Client → Except Failure (List kind.Item) → Prop}
    (hanswers : ∀ x w, Safe quietly (answers x) (V.list b x kind) w)
    {scenes : List (Scene Deployment ε)} (clusterId : String) :
    Safe (.amid fun v => ∃ x ∈ scenes, x.world = v)
      (fun c => c.clusterId = clusterId ∧ Contributed answers b scenes c)
      (V.contribute b kind clusterId) w := by
  refine Safe.bind (Q := fun found => ∃ x ∈ scenes, x.world.state.gateway.targetOf clusterId = found)
    (fun found v hfound => ?_) (Safe.look ?_)
  · obtain ⟨x, hx, htarget⟩ := hfound
    cases found with
    | error failure => exact ⟨rfl, .missing hx htarget⟩
    | ok target =>
      refine Safe.bind (Q := fun r => Contributed answers b scenes ⟨clusterId, r⟩)
        (fun r _ hr => ?_) (Safe.run ?_ ?_)
      · exact And.intro rfl hr
      · rintro _ _ ⟨y, hy, rfl⟩ -
        exact .givenUp hx htarget hy
      · exact (safe_amid (hanswers target.client v)).mono fun r hr => .answered hx htarget hr
  · rintro v ⟨x, hx, rfl⟩
    exact ⟨x, hx, rfl⟩

/-- What belongs together, belongs to each other's names. -/
theorem clusterIds_of_forall₂ {P : Contribution kind.Item → Prop} {ids : List String}
    {cs : List (Contribution kind.Item)}
    (h : List.Forall₂ (fun id c => c.clusterId = id ∧ P c) ids cs) :
    cs.map Contribution.clusterId = ids ∧ ∀ c ∈ cs, P c := by
  induction h with
  | nil => exact ⟨rfl, fun _ hc => absurd hc List.not_mem_nil⟩
  | @cons id c ids cs hc _ ih =>
    refine ⟨?_, List.forall_mem_cons.mpr ⟨hc.2, ih.2⟩⟩
    rw [List.map_cons, hc.1, ih.1]

/-- **A listing is put together from one contribution of each cluster** that is managed in a scene. -/
theorem listAll_contributions {answers : Client → Except Failure (List kind.Item) → Prop}
    (hanswers : ∀ x w, Safe quietly (answers x) (V.list b x kind) w)
    (h : Runs moves (V.listAll b kind) s t (.done result) s') :
    ∃ x ∈ s :: t, ∃ cs : List (Contribution kind.Item),
      cs.map Contribution.clusterId = x.world.state.gateway.clusters.ids ∧
        (∀ c ∈ cs, Contributed answers b (s :: t) c) ∧ result = Gateway.gather kind cs := by
  obtain ⟨t1, x, t2, rfl, hothers, hrest⟩ := Runs.act_done h
  have hgathers : Runs moves
      ((Activity.all (x.world.state.gateway.clusters.ids.map (V.contribute b kind))).bind fun cs =>
        let result := Gateway.gather kind cs
        onGateway fun g => (g.observe kind.listing result, result)) x t2 (.done result) s' := hrest
  obtain ⟨cs, t3, y, t4, rfl, hall, hnote⟩ := Runs.bind_done hgathers
  have hx : x ∈ s :: t1 := (hothers (.done () : Work Unit)).end_mem
  have hscenes : ∀ z ∈ x :: t3, ∃ y ∈ s :: (t1 ++ x :: (t3 ++ t4)), y.world = z.world := by
    intro z hz
    refine ⟨z, ?_, rfl⟩
    rcases List.mem_cons.mp hz with rfl | hz
    · exact Runs.mem_before _ hx
    · exact Runs.mem_after hx (by simp [hz])
  have hforall := hall.result (R := .amid fun v => ∃ z ∈ s :: (t1 ++ x :: (t3 ++ t4)), z.world = v)
    (fun _ _ _ hy => hy) hscenes (Safe.all fun c _ => contribute_safe hanswers c)
  obtain ⟨hids, hcs⟩ := clusterIds_of_forall₂ hforall
  obtain ⟨_, hresult⟩ := onGateway_result hnote
  exact ⟨x, Runs.mem_before _ hx, cs, hids, hcs, hresult⟩

/-! ## In time -/

/-- **What becomes of asking a cluster, and when**: it has no client; the call does not begin, as its
token is cancelled; the client answers by the deadline; or the deadline comes first. -/
inductive Contributes (K : Surroundings Deployment) (V : Clients) (b : Bound) (kind : ResourceKind)
    (w : World Deployment) (clusterId : String) : Except Failure (List kind.Item) → Nat → Prop
  | missing {failure : Failure} (htarget : w.state.gateway.targetOf clusterId = .error failure) :
      Contributes K V b kind w clusterId (.error failure) w.clock
  | cancelled {target : Target} (htarget : w.state.gateway.targetOf clusterId = .ok target)
      (hcancelled : w.isCancelled b.token = true) :
      Contributes K V b kind w clusterId (.error (.cancelled kind.listing)) w.clock
  | answered {target : Target} {r : Except Failure (List kind.Item)} {e : Nat}
      (htarget : w.state.gateway.targetOf clusterId = .ok target)
      (hfree : w.isCancelled b.token = false) (hd : ∀ d, b.deadline = some d → e ≤ d)
      (hlists : Takes K K.keeps (At (· = r) e) (V.list b target.client kind) w) :
      Contributes K V b kind w clusterId r e
  | late {target : Target} {r : Except Failure (List kind.Item)} {d e : Nat}
      (htarget : w.state.gateway.targetOf clusterId = .ok target)
      (hfree : w.isCancelled b.token = false) (hd : b.deadline = some d) (hwd : w.clock ≤ d)
      (hlate : d < e)
      (hlists : Takes K K.keeps (At (· = r) e) (V.list b target.client kind) w) :
      Contributes K V b kind w clusterId (.error (.timeout kind.listing)) d

theorem contribute_takes {clusterId : String} {r : Except Failure (List kind.Item)} {e : Nat}
    (hclusters : ∀ v w, K.keeps v w → w.state.gateway.clusters = v.state.gateway.clusters)
    (h : Contributes K V b kind w clusterId r e) :
    Takes K K.keeps (At (· = ⟨clusterId, r⟩) e) (V.contribute b kind clusterId) w := by
  refine Takes.look_bind K.refl fun v hv => ?_
  have htargets : v.state.gateway.targetOf clusterId = w.state.gateway.targetOf clusterId := by
    unfold Gateway.targetOf
    rw [hclusters w v hv.1]
  simp only [htargets]
  -- with a client, the contribution is what becomes of the bounded call
  have hrun : ∀ {client : Client} {r : Except Failure (List kind.Item)} {e : Nat},
      Takes K K.keeps (At (· = r) e) (b.run kind.listing (V.list b client kind)) w →
        Takes K K.keeps (At (· = (⟨clusterId, r⟩ : Contribution kind.Item)) e)
          ((b.run kind.listing (V.list b client kind)).bind fun r => .done ⟨clusterId, r⟩) v := by
    intro client r e hr
    refine Takes.bind (fun a u ha => ?_) (hr.aside hv)
    exact fun u' hu' => ⟨congrArg (Contribution.mk clusterId) ha.1, hu'.2.trans ha.2⟩
  cases h with
  | missing htarget =>
    simp only [htarget]
    exact fun u hu => ⟨rfl, hu.2.trans hv.2⟩
  | cancelled htarget hcancelled =>
    simp only [htarget]
    refine hrun (Takes.follow K.refl fun u hu => ?_)
    have hcancelled' : u.isCancelled b.token = true := by
      unfold World.isCancelled at hcancelled ⊢
      rw [K.cancelled hu.1, hcancelled]
    rw [if_pos hcancelled']
    exact fun u' hu' => ⟨rfl, hu'.2.trans hu.2⟩
  | answered htarget hfree hd hlists =>
    simp only [htarget]
    exact hrun (Takes.run_ends hfree hd hlists)
  | late htarget hfree hd hwd hlate hlists =>
    simp only [htarget]
    exact hrun (Takes.run_expires hfree hd hwd hlate hlists)

/-- **A listing ends with the last cluster**, and is put together from all of them in their order. -/
theorem listAll_takes {outcome : String → Except Failure (List kind.Item)} {e : String → Nat}
    (hclusters : ∀ v w, K.keeps v w → w.state.gateway.clusters = v.state.gateway.clusters)
    (h : ∀ c ∈ w.state.gateway.clusters.ids, Contributes K V b kind w c (outcome c) (e c)) :
    Takes K (fun _ _ => True)
      (At (· = Gateway.gather kind (w.state.gateway.clusters.ids.map fun c => ⟨c, outcome c⟩))
        ((w.state.gateway.clusters.ids.map e).foldr max w.clock))
      (V.listAll b kind) w := by
  refine Takes.look_bind (fun _ => trivial) fun v hv => ?_
  have hids : v.state.gateway.clusters.ids = w.state.gateway.clusters.ids := by
    rw [hclusters w v hv.1]
  simp only [hids]
  have hall : Takes K K.keeps _
      (.all (w.state.gateway.clusters.ids.map (V.contribute b kind))) w :=
    Takes.all fun c hc => contribute_takes hclusters (h c hc)
  have halls : Takes K (fun _ _ => True) _
      (.all (w.state.gateway.clusters.ids.map (V.contribute b kind))) v :=
    (hall.aside hv).wider fun _ _ _ => trivial
  refine Takes.bind (fun cs u hu => ?_) halls
  have hcs : cs = w.state.gateway.clusters.ids.map fun c => ⟨c, outcome c⟩ := by
    have heq : List.Forall₂ Eq (w.state.gateway.clusters.ids.map _) cs :=
      List.forall₂_map_left_iff.mpr (hu.1.imp fun _ _ hx => hx.symm)
    rw [List.forall₂_eq_eq_eq] at heq
    exact heq.symm
  rw [← hcs]
  refine Takes.step fun u' hu' => ⟨trivial, rfl, fun u'' hu'' => ⟨rfl, ?_⟩⟩
  exact hu''.2.trans (hu'.2.trans hu.2)

/-- **Listings are complete and account for all clusters**, whoever acts meanwhile and whatever the
clients answer: there is one contribution of each cluster that is managed when the listing begins, in
ascending order, and the listing accounts for all of them. And a listing returns: whatever each
cluster has at whatever instant, it ends with the last one and accounts for exactly that. -/
theorem listings_account :
    (∀ {ε : Type} (moves : Scene Deployment ε → Scene Deployment ε → Prop) (V : Clients) (b : Bound)
      (kind : ResourceKind) (answers : Client → Except Failure (List kind.Item) → Prop)
      (s s' : Scene Deployment ε) (t : List (Scene Deployment ε))
      (result : Except Failure (Listing kind.Item)),
      (∀ x w, Safe quietly (answers x) (V.list b x kind) w) →
      Runs moves (V.listAll b kind) s t (.done result) s' →
        ∃ x ∈ s :: t, ∃ cs : List (Contribution kind.Item),
          cs.map Contribution.clusterId = x.world.state.gateway.clusters.ids ∧
            (cs.map Contribution.clusterId).Pairwise (· < ·) ∧
            (∀ c ∈ cs, Contributed answers b (s :: t) c) ∧ Accounts kind cs result) ∧
      ∀ (K : Surroundings Deployment) (V : Clients) (b : Bound) (kind : ResourceKind)
        (w : World Deployment) (outcome : String → Except Failure (List kind.Item))
        (e : String → Nat),
        (∀ v w, K.keeps v w → w.state.gateway.clusters = v.state.gateway.clusters) →
        (∀ c ∈ w.state.gateway.clusters.ids, Contributes K V b kind w c (outcome c) (e c)) →
          (∀ p v, Prompt K (V.listAll b kind) w p v → ∃ r w', Prompt K p v (.done r) w') ∧
          ∀ result w', Prompt K (V.listAll b kind) w (.done result) w' →
            Accounts kind (w.state.gateway.clusters.ids.map fun c => ⟨c, outcome c⟩) result ∧
              w'.clock = (w.state.gateway.clusters.ids.map e).foldr max w.clock := by
  constructor
  · intro ε moves V b kind answers s s' t result hanswers h
    obtain ⟨x, hx, cs, hids, hcs, rfl⟩ := listAll_contributions hanswers h
    refine ⟨x, hx, cs, hids, ?_, hcs, gather_accounts kind cs⟩
    rw [hids]
    exact x.world.state.gateway.clusters.ids_ascending
  · intro K V b kind w outcome e hclusters h
    obtain ⟨hcompletes, hends⟩ := (listAll_takes hclusters h).ends
    refine ⟨hcompletes, fun result w' hrun => ?_⟩
    obtain ⟨rfl, hclock⟩ := hends result w' hrun
    exact ⟨gather_accounts kind _, hclock⟩

/-- An array that is faster than the unhurried one, and says that its volume is elsewhere. -/
def quicker : Loopback :=
  (Loopback.new "b" ⟨none, none, some 100⟩).putVolume
    ⟨"b-old", "v", 1, none, [], .empty, Time.Timestamp.yearStart 2000, some "elsewhere"⟩

/-- Two clusters that answer in the other order, and one without a client. -/
def answeringLate : Deployment :=
  let now := Time.Timestamp.yearStart 2000
  let cluster (id : String) (client : Option Client) : Cluster :=
    ⟨id, loopbackVendor, .empty, .null, now, client⟩
  let shelf : Shelf := ⟨[.loopback unhurried, .loopback quicker], .empty⟩
  let d := new 0 .empty shelf (.list []) ⟨true, none⟩ now
  { d with
    gateway :=
      { d.gateway with
        clusters :=
          ((d.gateway.clusters.set "a" (cluster "a" (some ⟨0⟩))).set "b"
            (cluster "b" (some ⟨1⟩))).set "c" (cluster "c" none) } }

/-- What the clusters have to say. -/
def lateOutcome (deadline : Nat) (clusterId : String) : Except Failure (List Volume) :=
  if clusterId = "c" then .error (.clientUnavailable "c")
  else if deadline < 100 then .error (.timeout "list_volumes")
  else if clusterId = "a" then .ok unhurried.volumes.values else .ok quicker.volumes.values

/-- When they have it. -/
def lateEnd (deadline : Nat) (clusterId : String) : Nat :=
  if clusterId = "c" then 0 else min deadline (if clusterId = "a" then 300 else 100)

theorem lists_at {client : Client} {a : Loopback} {ms : UInt64}
    (ha : answeringLate.shelf.get? client = some (.loopback a))
    (hms : a.config.listLatencyMs = some ms) (hlist : a.list .volume = .ok a.volumes.values) :
    Takes besideArrays besideArrays.keeps (At (· = .ok a.volumes.values) ms.toNat)
      (Clients.arrays.list b client .volume) (.start answeringLate) := by
  refine Takes.follow besideArrays.refl fun u hu => ?_
  have hshelf : u.state.shelf.get? client = some (.loopback a) := by
    rw [hu.1.2.1]
    exact ha
  simp only [hshelf, hlist, hms]
  refine Takes.bind (fun _ x hx => ?_) (Takes.waitUntil (Nat.le_add_right _ _))
  refine fun x' hx' => ⟨rfl, ?_⟩
  rw [hx'.2, hx.2, hu.2]
  exact Nat.zero_add _

theorem late_contributes {ms : Nat} (hms : ms = 50 ∨ ms = 1000) :
    ∀ c ∈ answeringLate.gateway.clusters.ids,
      Contributes besideArrays .arrays ⟨.root, some ms⟩ .volume (.start answeringLate) c
        (lateOutcome ms c) (lateEnd ms c) := by
  have ha : Takes besideArrays besideArrays.keeps _
      (Clients.arrays.list ⟨.root, some ms⟩ ⟨0⟩ .volume) (.start answeringLate) :=
    lists_at (a := unhurried) rfl rfl rfl
  have hb : Takes besideArrays besideArrays.keeps _
      (Clients.arrays.list ⟨.root, some ms⟩ ⟨1⟩ .volume) (.start answeringLate) :=
    lists_at (a := quicker) rfl rfl rfl
  have htargetA : answeringLate.gateway.targetOf "a" = .ok ⟨"a", ⟨0⟩⟩ := by rfl
  have htargetB : answeringLate.gateway.targetOf "b" = .ok ⟨"b", ⟨1⟩⟩ := by rfl
  have hids : answeringLate.gateway.clusters.ids = ["a", "b", "c"] := by decide
  rw [hids]
  intro c hc
  simp only [List.mem_cons, List.not_mem_nil, or_false] at hc
  rcases hms with rfl | rfl <;> rcases hc with rfl | rfl | rfl
  · exact .late htargetA rfl rfl (by decide) (by decide) ha
  · exact .late htargetB rfl rfl (by decide) (by decide) hb
  · exact .missing rfl
  · exact .answered htargetA rfl (fun d hd => by cases hd; decide) ha
  · exact .answered htargetB rfl (fun d hd => by cases hd; decide) hb
  · exact .missing rfl

/-- The items stand in the order of the clusters, although the second one answers first; if nobody
answers in time, the failure of the first one counts, although the third one fails first. -/
theorem listings_account_answeringLate :
    (∃ t s' result, Runs (fun _ _ => False) (Clients.arrays.listAll free .volume)
        (⟨.start twoClusters, ()⟩ : Scene Deployment Unit) t (.done result) s' ∧
      ∃ cs : List (Contribution Volume),
        cs.map Contribution.clusterId = ["a", "b"] ∧ Accounts .volume cs result) ∧
    (∃ w', Prompt besideArrays (Clients.arrays.listAll ⟨.root, some 1000⟩ .volume)
        (.start answeringLate)
        (.done (.ok ⟨(unhurried.volumes.values.map (onCluster "a" .volume)) ++
          quicker.volumes.values.map (onCluster "b" .volume),
          [⟨"c", "Cluster c has no usable vendor client"⟩]⟩)) w' ∧ w'.clock = 300) ∧
    ∃ w', Prompt besideArrays (Clients.arrays.listAll ⟨.root, some 50⟩ .volume)
        (.start answeringLate) (.done (.error (.timeout "list_volumes"))) w' ∧ w'.clock = 50 := by
  obtain ⟨hamong, htimed⟩ := listings_account
  have hids : answeringLate.gateway.clusters.ids = ["a", "b", "c"] := by decide
  refine ⟨?_, ?_, ?_⟩
  · let p := Clients.arrays.listAll free .volume
    have hend : (p.advance (.start twoClusters) false).2.1.result?.isSome = true := by
      decide +kernel
    obtain ⟨result, hrun⟩ := exists_runs_of_isSome (fun _ _ => False) () hend
    obtain ⟨x, hx, cs, hcs, -, -, haccounts⟩ := hamong _ _ _ _ (fun _ _ => True) _ _ _ _
      (fun x w => Clients.arrays.list_safe free x .volume w) hrun
    refine ⟨_, _, result, hrun, cs, ?_, haccounts⟩
    -- nobody changes the clusters on the way
    have htrail : (p.trail (.start twoClusters)).all
        (fun y => y.1.state.gateway.clusters.ids = ["a", "b"]) = true := by decide +kernel
    rw [hcs]
    rcases List.mem_cons.mp hx with rfl | hx
    · decide
    · obtain ⟨y, hy, rfl⟩ := List.mem_map.mp hx
      exact of_decide_eq_true (List.all_eq_true.mp htrail y hy)
  · obtain ⟨hcompletes, hends⟩ := htimed besideArrays .arrays ⟨.root, some 1000⟩ .volume
      (.start answeringLate) (lateOutcome 1000) (lateEnd 1000)
      (fun _ _ => besideArrays_keepsPasses.clusters) (late_contributes (Or.inr rfl))
    obtain ⟨result, w', hrun⟩ := hcompletes _ _ (.here _ _)
    obtain ⟨haccounts, hclock⟩ := hends result w' hrun
    have hresult := haccounts.succeeds (Or.inr ⟨_, List.mem_cons_self, rfl⟩)
    rw [hresult] at hrun
    exact ⟨w', hrun, hclock⟩
  · obtain ⟨hcompletes, hends⟩ := htimed besideArrays .arrays ⟨.root, some 50⟩ .volume
      (.start answeringLate) (lateOutcome 50) (lateEnd 50)
      (fun _ _ => besideArrays_keepsPasses.clusters) (late_contributes (Or.inl rfl))
    obtain ⟨result, w', hrun⟩ := hcompletes _ _ (.here _ _)
    obtain ⟨haccounts, hclock⟩ := hends result w' hrun
    obtain ⟨failure, hfirst, hresult⟩ := haccounts.fails _ _ rfl (by decide)
    cases hfirst
    rw [hresult] at hrun
    exact ⟨w', hrun, hclock⟩

end FederatedStorage.Deployment
