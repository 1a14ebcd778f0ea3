import FederatedStorage.Proofs.Gateway.Clients
import FederatedStorage.Proofs.Gateway.Loaded
import FederatedStorage.Proofs.Schedule.Timed

/-!
# When inventories come

Asking a cluster for its inventory is asking for both listings at once, within a bound. The bound is
the caller's, unless the gateway has a limit of its own: then the listings are still asked within the
caller's bound, but the waiting for them looks only at the limit. So a client that looks at the bound
it is given keeps the caller's deadline, and one that does not may outlive it.

## Main statements

* `fetch_takes`: when an inventory comes, and what comes then.
* `fetchLimit_eq_smallestBound_iff`, `sameUnder_smallestBound_iff`: when the caller's deadline is kept.
* `syncResources_takes`, `pass_takes`: the inventories of a pass.
* `inventories_in_time`: all of this, over the runs in which nobody tarries.
-/

namespace FederatedStorage.Deployment

open Schedule Gateway

variable {K : Surroundings Deployment} {V : Clients} {b : Bound} {w w' : World Deployment}
  {client : Client} {clusterId : String}

/-! ## Limits -/

/-- Whether something that would end at an instant ends before a limit. -/
def InTime (limit : Option Nat) (e : Nat) : Prop := (limit.all fun d => e < d) = true

instance (limit : Option Nat) (e : Nat) : Decidable (InTime limit e) :=
  inferInstanceAs (Decidable (_ = true))

/-- When it ends under a limit. -/
def endUnder (limit : Option Nat) (e : Nat) : Nat := (limit.map (min e)).getD e

/-- **What comes of something under a limit**: its result in time, or the end of the time. -/
def ComesTo {α : Type} (limit : Option Nat) (e : Nat) (result : α) (r : Except Failure α) : Prop :=
  (InTime limit e ∧ r = .ok result) ∨
    ¬ InTime limit e ∧ ∃ operation, r = .error (.timeout operation)

theorem inTime_some {d e : Nat} : InTime (some d) e ↔ e < d := by simp [InTime]

theorem inTime_none (e : Nat) : InTime none e := rfl

theorem endUnder_of_inTime {limit : Option Nat} {e : Nat} (h : InTime limit e) :
    endUnder limit e = e := by
  cases limit with
  | none => rfl
  | some d => exact Nat.min_eq_left (Nat.le_of_lt (inTime_some.mp h))

theorem endUnder_of_late {d e : Nat} (h : ¬ InTime (some d) e) : endUnder (some d) e = d := by
  rw [inTime_some] at h
  exact Nat.min_eq_right (by omega)

/-- A failure under a limit is the end of the time. -/
theorem of_comesTo_error {α : Type} {limit : Option Nat} {e : Nat} {x : α} {failure : Failure}
    (h : ComesTo limit e x (.error failure)) :
    ∃ d, limit = some d ∧ d ≤ e ∧ ∃ operation, failure = .timeout operation := by
  obtain ⟨-, hx⟩ | ⟨hlate, operation, hx⟩ := h
  · cases hx
  · cases limit with
    | none => exact absurd (inTime_none e) hlate
    | some d =>
      rw [inTime_some] at hlate
      exact ⟨d, rfl, by omega, operation, Except.error.inj hx⟩

/-- Two that are asked for at once come in time if the later one does. -/
theorem comesTo_both {α β : Type} {limit : Option Nat} {e1 e2 : Nat} {x : α} {y : β}
    {r : Except Failure (α × β)}
    (h : Takes.BothAt (ComesTo limit e1 x) (endUnder limit e1) (ComesTo limit e2 y)
      (endUnder limit e2) r w) :
    At (ComesTo limit (max e1 e2) (x, y)) (endUnder limit (max e1 e2)) r w := by
  cases r with
  | ok result =>
    obtain ⟨⟨h1, hx⟩ | ⟨-, _, hx⟩, ⟨h2, hy⟩ | ⟨-, _, hy⟩, hclock⟩ := h
    · cases hx
      cases hy
      have hin : InTime limit (max e1 e2) := by
        cases limit with
        | none => exact inTime_none _
        | some d => exact inTime_some.mpr (Nat.max_lt.mpr ⟨inTime_some.mp h1, inTime_some.mp h2⟩)
      refine ⟨Or.inl ⟨hin, rfl⟩, ?_⟩
      rw [hclock, endUnder_of_inTime h1, endUnder_of_inTime h2, endUnder_of_inTime hin]
    · cases hy
    · cases hx
    · cases hx
  | error failure =>
    -- whichever has failed has run out of time, and so it is the end of the time
    have hlate : ∀ {γ : Type} {e : Nat} {z : γ}, e ≤ max e1 e2 →
        ComesTo limit e z (.error failure) → w.clock = endUnder limit e →
        At (ComesTo limit (max e1 e2) (x, y)) (endUnder limit (max e1 e2)) (.error failure) w := by
      intro γ e z hle hz hclock
      obtain ⟨d, rfl, hde, operation, rfl⟩ := of_comesTo_error hz
      have hnot : ∀ {e' : Nat}, d ≤ e' → ¬ InTime (some d) e' := fun hd h => by
        rw [inTime_some] at h
        omega
      refine ⟨Or.inr ⟨hnot (Nat.le_trans hde hle), operation, rfl⟩, ?_⟩
      rw [hclock, endUnder_of_late (hnot hde), endUnder_of_late (hnot (Nat.le_trans hde hle))]
    rcases h with ⟨hx, hclock⟩ | ⟨hy, hclock⟩
    · exact hlate (Nat.le_max_left e1 e2) hx hclock
    · exact hlate (Nat.le_max_right e1 e2) hy hclock

/-- **Two limits make no difference** to something that would end at an instant. -/
def SameUnder (limit limit' : Option Nat) (e : Nat) : Prop :=
  (InTime limit e ↔ InTime limit' e) ∧ endUnder limit e = endUnder limit' e

/-- A deadline that is not the earlier limit changes nothing. -/
theorem under_later {limit : Option Nat} {d e : Nat} (hde : d ≠ e) (h : endUnder limit e ≤ d) :
    SameUnder (earlier (some d) limit) limit e := by
  cases limit with
  | none =>
    have hle : e ≤ d := h
    refine ⟨iff_of_true (inTime_some.mpr (by omega)) (inTime_none e), ?_⟩
    exact Nat.min_eq_left hle
  | some l =>
    have hle : min e l ≤ d := h
    show (InTime (some (min d l)) e ↔ _) ∧ min e (min d l) = min e l
    rw [inTime_some, inTime_some]
    omega

theorem under_earlier {limit : Option Nat} {d e : Nat} (h : d < endUnder limit e) :
    ¬ InTime (earlier (some d) limit) e ∧ endUnder (earlier (some d) limit) e = d := by
  cases limit with
  | none =>
    have hlt : d < e := h
    show ¬ InTime (some d) e ∧ min e d = d
    rw [inTime_some]
    omega
  | some l =>
    have hlt : d < min e l := h
    show ¬ InTime (some (min d l)) e ∧ min e (min d l) = d
    rw [inTime_some]
    omega

/-- **A call within a deadline** that comes under a limit of its own comes under both. -/
theorem run_comesTo {α : Type} {limit : Option Nat} {e : Nat} {x : α} {operation : String}
    {p : Work (Except Failure α)} (hfree : w.isCancelled b.token = false)
    (hlater : ∀ d, b.deadline = some d → w.clock ≤ d ∧ d ≠ e)
    (h : Takes K K.keeps (At (ComesTo limit e x) (endUnder limit e)) p w) :
    Takes K K.keeps
      (At (ComesTo (earlier b.deadline limit) e x) (endUnder (earlier b.deadline limit) e))
      (b.run operation p) w := by
  cases hb : b.deadline with
  | none => exact Takes.run_ends hfree (fun d hd => by rw [hb] at hd; cases hd) h
  | some d =>
    obtain ⟨hwd, hde⟩ := hlater d hb
    by_cases hle : endUnder limit e ≤ d
    · obtain ⟨hiff, hend⟩ := under_later hde hle
      have hin : ∀ d', b.deadline = some d' → endUnder limit e ≤ d' := fun d' hd' => by
        rw [hb] at hd'
        cases hd'
        exact hle
      rw [hend]
      refine (Takes.run_ends hfree hin h).mono fun r v hr => ⟨?_, hr.2⟩
      unfold ComesTo
      rw [hiff]
      exact hr.1
    · obtain ⟨hnot, hend⟩ := under_earlier (Nat.lt_of_not_le hle)
      rw [hend]
      refine (Takes.run_expires hfree hb hwd (Nat.lt_of_not_le hle) h).mono fun r v hr => ?_
      exact ⟨Or.inr ⟨hnot, operation, hr.1⟩, hr.2⟩

/-! ## Clients -/

/-- **How a client lists**: whether it looks at the bound it is given, how long it takes, and what it
lists. -/
structure Listings where
  heeds : Bool
  latency : ResourceKind → Nat
  items : (kind : ResourceKind) → List kind.Item

namespace Listings

/-- How long both listings take at once. -/
def whole (l : Listings) : Nat := max (l.latency .volume) (l.latency .snapshot)

/-- The limit that the client itself keeps. -/
def limit (l : Listings) (b : Bound) : Option Nat := if l.heeds then b.deadline else none

end Listings

/-- An instant is none of those at which a listing would come. -/
def Listings.Misses (l : Listings) (start d : Nat) : Prop :=
  ∀ kind, d ≠ start + l.latency kind

/-- The bound of a call that begins: it is not cancelled, and the deadline is yet to come. -/
def Begins (b : Bound) (w : World Deployment) : Prop :=
  w.isCancelled b.token = false ∧ ∀ d, b.deadline = some d → w.clock < d

theorem Begins.aside (h : Begins b w) (hw : K.others w w') : Begins b w' :=
  ⟨Takes.free_of_keeps hw.1 h.1, fun d hd => by rw [hw.2]; exact h.2 d hd⟩

/-- **A client lists in its way** in a world, and whatever surroundings keep of it, within any bound.
-/
def ListsAs (K : Surroundings Deployment) (V : Clients) (client : Client) (l : Listings)
    (w : World Deployment) : Prop :=
  ∀ v b kind, K.keeps w v → Begins b v →
    (∀ d, b.deadline = some d → l.Misses v.clock d) →
      Takes K K.keeps
        (At (ComesTo (l.limit b) (v.clock + l.latency kind) (l.items kind))
          (endUnder (l.limit b) (v.clock + l.latency kind)))
        (V.list b client kind) v

theorem ListsAs.aside {l : Listings} (h : ListsAs K V client l w) (hw : K.keeps w w') :
    ListsAs K V client l w' := fun v b kind hv => h v b kind (K.trans hw hv)

theorem Listings.Misses.whole {l : Listings} {start d : Nat} (h : l.Misses start d) :
    d ≠ start + l.whole := by
  have hvolume := h .volume
  have hsnapshot := h .snapshot
  unfold Listings.whole
  omega

/-! ## One inventory -/

/-- **The limit of a fetch** that begins at an instant: the gateway's own, or else the caller's
deadline, and what the client itself keeps. -/
def fetchLimit (b : Bound) (settings : PassSettings) (start : Nat) (l : Listings) : Option Nat :=
  earlier (inventoryBound b settings start).deadline (l.limit b)

/-- The inventory that a client gives in time. -/
def Listings.inventory (l : Listings) (clusterId : String) : List Resource :=
  inventoryOf clusterId (l.items .volume) (l.items .snapshot)

/-- The instants of a fetch that begins in a world are different. -/
structure Distinct (b : Bound) (l : Listings) (w : World Deployment) : Prop where
  deadline : ∀ d, b.deadline = some d → l.Misses w.clock d
  timeout : ∀ ms, w.state.settings.fetchTimeoutMs = some ms → l.Misses w.clock (w.clock + ms)

/-- The surroundings keep what passes look at. -/
structure KeepsPasses (K : Surroundings Deployment) : Prop where
  clusters : ∀ {v w}, K.keeps v w → w.state.gateway.clusters = v.state.gateway.clusters
  settings : ∀ {v w}, K.keeps v w → w.state.settings = v.state.settings
  holder : ∀ {v w}, K.keeps v w → w.state.lock.holder = v.state.lock.holder

theorem Distinct.aside {l : Listings} (h : Distinct b l w) (hK : KeepsPasses K)
    (hw : K.others w w') : Distinct b l w' := by
  obtain ⟨hdeadline, htimeout⟩ := h
  rw [← hw.2] at hdeadline htimeout
  rw [← hK.settings hw.1] at htimeout
  exact ⟨hdeadline, htimeout⟩

theorem inventoryBound_token (b : Bound) (settings : PassSettings) (clock : Nat) :
    (inventoryBound b settings clock).token = b.token := by
  unfold inventoryBound
  cases settings.fetchTimeoutMs <;> rfl

/-- The bound of a fetch is yet to come, and at none of its instants. -/
theorem Distinct.bound {l : Listings} (h : Distinct b l w) (hb : Begins b w) (d : Nat)
    (hd : (inventoryBound b w.state.settings w.clock).deadline = some d) :
    w.clock ≤ d ∧ d ≠ w.clock + l.whole := by
  unfold inventoryBound at hd
  cases ht : w.state.settings.fetchTimeoutMs with
  | none =>
    rw [ht] at hd
    exact ⟨Nat.le_of_lt (hb.2 d hd), (h.deadline d hd).whole⟩
  | some ms =>
    rw [ht] at hd
    cases hd
    exact ⟨Nat.le_add_right _ _, (h.timeout ms ht).whole⟩

theorem ComesTo.map {α β : Type} {limit : Option Nat} {e : Nat} {x : α}
    {r : Except Failure α} (f : α → β) (h : ComesTo limit e x r) :
    ComesTo limit e (f x) (r.map f) := by
  obtain ⟨hin, rfl⟩ | ⟨hlate, operation, rfl⟩ := h
  · exact Or.inl ⟨hin, rfl⟩
  · exact Or.inr ⟨hlate, operation, rfl⟩

/-- **An inventory comes in time, or the time is over.** -/
theorem fetch_takes {l : Listings} {target : Target} (hK : KeepsPasses K)
    (htarget : w.state.gateway.targetOf clusterId = .ok target)
    (hlists : ListsAs K V target.client l w) (hb : Begins b w) (hdistinct : Distinct b l w) :
    Takes K K.keeps
      (At (fun i => i.clusterId = clusterId ∧
          ComesTo (fetchLimit b w.state.settings w.clock l) (w.clock + l.whole)
            (l.inventory clusterId) i.result)
        (endUnder (fetchLimit b w.state.settings w.clock l) (w.clock + l.whole)))
      (V.fetchInventory b clusterId) w := by
  refine Takes.follow K.refl fun v hv => ?_
  have hsame : v.state.gateway.targetOf clusterId = .ok target := by
    unfold Gateway.targetOf
    rw [hK.clusters hv.1]
    exact htarget
  obtain ⟨hfree, hlater⟩ := hb.aside hv
  rw [← hK.settings hv.1, ← hv.2]
  have hdistinct := hdistinct.aside hK hv
  simp only [hsame]
  have hlisted : ∀ kind, Takes K K.keeps _ (V.list b target.client kind) v := fun kind =>
    hlists v b kind hv.1 ⟨hfree, hlater⟩ hdistinct.deadline
  have hboth := (Takes.both (hlisted .volume) (hlisted .snapshot)).mono fun r u => comesTo_both
  rw [Nat.add_max_add_left] at hboth
  have hrun : Takes K K.keeps _
      ((inventoryBound b v.state.settings v.clock).run "fetch_inventory" _) v :=
    run_comesTo (by rw [inventoryBound_token]; exact hfree) (hdistinct.bound ⟨hfree, hlater⟩) hboth
  refine Takes.bind (fun r u hr => ?_) hrun
  exact fun u' hu' => ⟨⟨rfl, hr.1.map _⟩, hu'.2.trans hr.2⟩

/-! ## When the caller's deadline is kept -/

/-- **The smallest bound that is set**: the gateway's limit, or the caller's deadline. -/
def smallestBound (b : Bound) (settings : PassSettings) (start : Nat) : Option Nat :=
  earlier (settings.fetchTimeoutMs.map (start + ·)) b.deadline

/-- **The caller's deadline is kept** if the client looks at it, if the gateway has no limit of its
own, or if that limit is no later. Otherwise it is outlived. -/
theorem fetchLimit_eq_smallestBound_iff (b : Bound) (settings : PassSettings) (start : Nat)
    (l : Listings) :
    fetchLimit b settings start l = smallestBound b settings start ↔
      l.heeds = true ∨ settings.fetchTimeoutMs = none ∨
        ∀ d ms, b.deadline = some d → settings.fetchTimeoutMs = some ms → start + ms ≤ d := by
  unfold fetchLimit smallestBound inventoryBound Listings.limit
  cases settings.fetchTimeoutMs with
  | none =>
    refine iff_of_true ?_ (Or.inr (Or.inl rfl))
    cases l.heeds <;> cases b.deadline <;> simp [earlier]
  | some ms =>
    cases l.heeds with
    | true => exact iff_of_true rfl (Or.inl rfl)
    | false =>
      cases b.deadline with
      | none => simp [earlier]
      | some d =>
        constructor
        · intro h
          have hmin : start + ms = min (start + ms) d := Option.some.inj h
          refine Or.inr (Or.inr fun d' ms' hd hms => ?_)
          cases hd
          cases hms
          omega
        · rintro (h | h | h)
          · cases h
          · cases h
          · exact congrArg some (Nat.min_eq_left (h d ms rfl rfl)).symm

/-- Of two limits the earlier one makes no difference exactly to what ends before it. -/
theorem sameUnder_some {c d e : Nat} (h : d < c) : SameUnder (some c) (some d) e ↔ e < d := by
  unfold SameUnder
  rw [inTime_some, inTime_some]
  show (_ ∧ min e c = min e d) ↔ _
  omega

/-- **A fetch ends as under the smallest bound** in these cases, and also if it ends before the
caller's deadline. -/
theorem sameUnder_smallestBound_iff (b : Bound) (settings : PassSettings) (start : Nat)
    (l : Listings) (e : Nat) :
    SameUnder (fetchLimit b settings start l) (smallestBound b settings start) e ↔
      l.heeds = true ∨ settings.fetchTimeoutMs = none ∨
        ∀ d ms, b.deadline = some d → settings.fetchTimeoutMs = some ms →
          start + ms ≤ d ∨ e < d := by
  by_cases heq : fetchLimit b settings start l = smallestBound b settings start
  · refine iff_of_true ?_ ?_
    · rw [heq]
      exact ⟨Iff.rfl, rfl⟩
    · rw [fetchLimit_eq_smallestBound_iff] at heq
      exact heq.imp_right (Or.imp_right fun h d ms hd hms => Or.inl (h d ms hd hms))
  · -- then the deadline comes first, but the gateway looks only at its own limit
    rw [fetchLimit_eq_smallestBound_iff] at heq
    simp only [not_or, not_forall, exists_prop] at heq
    obtain ⟨hheeds, hset, d, ms, hd, hms, hlt⟩ := heq
    have hlimit : fetchLimit b settings start l = some (start + ms) := by
      unfold fetchLimit inventoryBound Listings.limit
      rw [hms, if_neg hheeds]
      rfl
    have hsmallest : smallestBound b settings start = some d := by
      unfold smallestBound
      rw [hms, hd]
      exact congrArg some (Nat.min_eq_right (Nat.le_of_not_le hlt))
    rw [hlimit, hsmallest, sameUnder_some (Nat.lt_of_not_le hlt)]
    refine ⟨fun he => Or.inr (Or.inr fun d' ms' hd' _ => Or.inr ?_), fun h => ?_⟩
    · rw [hd] at hd'
      cases hd'
      exact he
    · exact (((h.resolve_left hheeds).resolve_left hset) d ms hd hms).resolve_left hlt

/-! ## All inventories -/

/-- **How a cluster is asked**: it has a client that lists in a way, or none. -/
def Answering (K : Surroundings Deployment) (V : Clients) (b : Bound) (w : World Deployment)
    (clusterId : String) : Option Listings → Prop
  | none => ∃ failure, w.state.gateway.targetOf clusterId = .error failure
  | some l => ∃ target, w.state.gateway.targetOf clusterId = .ok target ∧
      ListsAs K V target.client l w ∧ Distinct b l w

/-- When the asking of a cluster is over. -/
def fetchEnd (b : Bound) (settings : PassSettings) (start : Nat) : Option Listings → Nat
  | none => start
  | some l => endUnder (fetchLimit b settings start l) (start + l.whole)

/-- Whether a cluster's inventory comes in time. -/
def Comes (b : Bound) (settings : PassSettings) (start : Nat) : Option Listings → Prop
  | none => False
  | some l => InTime (fetchLimit b settings start l) (start + l.whole)

instance (b : Bound) (settings : PassSettings) (start : Nat) (o : Option Listings) :
    Decidable (Comes b settings start o) :=
  match o with
  | none => inferInstanceAs (Decidable False)
  | some _ => inferInstanceAs (Decidable (InTime _ _))

/-- **What a cluster's asking gives**: its inventory in time, or a failure. -/
def Brings (b : Bound) (settings : PassSettings) (start : Nat) (clusterId : String)
    (o : Option Listings) (i : Inventory) : Prop :=
  i.clusterId = clusterId ∧
    match o with
    | none => ∃ failure, i.result = .error failure ∧ ∀ operation, failure ≠ .cancelled operation
    | some l => ComesTo (fetchLimit b settings start l) (start + l.whole) (l.inventory clusterId)
        i.result

theorem asked_takes {o : Option Listings} (hK : KeepsPasses K) (hb : Begins b w)
    (h : Answering K V b w clusterId o) :
    Takes K K.keeps
      (At (Brings b w.state.settings w.clock clusterId o) (fetchEnd b w.state.settings w.clock o))
      (V.fetchInventory b clusterId) w := by
  cases o with
  | some l =>
    obtain ⟨target, htarget, hlists, hdistinct⟩ := h
    exact fetch_takes hK htarget hlists hb hdistinct
  | none =>
    obtain ⟨failure, htarget⟩ := h
    refine Takes.follow K.refl fun v hv => ?_
    have hsame : v.state.gateway.targetOf clusterId = .error failure := by
      unfold Gateway.targetOf
      rw [hK.clusters hv.1]
      exact htarget
    simp only [hsame]
    refine fun u hu => ⟨⟨rfl, failure, rfl, fun operation hf => ?_⟩, hu.2.trans hv.2⟩
    rcases ClusterRegistry.clientOf_error (targetOf_error htarget) with rfl | ⟨_, rfl⟩
    · cases hf
    · cases hf

theorem Brings.wasCancelled {settings : PassSettings} {start : Nat} {o : Option Listings}
    {i : Inventory} (h : Brings b settings start clusterId o i) : i.wasCancelled = false := by
  obtain ⟨c, result⟩ := i
  obtain ⟨-, hresult⟩ := h
  cases o with
  | none =>
    obtain ⟨failure, rfl, hfailure⟩ := hresult
    unfold Inventory.wasCancelled
    cases failure with
    | cancelled operation => exact absurd rfl (hfailure operation)
    | _ => rfl
  | some l =>
    obtain ⟨-, rfl⟩ | ⟨-, operation, rfl⟩ := hresult
    · rfl
    · rfl

theorem Brings.hasFailed {settings : PassSettings} {start : Nat} {o : Option Listings}
    {i : Inventory} (h : Brings b settings start clusterId o i) :
    i.hasFailed = !decide (Comes b settings start o) := by
  have hcancelled := h.wasCancelled
  obtain ⟨c, result⟩ := i
  obtain ⟨-, hresult⟩ := h
  cases o with
  | none =>
    obtain ⟨failure, rfl, hfailure⟩ := hresult
    unfold Inventory.hasFailed
    cases failure with
    | cancelled operation => exact absurd rfl (hfailure operation)
    | _ => rfl
  | some l =>
    obtain ⟨hin, rfl⟩ | ⟨hlate, operation, rfl⟩ := hresult
    · rw [decide_eq_true (p := Comes b settings start (some l)) hin]
      rfl
    · rw [decide_eq_false (p := Comes b settings start (some l)) hlate]
      rfl

/-- **The failed clusters** are those whose inventory has not come in time. -/
theorem failedClusters_eq {settings : PassSettings} {start : Nat} {how : String → Option Listings}
    {managed : List String} {inventories : List Inventory}
    (h : List.Forall₂ (fun c i => Brings b settings start c (how c) i) managed inventories) :
    failedClusters inventories =
      managed.filter fun c => !decide (Comes b settings start (how c)) := by
  induction h with
  | nil => rfl
  | @cons c i managed inventories hi _ ih =>
    unfold failedClusters at ih ⊢
    rw [List.filter_cons, List.filter_cons, hi.hasFailed]
    split
    · rw [List.map_cons, hi.1, ih]
    · exact ih

/-! ## Passes -/

/-- When all clusters have been asked. -/
def passEnd (b : Bound) (settings : PassSettings) (start : Nat) (how : String → Option Listings)
    (managed : List String) : Nat :=
  (managed.map fun c => fetchEnd b settings start (how c)).foldr max start

/-- **The resources' part of a pass** ends with the last inventory, and names the clusters whose
inventory has not come. -/
theorem syncResources_takes {how : String → Option Listings} (hK : KeepsPasses K) (hb : Begins b w)
    (h : ∀ c ∈ w.state.gateway.clusters.ids, Answering K V b w c (how c)) :
    Takes K (fun _ _ => True)
      (At (fun report => report.fetchFailures = w.state.gateway.clusters.ids.filter fun c =>
          !decide (Comes b w.state.settings w.clock (how c)))
        (passEnd b w.state.settings w.clock how w.state.gateway.clusters.ids))
      (V.syncResources b) w := by
  refine Takes.look_bind (fun _ => trivial) fun v hv => ?_
  have hmanaged : v.state.gateway.openPass.managed = w.state.gateway.clusters.ids := by
    show v.state.gateway.clusters.ids = _
    rw [hK.clusters hv.1]
  have hgather : Takes K K.keeps _ (V.gather b v.state.gateway.openPass) w :=
    Takes.all fun c hc => asked_takes hK hb (h c (by rw [hmanaged] at hc; exact hc))
  rw [hmanaged] at hgather
  have hgathers : Takes K (fun _ _ => True) _ (V.gather b v.state.gateway.openPass) v :=
    (hgather.aside hv).wider fun _ _ _ => trivial
  refine Takes.bind (fun inventories u hu => ?_) hgathers
  refine Takes.step fun u' hu' => ⟨trivial, rfl, fun u'' hu'' => ⟨?_, ?_⟩⟩
  · rw [← failedClusters_eq hu.1]
    exact congrArg ResourceSyncReport.fetchFailures closePass_snd
  · exact hu''.2.trans (hu'.2.trans hu.2)

/-- **The world in which a pass asks its clusters**, if the configuration is good. -/
def askingWorld (w : World Deployment) : PassKind → Option (World Deployment)
  | .resources => some w
  | .whole => w.state.source.load.toOption.map (registering w)

theorem askingWorld_whole {w x : World Deployment} (h : askingWorld w .whole = some x) :
    ∃ ds, w.state.source.load = .ok ds ∧ registering w ds = x := by
  obtain ⟨ds, hload, hx⟩ := Option.map_eq_some_iff.mp h
  cases hsource : w.state.source.load with
  | error failure =>
    rw [hsource] at hload
    cases hload
  | ok ds' =>
    rw [hsource] at hload
    cases hload
    exact ⟨ds, rfl, hx⟩

/-- The lock is entered. -/
def entering (w : World Deployment) : World Deployment :=
  w.modify fun d => { d with lock := d.lock.enter.1 }

/-- **The worlds in which a pass has its turn** that has found the lock free. -/
def Turned (K : Surroundings Deployment) (w u : World Deployment) : Prop :=
  ∃ v, K.others w v ∧ K.others (entering v) u

/-- A pass over any clients. -/
def Clients.pass (V : Clients) (b : Bound) : (k : PassKind) → Work k.Result
  | .whole => V.reconcile b
  | .resources => alone (V.syncResources b)

theorem Clients.pass_arrays (b : Bound) (k : PassKind) : Clients.arrays.pass b k = k.work b := by
  cases k <;> rfl

theorem alone_takes {α : Type} {P : α → Prop} {e : Nat} {p : Work α} (hK : KeepsPasses K)
    (hlock : w.state.lock.holder = none)
    (h : ∀ u, Turned K w u → Takes K (fun _ _ => True) (At P e) p u) :
    Takes K (fun _ _ => True) (At P e) (alone p) w := by
  refine Takes.step_bind fun v hv => ⟨trivial, rfl, ?_⟩
  -- the lock is held from now on, and so the wait for it is over at once
  have hfree : v.state.lock.holder = none := (hK.holder hv.1).trans hlock
  have hholder : ∀ u, K.keeps (entering v) u → u.state.lock.holder = some v.state.lock.enter.2 := by
    intro u hu
    rw [hK.holder hu]
    show v.state.lock.enter.1.holder = _
    unfold PassLock.enter
    rw [hfree]
  refine ⟨v.clock, Nat.le_refl _, fun hlt => absurd hlt (Nat.lt_irrefl _), fun u hu hle => ?_⟩
  refine ⟨iff_of_true (beq_iff_eq.mpr (hholder u hu)) hle, fun hclock => ?_⟩
  show Takes K _ _ (p.bind _) u
  refine Takes.bind (fun a x hx => ?_) (h u ⟨v, hv, hu, hclock⟩)
  refine Takes.step fun x' hx' => ⟨trivial, rfl, fun x'' hx'' => ⟨hx.1, ?_⟩⟩
  exact hx''.2.trans (hx'.2.trans hx.2)

theorem Turned.aside {u : World Deployment} (h : Turned K w u) (hu : K.others u w') :
    Turned K w w' := by
  obtain ⟨v, hv, hentered⟩ := h
  exact ⟨v, hv, K.others_trans hentered hu⟩

/-- Neither waiting for one's turn nor loading the configuration takes time. -/
theorem Turned.asking {u x : World Deployment} {k : PassKind} (hK : KeepsPasses K) (hb : Begins b w)
    (h : Turned K w u) (hx : askingWorld u k = some x) :
    x.clock = w.clock ∧ x.state.settings = w.state.settings ∧ Begins b x := by
  obtain ⟨v, hv, hu⟩ := h
  have hbefore : Begins b v := hb.aside hv
  have hbegins : Begins b (entering v) := hbefore
  have hsettings : (entering v).state.settings = w.state.settings := hK.settings (w := v) hv.1
  have hu' : u.clock = w.clock ∧ u.state.settings = w.state.settings ∧ Begins b u :=
    ⟨hu.2.trans hv.2, (hK.settings hu.1).trans hsettings, hbegins.aside hu⟩
  cases k with
  | resources =>
    cases hx
    exact hu'
  | whole =>
    obtain ⟨ds, -, rfl⟩ := askingWorld_whole hx
    exact hu'

/-- **A whole pass ends with the last inventory** too, once it has found the lock free. -/
theorem pass_takes {k : PassKind} {managed : List String} {how : String → Option Listings}
    (hK : KeepsPasses K) (hlock : w.state.lock.holder = none) (hb : Begins b w)
    (h : ∀ u, Turned K w u → ∃ x, askingWorld u k = some x ∧
      x.state.gateway.clusters.ids = managed ∧ ∀ c ∈ managed, Answering K V b x c (how c)) :
    Takes K (fun _ _ => True)
      (At (fun result => ∃ report, k.report? result = some report ∧
          report.fetchFailures = managed.filter fun c =>
            !decide (Comes b w.state.settings w.clock (how c)))
        (passEnd b w.state.settings w.clock how managed))
      (V.pass b k) w := by
  have hsync : ∀ {u x}, Turned K w u → askingWorld u k = some x →
      x.state.gateway.clusters.ids = managed → (∀ c ∈ managed, Answering K V b x c (how c)) →
      Takes K (fun _ _ => True) (At (fun report : ResourceSyncReport =>
          report.fetchFailures = managed.filter fun c =>
            !decide (Comes b w.state.settings w.clock (how c)))
        (passEnd b w.state.settings w.clock how managed)) (V.syncResources b) x := by
    intro u x hu hx hmanaged hanswering
    obtain ⟨hclock, hsettings, hbegins⟩ := hu.asking hK hb hx
    rw [← hclock, ← hsettings, ← hmanaged]
    rw [← hmanaged] at hanswering
    exact syncResources_takes hK hbegins hanswering
  cases k with
  | resources =>
    refine alone_takes hK hlock fun u hu => ?_
    obtain ⟨x, hx, hmanaged, hanswering⟩ := h u hu
    have hux : u = x := Option.some.inj hx
    rw [hux]
    exact (hsync hu hx hmanaged hanswering).mono fun report v hv => ⟨⟨report, rfl, hv.1⟩, hv.2⟩
  | whole =>
    refine alone_takes hK hlock fun u hu => ?_
    refine Takes.look_bind (fun _ => trivial) fun u1 hu1 => ?_
    rw [loadClusters_eq]
    refine Takes.step_bind fun u2 hu2 => ?_
    have hturned : Turned K w u2 := hu.aside (K.others_trans hu1 hu2)
    obtain ⟨x, hx, hmanaged, hanswering⟩ := h u2 hturned
    obtain ⟨ds, hload, rfl⟩ := askingWorld_whole hx
    rw [loading_of_ok hload]
    refine ⟨trivial, rfl, ?_⟩
    refine Takes.bind (fun report v hv => ?_) (hsync hturned hx hmanaged hanswering)
    refine Takes.step fun v' hv' => ⟨trivial, rfl, fun v'' hv'' => ⟨?_, ?_⟩⟩
    · exact ⟨report, rfl, hv.1⟩
    · exact hv''.2.trans (hv'.2.trans hv.2)

/-! ## Loopback arrays, and clients that look at their bounds -/

/-- Nobody changes clusters, arrays, settings or whose turn it is. -/
def besideArrays : Surroundings Deployment where
  keeps v w := w.cancelled = v.cancelled ∧ w.state.shelf = v.state.shelf ∧
    w.state.gateway.clusters = v.state.gateway.clusters ∧ w.state.settings = v.state.settings ∧
    w.state.lock.holder = v.state.lock.holder
  refl _ := ⟨rfl, rfl, rfl, rfl, rfl⟩
  trans h1 h2 := ⟨h2.1.trans h1.1, h2.2.1.trans h1.2.1, h2.2.2.1.trans h1.2.2.1,
    h2.2.2.2.1.trans h1.2.2.2.1, h2.2.2.2.2.trans h1.2.2.2.2⟩
  tick _ _ := ⟨rfl, rfl, rfl, rfl, rfl⟩
  cancelled h := h.1

theorem besideArrays_keepsPasses : KeepsPasses besideArrays :=
  ⟨fun h => h.2.2.1, fun h => h.2.2.2.1, fun h => h.2.2.2.2⟩

/-- **A loopback array does not look at its caller's bound.** -/
theorem listsAs_loopback {a : Loopback} {items : (kind : ResourceKind) → List kind.Item}
    (ha : w.state.shelf.get? client = some (.loopback a))
    (hlist : ∀ kind, a.list kind = .ok (items kind)) :
    ListsAs besideArrays .arrays client
      ⟨false, fun _ => (a.config.listLatencyMs.map UInt64.toNat).getD 0, items⟩ w := by
  intro v b kind hv _ _
  refine Takes.follow besideArrays.refl fun u hu => ?_
  have hshelf : u.state.shelf.get? client = some (.loopback a) := by
    rw [hu.1.2.1, hv.2.1]
    exact ha
  simp only [hshelf, hlist]
  cases hlatency : a.config.listLatencyMs with
  | none =>
    refine fun x hx => ⟨Or.inl ⟨inTime_none _, rfl⟩, ?_⟩
    exact hx.2.trans hu.2
  | some ms =>
    refine Takes.bind (fun _ x hx => ?_) (Takes.waitUntil (Nat.le_add_right _ _))
    refine fun x' hx' => ⟨Or.inl ⟨inTime_none _, rfl⟩, ?_⟩
    rw [hx'.2, hx.2, hu.2]
    rfl

/-- Clients that are held to the bounds they are given. -/
def Clients.attentive (V : Clients) : Clients where
  call := V.call
  list b x kind := b.run kind.listing (V.list b x kind)
  check := V.check
  call_safe := V.call_safe
  list_safe b x kind w := Safe.run (fun _ _ _ _ => trivial) (V.list_safe b x kind w)
  check_safe := V.check_safe

theorem ListsAs.attentive {l : Listings} (h : ListsAs K V client { l with heeds := false } w) :
    ListsAs K V.attentive client { l with heeds := true } w := by
  intro v b kind hv hb hmisses
  have hlist := h v b kind hv hb hmisses
  have hrun : Takes K K.keeps _ (b.run kind.listing (V.list b client kind)) v :=
    run_comesTo hb.1 (fun d hd => ⟨Nat.le_of_lt (hb.2 d hd), hmisses d hd kind⟩) hlist
  have hlimit : earlier b.deadline (Listings.limit { l with heeds := false } b) =
      Listings.limit { l with heeds := true } b := by
    unfold Listings.limit
    cases b.deadline <;> rfl
  rw [hlimit] at hrun
  exact hrun

/-! ## In time -/

/-- What has come under a limit has come in time, or the limit has come. -/
theorem comesTo_iff {α : Type} {limit : Option Nat} {e : Nat} {x : α} {r : Except Failure α}
    (h : At (ComesTo limit e x) (endUnder limit e) r w) :
    (r = .ok x ↔ InTime limit e) ∧ (InTime limit e → w.clock = e) ∧
      (¬ InTime limit e → limit = some w.clock ∧ ∃ operation, r = .error (.timeout operation)) := by
  obtain ⟨⟨hin, rfl⟩ | ⟨hlate, operation, rfl⟩, hclock⟩ := h
  · refine ⟨iff_of_true rfl hin, fun _ => ?_, fun hlate => absurd hin hlate⟩
    rw [hclock, endUnder_of_inTime hin]
  · refine ⟨iff_of_false (fun h => by cases h) hlate, fun hin => absurd hin hlate, fun _ => ?_⟩
    cases limit with
    | none => exact absurd (inTime_none e) hlate
    | some d =>
      rw [endUnder_of_late hlate] at hclock
      exact ⟨congrArg some hclock.symm, operation, rfl⟩

/-- **When inventories come.** An inventory that is asked for comes if and only if it would come
before the limit of its fetch, and otherwise the fetch ends at that limit with a timeout. That is as
it would be with the smallest bound that is set, unless the client does not look at its bound, the
gateway has a limit of its own, and the caller's deadline comes before this limit and the inventory. A
pass that finds the lock free ends with the last fetch, and names exactly the clusters whose inventory
has not come. -/
theorem inventories_in_time (hK : KeepsPasses K) (hb : Begins b w) :
    (∀ (clusterId : String) (target : Target) (l : Listings),
      w.state.gateway.targetOf clusterId = .ok target → ListsAs K V target.client l w →
      Distinct b l w →
        (∀ p v, Prompt K (V.fetchInventory b clusterId) w p v →
          ∃ i w', Prompt K p v (.done i) w') ∧
        ∀ i w', Prompt K (V.fetchInventory b clusterId) w (.done i) w' →
          let limit := fetchLimit b w.state.settings w.clock l
          (i.result = .ok (l.inventory clusterId) ↔ InTime limit (w.clock + l.whole)) ∧
            (InTime limit (w.clock + l.whole) → w'.clock = w.clock + l.whole) ∧
            (¬ InTime limit (w.clock + l.whole) → limit = some w'.clock ∧
              ∃ operation, i.result = .error (.timeout operation))) ∧
      (∀ l : Listings,
        SameUnder (fetchLimit b w.state.settings w.clock l)
            (smallestBound b w.state.settings w.clock) (w.clock + l.whole) ↔
          l.heeds = true ∨ w.state.settings.fetchTimeoutMs = none ∨
            ∀ d ms, b.deadline = some d → w.state.settings.fetchTimeoutMs = some ms →
              w.clock + ms ≤ d ∨ w.clock + l.whole < d) ∧
      ∀ (k : PassKind) (managed : List String) (how : String → Option Listings),
        w.state.lock.holder = none →
        (∀ u, Turned K w u → ∃ x, askingWorld u k = some x ∧
          x.state.gateway.clusters.ids = managed ∧ ∀ c ∈ managed, Answering K V b x c (how c)) →
          (∀ p v, Prompt K (V.pass b k) w p v → ∃ r w', Prompt K p v (.done r) w') ∧
          ∀ r w', Prompt K (V.pass b k) w (.done r) w' →
            w'.clock = passEnd b w.state.settings w.clock how managed ∧
              ∃ report, k.report? r = some report ∧
                report.fetchFailures = managed.filter fun c =>
                  !decide (Comes b w.state.settings w.clock (how c)) := by
  refine ⟨fun clusterId target l htarget hlists hdistinct => ?_, fun l => ?_, ?_⟩
  · obtain ⟨hcompletes, hends⟩ := (fetch_takes hK htarget hlists hb hdistinct).ends
    refine ⟨hcompletes, fun i w' h => ?_⟩
    obtain ⟨⟨-, hresult⟩, hclock⟩ := hends i w' h
    exact comesTo_iff ⟨hresult, hclock⟩
  · exact sameUnder_smallestBound_iff b w.state.settings w.clock l _
  · intro k managed how hlock h
    obtain ⟨hcompletes, hends⟩ := (pass_takes (k := k) hK hlock hb h).ends
    exact ⟨hcompletes, fun r w' hrun => ⟨(hends r w' hrun).2, (hends r w' hrun).1⟩⟩

/-- An array that takes its time to list its volume. -/
def unhurried : Loopback :=
  (Loopback.new "a" ⟨none, none, some 300⟩).putVolume
    ⟨"a-old", "v", 1, none, [], .empty, Time.Timestamp.yearStart 2000, none⟩

/-- A gateway with a limit of its own, an array that takes less than that, and a cluster without a
client. -/
def limitedFetches : Deployment :=
  let now := Time.Timestamp.yearStart 2000
  let cluster (id : String) (client : Option Client) : Cluster :=
    ⟨id, loopbackVendor, .empty, .null, now, client⟩
  let d := new 0 .empty ⟨[.loopback unhurried], .empty⟩ (.list []) ⟨true, some 500⟩ now
  { d with
    gateway :=
      { d.gateway with
        clusters :=
          (d.gateway.clusters.set "a" (cluster "a" (some ⟨0⟩))).set "b" (cluster "b" none) } }

/-- A caller who waits for a tenth of a second. -/
def impatient : Bound := ⟨.root, some 100⟩

/-- **A deadline is outlived**: it passes while the array takes its time, but the inventory is waited
for, comes after the deadline, and is taken. -/
theorem deadline_outlived :
    smallestBound impatient limitedFetches.settings 0 = some 100 ∧
      let ended := (Pool.start limitedFetches).run (fetchInventory impatient "a") 10
      ended.2.map (fun i => i.result.toOption) = some (some [⟨"a-old", "a", .volume⟩]) ∧
        ended.1.world.clock = 300 := by
  decide +kernel

/-- How the clients of the two clusters list. -/
def limitedListings (heeds : Bool) : Listings :=
  ⟨heeds, fun _ => 300, fun
    | .volume => unhurried.volumes.values
    | .snapshot => unhurried.snapshots.values⟩

/-- How the two clusters are asked. -/
def limitedAsking (heeds : Bool) (clusterId : String) : Option Listings :=
  if clusterId = "a" then some (limitedListings heeds) else none

theorem impatient_begins : Begins impatient (.start limitedFetches) :=
  ⟨rfl, fun d hd => by cases hd; decide⟩

theorem limited_distinct {u : World Deployment} (heeds : Bool) (hclock : u.clock = 0)
    (hsettings : u.state.settings = limitedFetches.settings) :
    Distinct impatient (limitedListings heeds) u where
  deadline d hd kind := by
    cases hd
    show 100 ≠ u.clock + 300
    omega
  timeout ms hms kind := by
    rw [hsettings] at hms
    cases hms
    show u.clock + 500 ≠ u.clock + 300
    omega

theorem limited_lists {u : World Deployment} (hu : u.state.shelf = limitedFetches.shelf) :
    ListsAs besideArrays .arrays ⟨0⟩ (limitedListings false) u := by
  refine listsAs_loopback (a := unhurried) (by rw [hu]; rfl) fun kind => ?_
  cases kind <;> rfl

/-- A client that looks at its bound keeps the deadline, at which the array has not answered. One that
does not is waited for, and the pass names only the cluster without a client. -/
theorem inventories_in_time_limited :
    (∃ i w', Prompt besideArrays (Clients.arrays.attentive.fetchInventory impatient "a")
        (.start limitedFetches) (.done i) w' ∧
      w'.clock = 100 ∧ ∃ operation, i.result = .error (.timeout operation)) ∧
    ∃ r w', Prompt besideArrays (Clients.arrays.pass impatient .resources)
        (.start limitedFetches) (.done r) w' ∧
      w'.clock = 300 ∧ ∃ report, PassKind.resources.report? r = some report ∧
        report.fetchFailures = ["b"] := by
  have htarget : limitedFetches.gateway.targetOf "a" = .ok ⟨"a", ⟨0⟩⟩ := by rfl
  constructor
  · obtain ⟨hfetch, -, -⟩ := inventories_in_time (V := Clients.arrays.attentive)
      besideArrays_keepsPasses impatient_begins
    obtain ⟨hcompletes, hends⟩ := hfetch "a" ⟨"a", ⟨0⟩⟩ (limitedListings true) htarget
      (ListsAs.attentive (l := limitedListings false) (limited_lists rfl))
      (limited_distinct true rfl rfl)
    obtain ⟨i, w', hrun⟩ := hcompletes _ _ (.here _ _)
    obtain ⟨-, -, hlate⟩ := hends i w' hrun
    obtain ⟨hclock, htimeout⟩ := hlate (by decide)
    have hlimit : fetchLimit impatient limitedFetches.settings 0 (limitedListings true) =
        some 100 := rfl
    have hend : some 100 = some w'.clock := hlimit.symm.trans hclock
    exact ⟨i, w', hrun, (Option.some.inj hend).symm, htimeout⟩
  · have hasked : ∀ u, Turned besideArrays (.start limitedFetches) u → ∃ x,
        askingWorld u .resources = some x ∧ x.state.gateway.clusters.ids = ["a", "b"] ∧
          ∀ c ∈ ["a", "b"], Answering besideArrays .arrays impatient x c (limitedAsking false c) := by
      rintro u ⟨v, ⟨⟨-, hv2, hv3, hv4, -⟩, hv6⟩, ⟨-, hu2, hu3, hu4, -⟩, hu6⟩
      have hshelf : u.state.shelf = limitedFetches.shelf := hu2.trans hv2
      have hclusters : u.state.gateway.clusters = limitedFetches.gateway.clusters := hu3.trans hv3
      have htargets : ∀ c, u.state.gateway.targetOf c = limitedFetches.gateway.targetOf c := by
        intro c
        unfold Gateway.targetOf
        rw [hclusters]
      refine ⟨u, rfl, by rw [hclusters]; decide, fun c hc => ?_⟩
      rcases List.mem_pair.mp hc with rfl | rfl
      · exact ⟨⟨"a", ⟨0⟩⟩, by rw [htargets, htarget], limited_lists hshelf,
          limited_distinct false (hu6.trans hv6) (hu4.trans hv4)⟩
      · exact ⟨.clientUnavailable "b", by rw [htargets]; rfl⟩
    obtain ⟨-, -, hpass⟩ := inventories_in_time (V := .arrays) besideArrays_keepsPasses
      impatient_begins
    obtain ⟨hcompletes, hends⟩ := hpass .resources ["a", "b"] (limitedAsking false) rfl hasked
    obtain ⟨r, w', hrun⟩ := hcompletes _ _ (.here _ _)
    obtain ⟨hclock, report, hreport, hfailures⟩ := hends r w' hrun
    refine ⟨r, w', hrun, hclock, report, hreport, ?_⟩
    rw [hfailures]
    decide

end FederatedStorage.Deployment
