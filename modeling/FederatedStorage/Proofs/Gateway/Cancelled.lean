import FederatedStorage.Proofs.Gateway.Detour
import FederatedStorage.Proofs.Gateway.Homes
import FederatedStorage.Proofs.Gateway.SyncResources
import FederatedStorage.Proofs.Schedule.Beside

/-!
# Cancelled passes

The token of a pass may be cancelled at any moment: before the pass, while it loads the
configuration, while any of the inventories are under way, or after the last of them. The pass looks
at its token in the act in which it closes, and nothing makes a token uncancelled. So a pass whose
token is cancelled before closes without dropping anything. The inventories that have come are taken
over all the same, and all other acts of a pass leave the owners alone.

## Main statements

* `PassParts.cancelled_until_closing`: a cancelled token is cancelled when the pass closes.
* `harmless`: what a cancelled pass does to the owners.
* `swept`: what a pass does that reports that it was not cancelled.
* `work_spares`: a pass loses no record once its token is cancelled.
* `periodic_stretches`: passes at an interval change owners only in passes under their token.
-/

namespace FederatedStorage.Deployment

open Schedule Gateway

variable {ε α : Type} {moves : Scene Deployment ε → Scene Deployment ε → Prop} {b : Bound}
  {s s' x y z : Scene Deployment ε} {t : List (Scene Deployment ε)} {v w : World Deployment}
  {k : PassKind} {result : k.Result} {token : Token} {inventories : List Inventory} {id : String}

/-! ## Tokens -/

/-- **Nothing but the state has changed**; in particular no token. -/
def OnlyState (v w : World Deployment) : Prop := ∃ d, w = { v with state := d }

/-- Nothing to count on, and acts on the state only. -/
def stateOnly : Rely Deployment := .nothing OnlyState fun w => ⟨w.state, rfl⟩

theorem stateOnly_dial : LetsDial stateOnly := fun _ _ _ _ _ _ _ => ⟨_, rfl⟩

theorem prelude_stateOnly (k : PassKind) : Safe stateOnly (fun _ => True) k.prelude w := by
  cases k with
  | whole =>
    refine Safe.bind (fun _ _ _ => ?_) (PassKind.turn_safe fun _ _ => ⟨_, rfl⟩)
    refine Safe.bind (fun _ _ _ => ?_) (Safe.look (Q := fun _ => True) fun _ _ => trivial)
    refine Safe.bind (Q := fun _ => True) (fun loaded _ _ => ?_)
      (Safe.step fun _ _ => ⟨⟨_, rfl⟩, trivial⟩)
    cases loaded <;> trivial
  | resources =>
    refine Safe.bind (fun _ _ _ => ?_) (PassKind.turn_safe fun _ _ => ⟨_, rfl⟩)
    trivial

/-- The others make no token uncancelled. -/
def KeepsCancelled (moves : Scene Deployment ε → Scene Deployment ε → Prop) (token : Token) :
    Prop :=
  ∀ x y, moves x y → x.world.isCancelled token = true → y.world.isCancelled token = true

/-- Along a run that acts on the state only, a cancelled token stays cancelled. -/
theorem cancelled_onward {Q : α → Prop} {p q : Work α} (hkeep : KeepsCancelled moves token)
    (hp : Safe stateOnly Q p s.world) (h : Runs moves p s t q s') :
    ∀ z ∈ s :: t, z.world.isCancelled token = true → s'.world.isCancelled token = true := by
  refine h.onward (fun _ hz => hz) (fun _ _ _ h1 h2 hz => h2 (h1 hz)) (fun x w hw hx => ?_) hkeep hp
  obtain ⟨d, rfl⟩ := hw
  exact hx

/-- The scenes of a run up to its closing. -/
def PassParts.before (parts : k.Parts moves b s t result s') : List (Scene Deployment ε) :=
  s :: parts.preludeTrace ++ parts.openScenes

/-- **A token that is cancelled before the closing** is cancelled then. -/
theorem PassParts.cancelled_until_closing (hkeep : KeepsCancelled moves token)
    (parts : k.Parts moves b s t result s') (hz : z ∈ parts.before)
    (hcancelled : z.world.isCancelled token = true) :
    parts.closing.world.isCancelled token = true := by
  have hprelude := cancelled_onward hkeep (prelude_stateOnly k) parts.prelude_runs
  have hgather := cancelled_onward hkeep (gather_safe stateOnly_dial _) parts.gather_runs
  have hidle : Safe stateOnly (fun _ => True) (.done () : Work Unit) parts.gathered.world := trivial
  have hwait := cancelled_onward hkeep hidle parts.wait_runs
  have hgathered : parts.gathered.world.isCancelled token = true →
      parts.closing.world.isCancelled token = true := hwait _ List.mem_cons_self
  -- it is cancelled before the inventories are asked for, while they come, or after the last of them
  rcases List.mem_append.mp hz with hz | hz
  · exact hgathered (hgather _ List.mem_cons_self (hprelude z hz hcancelled))
  · rcases List.mem_append.mp hz with hz | hz
    · exact hgathered (hgather z hz hcancelled)
    · exact hwait z (List.mem_cons_of_mem _ hz) hcancelled

/-! ## Owners -/

/-- **The owners are as they were.** -/
def SameOwners (v w : World Deployment) : Prop :=
  w.state.gateway.resources = v.state.gateway.resources

/-- **Only inventories change owners**: a record is as it was, or stands in an inventory. -/
def TakesFrom (inventories : List Inventory) (v w : World Deployment) : Prop :=
  ∀ id, w.state.gateway.resources.record? id = v.state.gateway.resources.record? id ∨
    ∃ i ∈ inventories, ∃ r ∈ i.resources, r.id = id ∧
      w.state.gateway.resources.record? id = some r

/-- **No record is lost.** -/
def LosesNone (v w : World Deployment) : Prop :=
  ∀ id r, v.state.gateway.resources.record? id = some r →
    ∃ q, w.state.gateway.resources.record? id = some q

theorem SameOwners.takesFrom (h : SameOwners v w) : TakesFrom inventories v w :=
  fun id => Or.inl (by rw [h])

theorem TakesFrom.losesNone (h : TakesFrom inventories v w) : LosesNone v w := by
  intro id r hr
  rcases h id with hsame | ⟨_, _, q, _, _, hq⟩
  · exact ⟨r, hsame.trans hr⟩
  · exact ⟨q, hq⟩

/-- Nothing to count on, and acts that change no owner. -/
def idly : Rely Deployment := .nothing SameOwners fun _ => rfl

theorem prelude_idle (k : PassKind) : Safe idly (fun _ => True) k.prelude w :=
  (k.prelude_safe.wider fun _ _ hw => hw.resources).mono fun _ _ => trivial

/-- What leaves clusters, owners and settings alone. -/
theorem quiet_idle {Q : α → Prop} {p : Work α} (hp : Safe quietly Q p w) : Safe idly Q p w :=
  hp.wider fun _ _ hw => hw.resources

/-- **A pass changes owners only in its closing.** -/
theorem PassParts.sameOwners (parts : k.Parts moves b s t result s') :
    Besides moves SameOwners s parts.closing ∧ Besides moves SameOwners parts.closed s' := by
  have hprelude := (prelude_idle k).besides parts.prelude_runs
  have hgather := (quiet_idle (gather_safe quietly_call.dial _)).besides parts.gather_runs
  have hwait : Besides moves SameOwners parts.gathered parts.closing :=
    .of_moves parts.wait_runs.moves_of_done
  exact ⟨(hprelude.trans hgather).trans hwait,
    (quiet_idle (k.after_safe _ _)).besides parts.end_runs⟩

/-- A pass that never comes to its resources' part changes no owner. -/
theorem sameOwners_of_unreported (h : Runs moves (k.work b) s t (.done result) s')
    (hnone : k.report? result = none) : Besides moves SameOwners s s' := by
  rw [PassKind.work_eq] at h
  rcases PassParts.split h with ⟨r, t0, s1, t1, -, hprelude, hleave⟩ | ⟨⟨parts⟩⟩
  · have hbefore : Besides moves SameOwners s s1 := (prelude_idle k).besides hprelude
    exact hbefore.trans ((quiet_idle PassKind.leave_safe).besides hleave)
  · rw [PassKind.report?_eq parts] at hnone
    cases hnone

/-! ## Cancelled passes -/

/-- **The taking over of inventories** changes only what they report. -/
theorem takenOver_takes (o : Ownership) (inventories : List Inventory) (id : String) :
    (takenOver o inventories).record? id = o.record? id ∨
      ∃ i ∈ inventories, ∃ r ∈ i.resources, r.id = id ∧
        (takenOver o inventories).record? id = some r := by
  rcases takenOver_cases o inventories id with ⟨-, hsame⟩ | ⟨i, hi, -, r, hr, hid, hrec, -⟩
  · exact Or.inl hsame
  · exact Or.inr ⟨i, hi, r, hr, hid, hrec⟩

/-- A cancelled pass leaves what the inventories say. -/
theorem leftOwners_cancelled (o : Ownership) (opened : OpenPass) (inventories : List Inventory)
    (preserve : Bool) :
    leftOwners o opened inventories true preserve = takenOver o inventories := rfl

/-- **A pass that is cancelled does no harm.** It drops nothing and says so. Its acts change only
owners of resources that inventories report, and what the inventories report is mapped. -/
structure Harmless (parts : k.Parts moves b s t result s') : Prop where
  unmapped : parts.report.unmapped = 0
  cancelled : parts.report.cancelled = true
  keeps : Besides moves LosesNone s s'
  takes : Besides moves (TakesFrom parts.inventories) s s'
  mapped : ∀ i ∈ parts.inventories, ∀ r ∈ i.resources, ∃ j ∈ parts.inventories, ∃ q ∈ j.resources,
    q.id = r.id ∧ parts.closed.world.state.gateway.resources.record? r.id = some q

theorem harmless (hkeep : KeepsCancelled moves b.token) (parts : k.Parts moves b s t result s')
    (hz : z ∈ parts.before) (hcancelled : z.world.isCancelled b.token = true) : Harmless parts := by
  have htoken := parts.cancelled_until_closing hkeep hz hcancelled
  have hreport : parts.report = ⟨reportedCount parts.inventories, 0,
      failedClusters parts.inventories, true⟩ := by
    have hsnd : parts.report = _ := closePass_snd
    rw [htoken] at hsnd
    exact hsnd
  have hclosed : parts.closed.world.state.gateway.resources =
      takenOver parts.closing.world.state.gateway.resources parts.inventories := by
    rw [parts.closed_resources, htoken, leftOwners_cancelled]
  obtain ⟨hbefore, hafter⟩ := parts.sameOwners
  have htakes : Besides moves (TakesFrom parts.inventories) s s' := by
    refine ((hbefore.mono fun _ _ hw => hw.takesFrom).tail (.own ?_)).trans
      (hafter.mono fun _ _ hw => hw.takesFrom)
    intro id
    have hrecord := takenOver_takes parts.closing.world.state.gateway.resources parts.inventories id
    rw [← hclosed] at hrecord
    exact hrecord
  refine ⟨by rw [hreport], by rw [hreport], htakes.mono fun _ _ hw => hw.losesNone, htakes,
    fun i hi r hr => ?_⟩
  rw [hclosed]
  exact takenOver_of_reports hi (Inventory.reports_iff.mpr ⟨r, hr, rfl⟩)

/-! ## Passes that are not cancelled -/

/-- **A pass has swept**: all managed clusters were asked, nobody was cancelled, and exactly the
records that are in order are left. Others are dropped, and counted. -/
structure Swept (parts : k.Parts moves b s t result s') : Prop where
  asked : parts.inventories.map Inventory.clusterId = parts.opened.managed
  uncancelled : parts.closing.world.isCancelled b.token = false ∧
    ∀ i ∈ parts.inventories, i.wasCancelled = false
  /-- A record is left if its cluster is managed, and it is spared, reported or new. -/
  left : ∀ id r, parts.closed.world.state.gateway.resources.record? id = some r ↔
    (takenOver parts.closing.world.state.gateway.resources parts.inventories).record? id = some r ∧
      r.clusterId ∈ parts.opened.managed ∧
      (parts.closing.world.state.settings.preserve = true ∧
          FailedIn parts.inventories r.clusterId ∨
        isReported parts.inventories r.clusterId id = true ∨ id ∉ parts.opened.knownBefore)
  counted : parts.report.unmapped = .ofNat parts.dropped.length

theorem asked_all (parts : k.Parts moves b s t result s') :
    parts.inventories.map Inventory.clusterId = parts.opened.managed := by
  have hfetched : List.Forall₂ (MayFetch quietly b) parts.opened.managed parts.inventories :=
    parts.gather_runs.result (fun _ _ _ _ => trivial) (fun _ _ => trivial)
      (gather_safe quietly_call.dial _)
  generalize parts.opened.managed = managed at hfetched
  generalize parts.inventories = inventories at hfetched
  induction hfetched with
  | nil => rfl
  | cons hfetch _ ih => rw [List.map_cons, ih, (MayFetch.of_cluster hfetch).1]

/-- What is left after the closing of a pass that is not cancelled. -/
theorem swept (parts : k.Parts moves b s t result s') (hnot : parts.report.cancelled = false) :
    Swept parts := by
  have hinterrupted : isInterrupted parts.inventories (parts.closing.world.isCancelled b.token) =
      false := by
    have hsnd : parts.report = _ := closePass_snd
    rw [hsnd] at hnot
    exact hnot
  obtain ⟨htoken, hnone⟩ := Bool.or_eq_false_iff.mp hinterrupted
  refine ⟨asked_all parts, ⟨htoken, fun i hi => ?_⟩, fun id r => ?_, parts.report_unmapped⟩
  · exact Bool.eq_false_iff.mpr fun h => List.any_eq_false.mp hnone i hi h
  rw [parts.closed_resources, record?_leftOwners hinterrupted, Option.filter_eq_some_iff]
  refine and_congr_right fun hr => ?_
  have hid : r.id = id := Ownership.id_of_record? hr
  rw [Bool.not_eq_true', ← Bool.not_eq_true, isStale_iff, hid, not_or, not_not]
  refine and_congr_right fun _ => ?_
  by_cases hspared : parts.closing.world.state.settings.preserve = true ∧
      FailedIn parts.inventories r.clusterId
  · simp [hspared]
  · cases hrep : isReported parts.inventories r.clusterId id <;> simp [hspared]

/-! ## Passes that somebody asked for -/

/-- A pass that somebody asked for, and that is counted among the requests. -/
def PassKind.asked (b : Bound) : (k : PassKind) → Work k.Result
  | whole => reload b
  | resources => resyncAll b

/-- **It is a pass**, after which no owner changes. -/
theorem asked_split (h : Runs moves (k.asked b) s t (.done result) s') :
    ∃ t1 s1 t2, t = t1 ++ t2 ∧ Runs moves (k.work b) s t1 (.done result) s1 ∧
      Besides moves SameOwners s1 s' := by
  have hnoted : ∀ {β : Type} {f : Gateway → Gateway × β} {w : World Deployment},
      (∀ g, (f g).1.resources = g.resources) → Safe idly (fun _ => True) (onGateway f) w :=
    fun hf => onGateway_safe fun v _ => ⟨hf v.state.gateway, trivial⟩
  cases k with
  | whole =>
    obtain ⟨r, t1, s1, t2, ht, hpass, hrest⟩ := Runs.bind_done h
    obtain ⟨_, rfl⟩ := onGateway_result hrest
    exact ⟨t1, s1, t2, ht, hpass, (hnoted fun _ => rfl).besides hrest⟩
  | resources =>
    obtain ⟨r, t1, s1, t2, ht, hpass, hrest⟩ := Runs.bind_done h
    obtain ⟨_, rfl⟩ := onGateway_result hrest
    exact ⟨t1, s1, t2, ht, hpass, (hnoted fun _ => rfl).besides hrest⟩

/-! ## Passes under another token -/

/-- **A token descends from another**, or is that one. -/
def DescendsFrom (own token : Token) : Prop := token.path <:+ own.path

/-- What is done once a token is cancelled loses no record. -/
def SparesOnce (token : Token) (v w : World Deployment) : Prop :=
  v.isCancelled token = true → LosesNone v w

theorem SameOwners.sparesOnce (h : SameOwners v w) : SparesOnce token v w :=
  fun _ id r hr => ⟨r, by rw [h]; exact hr⟩

/-- Nothing to count on, and acts that lose no record once a token is cancelled. -/
def sparing (token : Token) : Rely Deployment :=
  .nothing (SparesOnce token) fun _ => SameOwners.sparesOnce rfl

theorem spares_of_idle {Q : α → Prop} {p : Work α} (hp : Safe idly Q p w) :
    Safe (sparing token) Q p w := hp.wider fun _ _ hw => hw.sparesOnce

/-- **The closing of a pass** whose token descends from a cancelled one. -/
theorem takeOver_spares {opened : OpenPass} (hb : DescendsFrom b.token token)
    (inventories : List Inventory) (w : World Deployment) :
    SparesOnce token w (takeOver b opened inventories w).1 := by
  intro hw id r hr
  have hclosed : (takeOver b opened inventories w).1.state.gateway.resources =
      takenOver w.state.gateway.resources inventories := by
    simp only [takeOver, closePass_fst, World.isCancelled_of_suffix hb hw, leftOwners_cancelled]
  rw [hclosed]
  exact takenOver_isSome inventories hr

/-- **A pass loses no record** once a token is cancelled that its own descends from. -/
theorem work_spares (k : PassKind) (hb : DescendsFrom b.token token) :
    Safe (sparing token) (fun _ => True) (k.work b) w := by
  rw [PassKind.work_eq]
  refine Safe.bind (fun loaded v _ => ?_) (spares_of_idle (prelude_idle k))
  cases loaded with
  | error r => exact spares_of_idle (quiet_idle PassKind.leave_safe)
  | ok found =>
    refine Safe.bind (Q := fun _ => True)
      (fun report _ _ => spares_of_idle (quiet_idle (k.after_safe found report))) ?_
    refine Safe.bind (Q := fun _ => True) (fun opened _ _ => ?_) (Safe.look fun _ _ => trivial)
    refine Safe.bind (fun inventories _ _ => ?_)
      (spares_of_idle (quiet_idle (gather_safe quietly_call.dial opened)))
    -- the only act that touches owners
    exact Safe.step fun v _ => ⟨takeOver_spares hb inventories v, trivial⟩

/-! ## Passes at an interval -/

/-- **A stretch of passes at an interval**: no owner is changed, or a pass is under way whose token
descends from theirs. -/
inductive Stretch (moves : Scene Deployment ε → Scene Deployment ε → Prop) (token : Token) :
    Scene Deployment ε → Scene Deployment ε → Prop
  | idle {x y : Scene Deployment ε} (h : Besides moves SameOwners x y) : Stretch moves token x y
  | pass {x y : Scene Deployment ε} {t : List (Scene Deployment ε)} {own : Token}
      {q : Work (Except Failure PassReport)} (hown : DescendsFrom own token)
      (h : Runs moves (PassKind.whole.work ⟨own, none⟩) x t q y) : Stretch moves token x y

/-- **Passes at an interval**: any number of stretches. -/
abbrev Stretches (moves : Scene Deployment ε → Scene Deployment ε → Prop) (token : Token) :
    Scene Deployment ε → Scene Deployment ε → Prop := Relation.ReflTransGen (Stretch moves token)

/-- No stretch loses a record once the token is cancelled. -/
theorem Stretch.spares (h : Stretch moves token x y) : Besides moves (SparesOnce token) x y := by
  cases h with
  | idle h => exact h.mono fun _ _ hw => hw.sparesOnce
  | pass hown h =>
    exact (work_spares .whole hown).besides h

theorem Stretches.spares (h : Stretches moves token x y) :
    Besides moves (SparesOnce token) x y := by
  induction h with
  | refl => exact .refl
  | tail _ hstretch ih => exact ih.trans hstretch.spares

/-- What begins with a stretch in which no owner is changed. -/
theorem stretches_bind {β : Type} {Q : α → Prop} {p : Work α} {f : α → Work β} {q : Work β}
    (hp : Safe idly Q p s.world) (h : Runs moves (p.bind f) s t q s')
    (hf : ∀ a x t1, Q a → Runs moves (f a) x t1 q s' → Stretches moves token x s') :
    Stretches moves token s s' := by
  rcases h.bind_inv with ⟨r, -, hr⟩ | ⟨a, t1, x, t2, -, hfirst, hrest⟩
  · exact .single (.idle (hp.besides hr))
  · have ha : Q a :=
      hfirst.result (R := idly) (fun _ _ _ _ => trivial) (fun _ _ => trivial) hp
    exact .head (.idle (hp.besides hfirst)) (hf a x t2 ha hrest)

theorem stretches_follow {β : Type} {f : World Deployment → Work β} {q : Work β}
    (h : Runs moves (.follow f) s t q s')
    (hf : ∀ v x t1, Runs moves (f v) x t1 q s' → Stretches moves token x s') :
    Stretches moves token s s' :=
  stretches_bind (Q := fun _ => True) (p := Activity.look id) (f := f)
    (Safe.look fun _ _ => trivial) h fun v x t1 _ hrest => hf v x t1 hrest

theorem stretches_wait {β : Type} {ready : World Deployment → Bool} {due : Option Nat}
    {next q : Work β} (h : Runs moves (.wait ready due next) s t q s')
    (hnext : ∀ x t1, Runs moves next x t1 q s' → Stretches moves token x s') :
    Stretches moves token s s' :=
  stretches_bind (Q := fun _ => True) (p := .wait ready due (.done ())) (f := fun _ => next)
    ⟨False.elim, fun _ _ _ => trivial⟩ h fun _ x t1 _ hrest => hnext x t1 hrest

/-- **Rounds of passes** are stretches. -/
theorem rounds_stretches {intervalMs due n : Nat} {q : Work Unit}
    (h : Runs moves (rounds token intervalMs due n) s t q s') : Stretches moves token s s' := by
  induction n generalizing due s t with
  | zero => exact .single (.idle (.of_moves h.moves_of_done))
  | succ n ih =>
    refine stretches_wait h fun x t1 hlook => stretches_follow hlook fun v y t2 hround => ?_
    by_cases hv : v.isCancelled token = true
    · rw [if_pos hv] at hround
      exact .single (.idle (.of_moves hround.moves_of_done))
    rw [if_neg hv] at hround
    -- the pass has a token of its own
    have htoken : Safe idly (fun own => DescendsFrom own token)
        (Activity.step fun w => ((w.newToken token).2, (w.newToken token).1)) y.world :=
      Safe.step fun _ _ => ⟨rfl, List.suffix_cons _ _⟩
    refine stretches_bind htoken hround fun own z t3 hown hrest => ?_
    rcases Runs.bind_inv hrest with ⟨r, -, hpass⟩ | ⟨_, _, _, _, -, hpass, hrest⟩
    · exact .single (.pass hown hpass)
    · exact .head (.pass hown hpass) (ih hrest)

/-- **Passes at an interval** are stretches. -/
theorem periodic_stretches {intervalMs limit : Nat} {q : Work Bool}
    (h : Runs moves (periodic token intervalMs limit) s t q s') : Stretches moves token s s' := by
  unfold periodic at h
  by_cases hzero : (intervalMs == 0) = true
  · rw [if_pos hzero] at h
    exact .single (.idle (.of_moves h.moves_of_done))
  rw [if_neg hzero] at h
  refine stretches_follow h fun v x t1 hrounds => ?_
  rcases Runs.bind_inv hrounds with ⟨r, -, hr⟩ | ⟨_, _, _, _, -, hr, hdone⟩
  · exact rounds_stretches hr
  · exact (rounds_stretches hr).tail (.idle (.of_moves hdone.moves_of_done))

/-! ## Cancellation -/

/-- **Cancellation never drops an owner.**

A pass whose configuration is no good changes no owner. Of any other, the token may be cancelled in
any scene up to the closing, or one that it descends from: then the pass drops nothing, says that it
was cancelled, and changes only what the inventories that came in time report. A pass that says that
it was not cancelled has asked all managed clusters and has swept. Whether a pass comes to its end
or not, it loses no record once the token is cancelled. A reload or a request to sync is such a pass,
after which no owner changes. And so are passes at an interval, whose tokens descend from theirs. -/
theorem cancellation_spares_owners :
    (∀ {ε : Type} (moves : Scene Deployment ε → Scene Deployment ε → Prop) (k : PassKind)
      (b : Bound) (s s' : Scene Deployment ε) (t : List (Scene Deployment ε)) (result : k.Result),
      KeepsCancelled moves b.token → Runs moves (k.work b) s t (.done result) s' →
        (k.report? result = none → Besides moves SameOwners s s') ∧
        ∀ report, k.report? result = some report →
          (∃ parts : k.Parts moves b s t result s', parts.report = report) ∧
          ∀ parts : k.Parts moves b s t result s', parts.report = report ∧
            (∀ token, DescendsFrom b.token token →
              (∃ z ∈ parts.before, z.world.isCancelled token = true) → Harmless parts) ∧
            (report.cancelled = false → Swept parts)) ∧
    (∀ {ε : Type} (moves : Scene Deployment ε → Scene Deployment ε → Prop) (k : PassKind)
      (b : Bound) (token : Token) (s s' : Scene Deployment ε) (t : List (Scene Deployment ε))
      (rest : Work k.Result), DescendsFrom b.token token → Runs moves (k.work b) s t rest s' →
        Besides moves (SparesOnce token) s s') ∧
    (∀ {ε : Type} (moves : Scene Deployment ε → Scene Deployment ε → Prop) (k : PassKind)
      (b : Bound) (s s' : Scene Deployment ε) (t : List (Scene Deployment ε)) (result : k.Result),
      Runs moves (k.asked b) s t (.done result) s' →
        ∃ t1 s1 t2, t = t1 ++ t2 ∧ Runs moves (k.work b) s t1 (.done result) s1 ∧
          Besides moves SameOwners s1 s') ∧
    ∀ {ε : Type} (moves : Scene Deployment ε → Scene Deployment ε → Prop) (token : Token)
      (intervalMs limit : Nat) (s s' : Scene Deployment ε) (t : List (Scene Deployment ε))
      (rest : Work Bool), Runs moves (periodic token intervalMs limit) s t rest s' →
        Stretches moves token s s' ∧ Besides moves (SparesOnce token) s s' := by
  refine ⟨fun moves k b s s' t result hkeep hrun => ⟨sameOwners_of_unreported hrun, ?_⟩,
    fun moves k b token s s' t rest hb hrun => (work_spares k hb).besides hrun,
    fun moves k b s s' t result hrun => asked_split hrun,
    fun moves token intervalMs limit s s' t rest hrun => ?_⟩
  · intro report hreport
    refine ⟨PassKind.exists_parts hrun hreport, fun parts => ?_⟩
    have hsame : parts.report = report := by
      rw [PassKind.report?_eq parts] at hreport
      exact Option.some.inj hreport
    refine ⟨hsame, fun token hb ⟨z, hz, hcancelled⟩ => ?_, fun hnot => ?_⟩
    · exact harmless hkeep parts hz (World.isCancelled_of_suffix hb hcancelled)
    · exact swept parts (by rw [hsame]; exact hnot)
  · have hstretches := periodic_stretches hrun
    exact ⟨hstretches, hstretches.spares⟩

/-! ## A pass that is cut short -/

/-- The slow array, and a cluster without a client that owns a resource. -/
def besideClientless : Deployment :=
  { slowArray with
    gateway :=
      { slowArray.gateway with
        clusters := slowArray.gateway.clusters.set "b"
          ⟨"b", loopbackVendor, .empty, .null, slowArray.now, none⟩
        resources := slowArray.gateway.resources.map ⟨"b-1", "b", .volume⟩ } }

/-- The only move of others: a token is cancelled. -/
def Cancels (x y : Scene Deployment Unit) : Prop := y = x.put (x.world.cancel ⟨[0]⟩)

theorem cancels_keeps (token : Token) : KeepsCancelled Cancels token := by
  rintro x _ rfl hx
  show (x.world.cancel ⟨[0]⟩).isCancelled token = true
  unfold World.isCancelled World.cancel at *
  rw [List.any_cons, hx, Bool.or_true]

namespace CutShort

def bound : Bound := ⟨⟨[0]⟩, none⟩

/-- The pass opens. -/
def opened : World Deployment :=
  (PassKind.resources.prelude.advance (.start besideClientless) false).1

/-- The pass asks the clusters. -/
def asked : World Deployment × Work (List Inventory) × Bool :=
  (gather bound opened.state.gateway.openPass).advance opened false

/-- The token is cancelled while the slow array has not answered. -/
def fired : World Deployment := asked.1.cancel ⟨[0]⟩

/-- The pass gives the inventory up. -/
def gathered : World Deployment × Work (List Inventory) × Bool := asked.2.1.advance fired false

def received : List Inventory := gathered.2.1.result?.getD []

/-- The pass closes. -/
def closed : World Deployment × ResourceSyncReport :=
  takeOver bound opened.state.gateway.openPass received gathered.1

/-- The pass ends. -/
def ended : World Deployment := ((PassKind.leave closed.2).advance closed.1 false).1

def preludeTrace : List (Scene Deployment Unit) :=
  (PassKind.resources.prelude.trail (.start besideClientless)).map fun y => ⟨y.1, ()⟩

def gatherTrace : List (Scene Deployment Unit) :=
  ((gather bound opened.state.gateway.openPass).trail opened).map (fun y => ⟨y.1, ()⟩) ++
    ⟨fired, ()⟩ :: (asked.2.1.trail fired).map fun y => ⟨y.1, ()⟩

def endTrace : List (Scene Deployment Unit) :=
  ((PassKind.leave closed.2).trail closed.1).map fun y => ⟨y.1, ()⟩

theorem prelude_runs : Runs Cancels PassKind.resources.prelude ⟨.start besideClientless, ()⟩
    preludeTrace (.done (.ok ())) ⟨opened, ()⟩ := by
  have hturn : (PassKind.resources.prelude.advance (.start besideClientless) false).2.1.result? =
      some (.ok ()) := by decide +kernel
  exact runs_of_result Cancels () hturn

theorem gather_runs : Runs Cancels (gather bound opened.state.gateway.openPass) ⟨opened, ()⟩
    gatherTrace (.done received) ⟨gathered.1, ()⟩ := by
  have hsome : gathered.2.1.result?.isSome := by decide +kernel
  have hend : gathered.2.1.result? = some received := by
    obtain ⟨i, hi⟩ := Option.isSome_iff_exists.mp hsome
    rw [received, hi]
    rfl
  have hfired : Cancels ⟨asked.1, ()⟩ ⟨fired, ()⟩ := rfl
  have hask := runs_advance Cancels (gather bound opened.state.gateway.openPass) opened false ()
  exact hask.trans (.aside hfired (runs_of_result Cancels () hend))

/-- The parts of the pass. -/
def parts : PassKind.resources.Parts Cancels bound ⟨.start besideClientless, ()⟩
    (preludeTrace ++ ⟨opened, ()⟩ :: gatherTrace ++ [] ++ ⟨closed.1, ()⟩ :: endTrace) closed.2
    ⟨ended, ()⟩ where
  found := ()
  opening := ⟨opened, ()⟩
  gathered := ⟨gathered.1, ()⟩
  closing := ⟨gathered.1, ()⟩
  inventories := received
  preludeTrace := preludeTrace
  gatherTrace := gatherTrace
  waitTrace := []
  endTrace := endTrace
  prelude_runs := prelude_runs
  gather_runs := gather_runs
  wait_runs := .here _ _
  end_runs := runs_of_result Cancels () rfl
  trace_eq := rfl

end CutShort

/-- A token is cancelled while an array has not answered and a cluster without a client has failed
already. The pass drops neither owner, finished or not. Without that the pass over two clusters drops
what it should, on its own and when it is asked for; and passes at an interval end when their token is
cancelled. -/
theorem cancellation_spares_owners_cutShort :
    Harmless CutShort.parts ∧
    CutShort.ended.state.gateway.resources.ids = ["a-old", "b-1"] ∧
    Besides Cancels (SparesOnce ⟨[0]⟩) ⟨.start besideClientless, ()⟩ ⟨CutShort.ended, ()⟩ ∧
    (∃ (t : List (Scene Deployment Unit)) (s' : Scene Deployment Unit)
      (parts : PassKind.resources.Parts (fun _ _ => False) ⟨.root, none⟩
        ⟨.start twoClusters, ()⟩ t ⟨1, 2, ["b"], false⟩ s'), Swept parts) ∧
    (∃ (t1 : List (Scene Deployment Unit)) (s1 : Scene Deployment Unit),
      Runs (fun _ _ => False) (PassKind.resources.work ⟨.root, none⟩) ⟨.start twoClusters, ()⟩ t1
        (.done ⟨1, 2, ["b"], false⟩) s1) ∧
    Besides (fun _ _ => False) (SparesOnce ⟨[0]⟩)
      (⟨(World.start twoClusters).cancel ⟨[0]⟩, ()⟩ : Scene Deployment Unit)
      ⟨((periodic ⟨[0]⟩ 5 2).advance ((World.start twoClusters).cancel ⟨[0]⟩) false).1, ()⟩ := by
  obtain ⟨hpass, hspares, hasked, hperiodic⟩ := cancellation_spares_owners
  have hrun := CutShort.parts.run PassKind.leave
  rw [← PassKind.work_eq] at hrun
  have hown : DescendsFrom CutShort.bound.token ⟨[0]⟩ := List.suffix_refl _
  refine ⟨?_, by decide +kernel, hspares _ _ _ _ _ _ _ _ hown hrun, ?_, ?_, ?_⟩
  · obtain ⟨-, hreported⟩ := hpass Cancels .resources CutShort.bound _ _ _ _ (cancels_keeps _) hrun
    refine ((hreported _ rfl).2 CutShort.parts).2.1 _ hown ⟨⟨CutShort.fired, ()⟩, ?_, ?_⟩
    · have hmem : (⟨CutShort.fired, ()⟩ : Scene Deployment Unit) ∈ CutShort.gatherTrace :=
        List.mem_append_right _ List.mem_cons_self
      refine List.mem_append_right _ ?_
      exact List.mem_append_left [] (List.mem_cons_of_mem _ hmem)
    · exact World.isCancelled_cancel _ _
  · have hend : ((PassKind.resources.work ⟨.root, none⟩).advance (.start twoClusters)
        false).2.1.result? = some ⟨1, 2, ["b"], false⟩ := by decide +kernel
    have hrun := runs_of_result (fun _ _ => False) () hend
    obtain ⟨-, hreported⟩ := hpass _ .resources _ _ _ _ _ (fun _ _ h => h.elim) hrun
    obtain ⟨⟨parts, -⟩, hall⟩ := hreported _ rfl
    exact ⟨_, _, parts, (hall parts).2.2 rfl⟩
  · have hend : ((PassKind.asked ⟨.root, none⟩ .resources).advance (.start twoClusters)
        false).2.1.result? = some ⟨1, 2, ["b"], false⟩ := by decide +kernel
    obtain ⟨t1, s1, -, -, hrun, -⟩ :=
      hasked _ .resources _ _ _ _ _ (runs_of_result (fun _ _ => False) () hend)
    exact ⟨t1, s1, hrun⟩
  · exact (hperiodic _ _ _ _ _ _ _ _ (runs_advance _ _ _ false ())).2

end FederatedStorage.Deployment
