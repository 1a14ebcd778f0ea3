import FederatedStorage.Proofs.Gateway.Loaded
import FederatedStorage.Proofs.Gateway.Turns

/-!
# Passes one after the other

A pass that comes when nobody has a turn has its turn at once, and leaves nobody with one. So passes
that are asked for one after the other run one at a time, whatever the rest of the world does
meanwhile. A reload that succeeds leaves exactly the clusters that it reports, and its report stays
the last one until another succeeds.

## Main statements

* `asked_begins`, `asked_ends`: a pass that is alone.
* `oneByOne_follows`: the registered clusters are those of the last report.
-/

namespace FederatedStorage.Deployment

open Schedule Gateway

variable {v w : World Deployment}

/-! ## One after the other -/

/-- **Passes one after the other**, and what they report. -/
def oneByOne : List Asked → Work (List Reported)
  | [] => .done []
  | a :: as => a.work.bind fun r => (oneByOne as).map (⟨a.kind, r⟩ :: ·)

section OneByOne

variable {ε : Type} {moves : Scene Deployment ε → Scene Deployment ε → Prop}
  {s s1 s2 : Scene Deployment ε} {t t' : List (Scene Deployment ε)}

/-- One pass more. -/
theorem oneByOne_append {as : List Asked} {rs : List Reported} {a : Asked} {r : a.kind.Result}
    (h : Runs moves (oneByOne as) s t (.done rs) s1) (ha : Runs moves a.work s1 t' (.done r) s2) :
    ∃ t, Runs moves (oneByOne (as ++ [a])) s t (.done (rs ++ [⟨a.kind, r⟩])) s2 := by
  induction as generalizing s t rs with
  | nil =>
    obtain ⟨hrs, hmoves⟩ := h.of_done
    cases hrs
    have hlast : Runs moves ((oneByOne []).map (Reported.mk a.kind r :: ·)) s2 []
        (.done [⟨a.kind, r⟩]) s2 := .here _ s2
    exact ⟨_, ((hmoves a.work).trans ha).bind hlast⟩
  | cons b as ih =>
    obtain ⟨r', t1, x, t2, -, hfirst, hmap⟩ := Runs.bind_done h
    obtain ⟨rs', t3, y, t4, -, hrest, hlast⟩ := Runs.bind_done hmap
    obtain ⟨hrs, hmoves⟩ := hlast.of_done
    cases hrs
    obtain ⟨t5, hmore⟩ := ih (hrest.trans (hmoves _))
    have hend : Runs moves (.done (Reported.mk b.kind r' :: (rs' ++ [⟨a.kind, r⟩]))) s2 []
        (.done (Reported.mk b.kind r' :: (rs' ++ [⟨a.kind, r⟩]))) s2 := .here _ s2
    exact ⟨_, hfirst.bind (hmore.bind hend)⟩

end OneByOne

/-- Nobody has a turn or waits for one. -/
def Unlocked (w : World Deployment) : Prop :=
  w.state.lock.holder = none ∧ w.state.lock.queue = []

section Alone

variable {ε : Type} {moves : Scene Deployment ε → Scene Deployment ε → Prop}

/-- **A pass that comes alone** has its turn at once. -/
theorem asked_begins (a : Asked) {y : Scene Deployment ε} (h : Unlocked y.world) :
    ∃ t ticket w, Runs moves a.work y t
        ((Stage.inside ticket (a.kind.body a.bound)).rest a.bound) (y.put w) ∧
      Alike y.world w ∧ w.state.lock.queue = [] := by
  obtain ⟨hholder, hqueue⟩ := h
  have henter : y.world.state.lock.enter =
      (⟨some y.world.state.lock.nextTicket, [], y.world.state.lock.nextTicket + 1⟩,
        y.world.state.lock.nextTicket) := by
    unfold PassLock.enter
    rw [hholder, hqueue]
  let w := y.world.modify fun d => { d with lock := d.lock.enter.1 }
  have hlock : w.state.lock = _ := congrArg Prod.fst henter
  have hfirst := Stage.Step.rest (k := a.kind) (b := a.bound) (.enter (v := y.world))
  have hturn : w.state.lock.holder = some y.world.state.lock.enter.2 := by
    rw [hlock, henter]
  have hsecond := Stage.Step.rest (k := a.kind) (b := a.bound) (.acquire hturn)
  refine ⟨_, _, w, .step hfirst (.step hsecond (.here _ _)), ?_, ?_⟩
  · exact ⟨_, y.world.state.gateway.metrics, rfl⟩
  · rw [hlock]

/-- **A pass that is alone** leaves nobody with a turn. -/
theorem asked_ends (a : Asked) {z : Scene Deployment ε} (ticket : Nat) (r : a.kind.Result)
    (h : z.world.state.lock.queue = []) :
    ∃ t w, Runs moves ((Stage.inside ticket (.done r)).rest a.bound) z t (.done r) (z.put w) ∧
      Alike z.world w ∧ Unlocked w := by
  have hleave : z.world.state.lock.leave = ⟨none, [], z.world.state.lock.nextTicket⟩ := by
    unfold PassLock.leave
    rw [h]
  let v := z.world.modify fun d => { d with lock := d.lock.leave }
  have hfirst := Stage.Step.rest (b := a.bound) (.leave (v := z.world) ticket r)
  have hsecond := Stage.Step.rest (b := a.bound) (.note (v := v) r)
  refine ⟨_, _, .step hfirst (.step hsecond (.here _ _)), ?_, ?_⟩
  · exact Alike.trans ⟨_, z.world.state.gateway.metrics, rfl⟩ (PassKind.count_alike v a.kind r)
  · show z.world.state.lock.leave.holder = none ∧ z.world.state.lock.leave.queue = []
    rw [hleave]
    exact ⟨rfl, rfl⟩

end Alone

/-! ## The report of the last reload -/

/-- Clusters and the last report are as they were. -/
structure SameRegistry (v w : World Deployment) : Prop where
  clusters : w.state.gateway.clusters = v.state.gateway.clusters
  lastReport : w.state.gateway.lastReport = v.state.gateway.lastReport

theorem SameRegistry.trans {u v w : World Deployment} (h : SameRegistry u v)
    (h' : SameRegistry v w) : SameRegistry u w :=
  ⟨h'.clusters.trans h.clusters, h'.lastReport.trans h.lastReport⟩

theorem Alike.sameRegistry (h : Alike v w) : SameRegistry v w := by
  obtain ⟨lock, metrics, rfl⟩ := h
  exact ⟨rfl, rfl⟩

/-- Nothing to count on, and acts that leave clusters and the last report alone. -/
def aloof : Rely Deployment := .nothing SameRegistry fun _ => ⟨rfl, rfl⟩

/-- **The registered clusters are those of the last report**, and there are none before the first. -/
def Follows (w : World Deployment) : Prop :=
  ∀ id, id ∈ w.state.gateway.clusters.ids ↔
    ∃ report, w.state.gateway.lastReport = some report ∧ id ∈ report.clusters.registered

theorem Follows.of_same (h : SameRegistry v w) (hv : Follows v) : Follows w := by
  intro id
  rw [h.clusters, h.lastReport]
  exact hv id

/-- The report of a reload that has succeeded. -/
def Reported.pass? : Reported → Option PassReport
  | ⟨.whole, .ok report⟩ => some report
  | _ => none

section LastReport

variable {ε α : Type} {moves : Scene Deployment ε → Scene Deployment ε → Prop}
  {s s' : Scene Deployment ε} {t : List (Scene Deployment ε)} {b : Bound}

/-- What the others leave alone, and a part of a pass as well, is as it was. -/
theorem Runs.sameRegistry {Q : α → Prop} {p q : Work α} (h : Runs moves p s t q s')
    (hmoves : ∀ x y, moves x y → SameRegistry x.world y.world) (hp : Safe aloof Q p s.world) :
    SameRegistry s.world s'.world :=
  (hp.besides h).keep (J := fun y => SameRegistry s.world y.world)
    (fun x y hxy hx => hx.trans (hmoves x y hxy)) (fun _ _ hw hx => hx.trans hw) ⟨rfl, rfl⟩

/-- Who only waits changes nothing. -/
theorem Runs.sameRegistry_done {a : α} {q : Work α} (h : Runs moves (.done a) s t q s')
    (hmoves : ∀ x y, moves x y → SameRegistry x.world y.world) :
    SameRegistry s.world s'.world :=
  have hdone : Safe aloof (fun _ => True) (.done a : Work α) s.world := trivial
  Runs.sameRegistry h hmoves hdone

theorem syncResources_aloof : Safe aloof (fun _ => True) (syncResources b) w := by
  have hdial : LetsDial aloof := fun _ _ _ _ _ _ _ => SameRegistry.mk rfl rfl
  refine Safe.bind (fun opened _ _ => ?_) (Safe.look (Q := fun _ => True) fun _ _ => trivial)
  refine Safe.bind (fun inventories _ _ => ?_) (gather_safe hdial opened)
  refine Safe.step fun v _ => ⟨?_, trivial⟩
  simp only [takeOver, closePass_fst]
  exact SameRegistry.mk rfl rfl

/-- **A configuration that is loaded** is registered, and one that is no good changes nothing. -/
theorem loadClusters_registers {a : Except Failure ClusterSyncReport}
    (hmoves : ∀ x y, moves x y → SameRegistry x.world y.world)
    (h : Runs moves loadClusters s t (.done a) s') :
    s'.world.state.gateway.lastReport = s.world.state.gateway.lastReport ∧
      ((∃ failure, a = .error failure) ∧
          s'.world.state.gateway.clusters = s.world.state.gateway.clusters ∨
        ∃ report, a = .ok report ∧
          ∀ id, id ∈ s'.world.state.gateway.clusters.ids ↔ id ∈ report.registered) := by
  rw [loadClusters_eq] at h
  obtain ⟨t1, x, t2, -, hothers, hloaded⟩ := Runs.act_done h
  have hbefore : SameRegistry s.world x.world :=
    Runs.sameRegistry_done (hothers (.done ())) hmoves
  have hafter : SameRegistry (loading x.world).1 s'.world :=
    Runs.sameRegistry_done hloaded hmoves
  have hresult : (loading x.world).2 = a := (Activity.done.inj hloaded.of_done.1).symm
  unfold loading at hresult hafter
  cases hsource : x.world.state.source.load with
  | error failure =>
    rw [hsource] at hresult hafter
    have hsame : SameRegistry s.world s'.world := hbefore.trans hafter
    exact ⟨hsame.lastReport, Or.inl ⟨⟨failure, hresult.symm⟩, hsame.clusters⟩⟩
  | ok ds =>
    rw [hsource] at hresult hafter
    refine ⟨hafter.lastReport.trans hbefore.lastReport, Or.inr ⟨_, hresult.symm, fun id => ?_⟩⟩
    -- what is loaded names each cluster once
    have hnodup : (ds.map ClusterDescriptor.clusterId).Nodup :=
      ((ClusterSource.load_iff (ClusterSource.held_of_load hsource)).mp ⟨ds, hsource⟩).2
    have hsynced : Synced x.world.state.factory x.world.state.now ds x.world.state.gateway.clusters
        x.world.state.shelf _ := syncClusters_synced hnodup
    rw [hafter.clusters, registeredReport, hsynced.registered]
    exact hsynced.keys id

/-- A whole pass keeps its report. -/
theorem finish_keeps {found : Time.Timestamp × ClusterSyncReport} {resources : ResourceSyncReport}
    {result : Except Failure PassReport}
    (hmoves : ∀ x y, moves x y → SameRegistry x.world y.world)
    (h : Runs moves (PassKind.finish found resources) s t (.done result) s') :
    s'.world.state.gateway.clusters = s.world.state.gateway.clusters ∧
      ∃ report, result = .ok report ∧ report.clusters = found.2 ∧
        s'.world.state.gateway.lastReport = some report := by
  obtain ⟨t1, x, t2, -, hothers, hend⟩ := Runs.act_done h
  have hbefore : SameRegistry s.world x.world :=
    Runs.sameRegistry_done (hothers (.done ())) hmoves
  have hafter := Runs.sameRegistry_done hend hmoves
  refine ⟨hafter.clusters.trans hbefore.clusters, _, ?_, ?_, hafter.lastReport⟩
  · exact Activity.done.inj hend.of_done.1
  · rfl

/-- **In its turn** a pass that succeeds registers the clusters that it reports. -/
theorem body_follows {k : PassKind} {result : k.Result}
    (hmoves : ∀ x y, moves x y → SameRegistry x.world y.world)
    (h : Runs moves (k.body b) s t (.done result) s') (hs : Follows s.world) :
    Follows s'.world ∧ s'.world.state.gateway.lastReport =
      (Reported.pass? ⟨k, result⟩).or s.world.state.gateway.lastReport := by
  cases k with
  | resources =>
    have hsame := Runs.sameRegistry h hmoves syncResources_aloof
    exact ⟨hs.of_same hsame, hsame.lastReport⟩
  | whole =>
    obtain ⟨started, t1, s1, t2, -, hlook, hrest⟩ := Runs.bind_done h
    obtain ⟨loaded, t3, s2, t4, -, hload, hbody⟩ := Runs.bind_done hrest
    have hlooked : SameRegistry s.world s1.world :=
      Runs.sameRegistry hlook hmoves (Safe.look (Q := fun _ => True) fun _ _ => trivial)
    obtain ⟨hreport, ⟨⟨failure, rfl⟩, hclusters⟩ | ⟨clusters, rfl, hkeys⟩⟩ :=
      loadClusters_registers hmoves hload
    · have hend : SameRegistry s2.world s'.world := Runs.sameRegistry_done hbody hmoves
      cases hbody.of_done.1
      have hsame : SameRegistry s.world s'.world :=
        (hlooked.trans ⟨hclusters, hreport⟩).trans hend
      exact ⟨hs.of_same hsame, hsame.lastReport⟩
    · obtain ⟨resources, t5, s3, t6, -, hsync, hfinish⟩ := Runs.bind_done hbody
      have hsynced : SameRegistry s2.world s3.world :=
        Runs.sameRegistry hsync hmoves syncResources_aloof
      obtain ⟨hkept, report, rfl, hfound, hlast⟩ := finish_keeps hmoves hfinish
      have hfound : report.clusters = clusters := hfound
      refine ⟨fun id => ?_, hlast⟩
      rw [hkept, hsynced.clusters, hkeys id, hlast]
      refine ⟨fun hid => ⟨report, rfl, hfound ▸ hid⟩, ?_⟩
      rintro ⟨_, hsame, hid⟩
      cases hsame
      exact hfound ▸ hid

theorem note_aloof {k : PassKind} {result : k.Result} :
    Safe aloof (fun _ => True) (k.note result) w := by
  refine onGateway_safe fun v _ => ⟨?_, trivial⟩
  exact (PassKind.count_alike v k result).sameRegistry

/-- **A pass that is asked for** is followed by the clusters that it reports, if it succeeds. -/
theorem asked_follows {a : Asked} {result : a.kind.Result}
    (hmoves : ∀ x y, moves x y → SameRegistry x.world y.world)
    (h : Runs moves a.work s t (.done result) s') (hs : Follows s.world) :
    Follows s'.world ∧ s'.world.state.gateway.lastReport =
      (Reported.pass? ⟨a.kind, result⟩).or s.world.state.gateway.lastReport := by
  unfold Asked.work at h
  rw [PassKind.asked_eq] at h
  obtain ⟨r, t1, s1, t2, -, halone, hnote⟩ := Runs.bind_done h
  obtain ⟨ticket, t3, s2, t4, -, henter, hrest⟩ := Runs.bind_done halone
  obtain ⟨_, t5, s3, t6, -, hwait, hturn⟩ := Runs.bind_done hrest
  obtain ⟨r', t7, s4, t8, -, hbody, hleave⟩ := Runs.bind_done hturn
  have hentered : SameRegistry s.world s2.world := Runs.sameRegistry henter hmoves
    (Safe.step (Q := fun _ => True) fun _ _ => ⟨SameRegistry.mk rfl rfl, trivial⟩)
  have hwaited : SameRegistry s2.world s3.world := Runs.sameRegistry hwait hmoves
    (Q := fun _ => True) ⟨False.elim, fun _ _ _ => trivial⟩
  obtain ⟨hfollows, hlast⟩ := body_follows hmoves hbody (hs.of_same (hentered.trans hwaited))
  have hleft : SameRegistry s4.world s1.world := Runs.sameRegistry hleave hmoves
    (Safe.step (Q := fun _ => True) fun _ _ => ⟨SameRegistry.mk rfl rfl, trivial⟩)
  have hnoted : SameRegistry s1.world s'.world := Runs.sameRegistry hnote hmoves note_aloof
  have hend : SameRegistry s4.world s'.world := hleft.trans hnoted
  cases PassKind.leave_result hleave
  obtain ⟨_, hnote⟩ := onGateway_result hnote
  cases hnote
  refine ⟨hfollows.of_same hend, ?_⟩
  rw [hend.lastReport, hlast, (hentered.trans hwaited).lastReport]

/-- **Passes one after the other**: the last report is that of the last reload that has succeeded. -/
theorem oneByOne_follows {as : List Asked} {reports : List Reported}
    (hmoves : ∀ x y, moves x y → SameRegistry x.world y.world)
    (h : Runs moves (oneByOne as) s t (.done reports) s') (hs : Follows s.world) :
    Follows s'.world ∧ s'.world.state.gateway.lastReport =
      ((reports.filterMap Reported.pass?).getLast?).or s.world.state.gateway.lastReport := by
  induction as generalizing s t s' reports with
  | nil =>
    have hsame : SameRegistry s.world s'.world := Runs.sameRegistry_done h hmoves
    cases h.of_done.1
    exact ⟨hs.of_same hsame, hsame.lastReport⟩
  | cons a as ih =>
    obtain ⟨r, t1, s1, t2, -, hfirst, hmap⟩ := Runs.bind_done h
    obtain ⟨rs, t3, s2, t4, -, hrest, hdone⟩ := Runs.bind_done hmap
    obtain ⟨hfollows, hlast⟩ := asked_follows hmoves hfirst hs
    obtain ⟨hfollows', hlast'⟩ := ih hrest hfollows
    have hend : SameRegistry s2.world s'.world := Runs.sameRegistry_done hdone hmoves
    cases hdone.of_done.1
    refine ⟨hfollows'.of_same hend, ?_⟩
    rw [hend.lastReport, hlast', hlast, List.filterMap_cons]
    cases Reported.pass? ⟨a.kind, r⟩ with
    | none => rfl
    | some report =>
      dsimp only
      rw [List.getLast?_cons]
      cases (rs.filterMap Reported.pass?).getLast? <;> rfl

end LastReport

end FederatedStorage.Deployment
