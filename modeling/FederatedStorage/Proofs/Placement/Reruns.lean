import FederatedStorage.Gateway.State
import FederatedStorage.Proofs.Placement.Candidates
import Mathlib.Data.List.Forall2

/-!
# Placements again

Two gateways of one seed that have to choose among the same clusters, time and again, choose the
same ones. Nothing else that happens to them moves the draws: neither how their registries were
filled and are listed, nor placements that fail or are forced, nor calls that are refused.

## Main statements

* `Placement.accept_placed`, `Placement.accept_unplaced`: what a call draws.
* `Placement.step_drawn`: what one event draws.
* `Placement.placements_undisturbed`: placements of one seed.
-/

namespace FederatedStorage.Placement

/-! ## Events -/

/-- An order in which registries list their clusters. -/
structure Order where
  listing : ClusterRegistry → List String
  perm : ∀ clusters, (listing clusters).Perm clusters.ids

/-- **What may happen to a gateway**, as far as its placements go. -/
inductive Event
  /-- Anything but the draws is changed. -/
  | change (other : Gateway)
  /-- A volume is placed; the registry lists its clusters in some order. -/
  | place (order : Order) (required : Tags)
  /-- A call is accepted or refused. -/
  | call (c : Call)

/-- **A placement**: the clusters that qualified, and the result. -/
structure Placed where
  candidates : List String
  result : Except Failure String

/-- The placement that a call asks for: that of a new volume, if the request is valid. -/
def placed? (g : Gateway) : Call → Option Placed
  | .createVolume r =>
    match Gateway.checkCreate r, r.source with
    | .ok (), .new =>
      some ⟨qualified g.clusters.labels r.affinityTags,
        (allocate g.draws g.clusters.labels r.affinityTags).1⟩
    | _, _ => none
  | _ => none

/-- **What an event makes of a gateway**, and the placements in it. -/
def step (g : Gateway) : Event → Gateway × List Placed
  | .change other => ({ other with draws := g.draws }, [])
  | .place order required =>
    let candidates := gathered (order.listing g.clusters) g.clusters required
    let placed := placeAmong g.draws candidates required
    ({ g with draws := placed.2 }, [⟨candidates, placed.1⟩])
  | .call c => ((g.accept c).2, (placed? g c).toList)

/-- **A gateway among events**, and all placements in them. -/
def run (g : Gateway) : List Event → Gateway × List Placed
  | [] => (g, [])
  | e :: rest =>
    let first := step g e
    let others := run first.1 rest
    (others.1, first.2 ++ others.2)

/-- The placements in which there is something to choose. -/
def contested (ps : List Placed) : List Placed := ps.filter fun p => 1 < p.candidates.length

/-! ## Calls -/

/-- **A call has a new volume placed**: its request is valid and names no source. -/
def Places (c : Call) (r : CreateVolume) : Prop :=
  c = .createVolume r ∧ Gateway.checkCreate r = .ok () ∧ r.source = .new

section Calls

variable (g : Gateway) {c : Call}

/-- **A call goes where its volume is placed.** -/
theorem accept_placed {r : CreateVolume} (h : Places c r) :
    placed? g c = some ⟨qualified g.clusters.labels r.affinityTags,
        (allocate g.draws g.clusters.labels r.affinityTags).1⟩ ∧
      g.accept c = ((allocate g.draws g.clusters.labels r.affinityTags).1.bind g.targetOf,
        { g with draws := (allocate g.draws g.clusters.labels r.affinityTags).2 }) := by
  obtain ⟨rfl, hvalid, hnew⟩ := h
  simp only [placed?, Gateway.accept, Gateway.clusterFor, hvalid, hnew, true_and]
  generalize allocate g.draws g.clusters.labels r.affinityTags = placed
  obtain ⟨_ | id, draws⟩ := placed <;> rfl

/-- A request for a volume that is not placed is refused, or follows its source. -/
theorem accept_create {r : CreateVolume} (h : ¬ Places (.createVolume r) r) :
    (∃ failure, ∀ g : Gateway, g.accept (.createVolume r) = (.error failure, g)) ∨
      ∃ id, ∀ g : Gateway,
        g.accept (.createVolume r) = ((g.resources.owner id).bind g.targetOf, g) := by
  cases hcheck : Gateway.checkCreate r with
  | error failure => exact .inl ⟨failure, fun g => by rw [Gateway.accept, hcheck]⟩
  | ok _ =>
    cases hsource : r.source with
    | new => exact absurd ⟨rfl, hcheck, hsource⟩ h
    | snapshot id =>
      refine .inr ⟨id, fun g => ?_⟩
      simp only [Gateway.accept, hcheck, Gateway.clusterFor, hsource]
      cases g.resources.owner id <;> rfl

/-- **Any other call draws nothing**, and what it is told has nothing to do with the draws. -/
theorem accept_unplaced (h : ∀ r, ¬ Places c r) :
    placed? g c = none ∧ (g.accept c).2 = g ∧
      ∀ draws, (Gateway.accept { g with draws := draws } c).1 = (g.accept c).1 := by
  cases c with
  | createVolume r =>
    refine ⟨?_, ?_⟩
    · cases hcheck : Gateway.checkCreate r with
      | error failure => simp only [placed?, hcheck]
      | ok _ =>
        cases hsource : r.source with
        | new => exact absurd ⟨rfl, hcheck, hsource⟩ (h r)
        | snapshot id => simp only [placed?, hcheck, hsource]
    · rcases accept_create (h r) with ⟨failure, haccept⟩ | ⟨id, haccept⟩
      · exact ⟨by rw [haccept], fun draws => by rw [haccept, haccept]⟩
      · exact ⟨by rw [haccept], fun draws => by rw [haccept, haccept]; rfl⟩
  | createSnapshot r =>
    simp only [placed?, Gateway.accept, true_and]
    cases Gateway.refuseEmpty r.name "snapshot name" <;> exact ⟨rfl, fun _ => rfl⟩
  | _ => exact ⟨rfl, rfl, fun _ => rfl⟩

end Calls

/-! ## Draws -/

/-- Chooses once for each list of candidates. -/
def drawAll (draws : Draws) : List (List String) → List (Except Failure String) × Draws
  | [] => ([], draws)
  | ids :: rest =>
    let placed := placeAmong draws ids .empty
    let others := drawAll placed.2 rest
    (placed.1 :: others.1, others.2)

theorem drawAll_append (draws : Draws) (xs ys : List (List String)) :
    drawAll draws (xs ++ ys) = ((drawAll draws xs).1 ++ (drawAll (drawAll draws xs).2 ys).1,
      (drawAll (drawAll draws xs).2 ys).2) := by
  induction xs generalizing draws with
  | nil => rfl
  | cons ids xs ih =>
    rw [List.cons_append, drawAll, ih]
    rfl

/-- A choice does not depend on the labels that left it. -/
theorem placeAmong_of_lt {ids : List String} (h : 1 < ids.length) (draws : Draws)
    (required : Tags) : placeAmong draws ids required = placeAmong draws ids .empty := by
  have hne : ids ≠ [] := List.ne_nil_of_length_pos (Nat.zero_lt_of_lt h)
  obtain ⟨id, -, hchoose⟩ := exists_choose_eq hne draws
  simp only [placeAmong, hchoose, Option.elim_some]

/-- Without a choice nothing is drawn. -/
theorem placeAmong_of_le {ids : List String} (h : ids.length ≤ 1) (draws : Draws)
    (required : Tags) : (placeAmong draws ids required).2 = draws := by
  rw [placeAmong, choose_of_le h]

/-- **Placements draw for the contested ones alone**, one after the other. -/
structure Drawn (draws : Draws) (ps : List Placed) (left : Draws) : Prop where
  ascending : ∀ p ∈ ps, p.candidates.Pairwise (· < ·)
  contested : drawAll draws ((contested ps).map (·.candidates)) =
    ((contested ps).map (·.result), left)

namespace Drawn

variable {draws left last : Draws} {ps qs : List Placed}

theorem nil (draws : Draws) : Drawn draws [] draws := ⟨nofun, rfl⟩

theorem append (h : Drawn draws ps left) (h' : Drawn left qs last) :
    Drawn draws (ps ++ qs) last := by
  refine ⟨fun p hp => ?_, ?_⟩
  · rcases List.mem_append.mp hp with hp | hp
    · exact h.ascending p hp
    · exact h'.ascending p hp
  · have hsplit : Placement.contested (ps ++ qs) =
        Placement.contested ps ++ Placement.contested qs := List.filter_append ..
    rw [hsplit, List.map_append, List.map_append, drawAll_append, h.contested, h'.contested]

/-- **One placement** draws if it is contested. -/
theorem single {ids : List String} (hids : ids.Pairwise (· < ·)) (draws : Draws)
    (required : Tags) :
    Drawn draws [⟨ids, (placeAmong draws ids required).1⟩] (placeAmong draws ids required).2 := by
  refine ⟨fun p hp => ?_, ?_⟩
  · rw [List.mem_singleton.mp hp]
    exact hids
  · by_cases hlt : 1 < ids.length
    · have hone : Placement.contested [⟨ids, (placeAmong draws ids required).1⟩] =
          [⟨ids, (placeAmong draws ids required).1⟩] := List.filter_cons_of_pos (decide_eq_true hlt)
      rw [hone, placeAmong_of_lt hlt draws required]
      rfl
    · have hnone : Placement.contested [⟨ids, (placeAmong draws ids required).1⟩] = [] :=
        List.filter_cons_of_neg (by simpa using hlt)
      rw [hnone, placeAmong_of_le (Nat.le_of_not_lt hlt)]
      rfl

theorem candidates_eq
    (hsame : List.Forall₂ (fun p q => ∀ id, id ∈ p.candidates ↔ id ∈ q.candidates) ps qs)
    (hps : ∀ p ∈ ps, p.candidates.Pairwise (· < ·))
    (hqs : ∀ q ∈ qs, q.candidates.Pairwise (· < ·)) :
    ps.map (·.candidates) = qs.map (·.candidates) := by
  induction hsame with
  | nil => rfl
  | cons hpq _ ih =>
    obtain ⟨hp, hps⟩ := List.forall_mem_cons.mp hps
    obtain ⟨hq, hqs⟩ := List.forall_mem_cons.mp hqs
    rw [List.map_cons, List.map_cons, ih hps hqs, eq_of_mem_iff hp hq hpq]

/-- **The same candidates, the same choices.** -/
theorem unique (h : Drawn draws ps left) (h' : Drawn draws qs last)
    (hsame : List.Forall₂ (fun p q => ∀ id, id ∈ p.candidates ↔ id ∈ q.candidates)
      (Placement.contested ps) (Placement.contested qs)) :
    (Placement.contested ps).map (·.result) = (Placement.contested qs).map (·.result) ∧
      left = last := by
  have hcandidates := candidates_eq hsame
    (fun p hp => h.ascending p (List.mem_of_mem_filter hp))
    fun q hq => h'.ascending q (List.mem_of_mem_filter hq)
  have hdrawn := h.contested
  rw [hcandidates, h'.contested] at hdrawn
  exact ⟨(Prod.mk.inj hdrawn).1.symm, (Prod.mk.inj hdrawn).2.symm⟩

end Drawn

/-- **The order in which a registry is listed** does not matter to a placement. -/
theorem step_place (g : Gateway) (order : Order) (required : Tags) :
    step g (.place order required) =
      ({ g with draws := (allocate g.draws g.clusters.labels required).2 },
        [⟨qualified g.clusters.labels required,
          (allocate g.draws g.clusters.labels required).1⟩]) := by
  rw [allocate_eq, ← gathered_eq (order.perm g.clusters)]
  rfl

/-- **What one event draws.** -/
theorem step_drawn (g : Gateway) (e : Event) : Drawn g.draws (step g e).2 (step g e).1.draws := by
  have hplace (required : Tags) := Drawn.single (qualified_ascending g.clusters.labels required)
    g.draws required
  cases e with
  | change other => exact .nil g.draws
  | place order required =>
    rw [step_place, allocate_eq]
    exact hplace required
  | call c =>
    by_cases hplaces : ∃ r, Places c r
    · obtain ⟨r, hr⟩ := hplaces
      obtain ⟨hplaced, haccept⟩ := accept_placed g hr
      simp only [step, hplaced, haccept, Option.toList_some, allocate_eq]
      exact hplace r.affinityTags
    · obtain ⟨hnone, hsame, -⟩ := accept_unplaced g (not_exists.mp hplaces)
      simp only [step, hnone, hsame, Option.toList_none]
      exact .nil g.draws

/-- **What a run draws.** -/
theorem run_drawn (g : Gateway) (es : List Event) :
    Drawn g.draws (run g es).2 (run g es).1.draws := by
  induction es generalizing g with
  | nil => exact .nil g.draws
  | cons e es ih => exact (step_drawn g e).append (ih _)

/-! ## Placements of one seed -/

/-- **Placement is right, and nothing but a choice moves the draws.** A volume goes to a registered
cluster with the labels it requires, in whatever order the clusters are listed, and fails to go
anywhere exactly if there is none. Gateways of one seed that have to choose among the same clusters
choose the same ones, whatever else becomes of them between and beside these choices. -/
theorem placements_undisturbed (seed : UInt64) :
    (∀ (draws : Draws) (order : Order) (clusters : ClusterRegistry) (required : Tags),
      placeAmong draws (gathered (order.listing clusters) clusters required) required =
        allocate draws clusters.labels required ∧
      (∀ id, id ∈ gathered (order.listing clusters) clusters required ↔
        Qualifies clusters required id) ∧
      (∀ id, (allocate draws clusters.labels required).1 = .ok id →
        Qualifies clusters required id) ∧
      ∀ failure, (allocate draws clusters.labels required).1 = .error failure ↔
        (∀ id, ¬ Qualifies clusters required id) ∧
          failure = .noQualifiedClusters required.describe) ∧
    (∀ (g : Gateway) (c : Call),
      (∀ r, Places c r →
        placed? g c = some ⟨qualified g.clusters.labels r.affinityTags,
          (allocate g.draws g.clusters.labels r.affinityTags).1⟩ ∧
        g.accept c = ((allocate g.draws g.clusters.labels r.affinityTags).1.bind g.targetOf,
          { g with draws := (allocate g.draws g.clusters.labels r.affinityTags).2 })) ∧
      ((∀ r, ¬ Places c r) → placed? g c = none ∧ (g.accept c).2 = g ∧
        ∀ draws, (Gateway.accept { g with draws := draws } c).1 = (g.accept c).1)) ∧
    ∀ (g g' : Gateway) (es es' : List Event), g.draws = .ofSeed seed → g'.draws = .ofSeed seed →
      List.Forall₂ (fun p q => ∀ id, id ∈ p.candidates ↔ id ∈ q.candidates)
        (contested (run g es).2) (contested (run g' es').2) →
      (contested (run g es).2).map (·.result) = (contested (run g' es').2).map (·.result) ∧
        (run g es).1.draws = (run g' es').1.draws := by
  refine ⟨fun draws order clusters required => ?_,
    fun g c => ⟨fun _ => accept_placed g, accept_unplaced g⟩, fun g g' es es' hg hg' hsame => ?_⟩
  · rw [gathered_eq (order.perm clusters)]
    exact ⟨(allocate_eq ..).symm, fun _ => mem_qualified_iff, fun _ => qualifies_of_allocate,
      fun _ => allocate_eq_error_iff⟩
  · have hdrawn := run_drawn g es
    have hdrawn' := run_drawn g' es'
    rw [hg] at hdrawn
    rw [hg'] at hdrawn'
    exact hdrawn.unique hdrawn' hsame

/-- A cluster of a region. -/
def inRegion (id region : String) : Cluster :=
  ⟨id, "memory", .ofList [("region", region)], .null, default, none⟩

/-- A gateway with two clusters, registered in one order or the other. -/
def eastWest (seed : UInt64) (eastFirst : Bool) : Gateway :=
  let empty := ClusterRegistry.empty
  let east := inRegion "a" "east"
  let west := inRegion "b" "west"
  { Gateway.new seed with
    clusters := if eastFirst then (empty.set "a" east).set "b" west
      else (empty.set "b" west).set "a" east }

/-- The ascending order. -/
def ascending : Order := ⟨fun clusters => clusters.ids, fun _ => .refl _⟩

/-- The descending order. -/
def descending : Order := ⟨fun clusters => clusters.ids.reverse, fun _ => List.reverse_perm _⟩

/-- Choices alone. -/
def choices : List Event := [.place ascending .empty, .place ascending .empty]

/-- The same choices among a forced placement, one that fails, and a request that is refused. -/
def disturbed : List Event :=
  [.place descending .empty, .place descending (.ofList [("region", "east")]),
    .place descending (.ofList [("region", "north")]),
    .call (.createVolume ⟨"", 1, .new, .empty, .empty⟩), .place descending .empty]

theorem forall₂_of_candidates_eq {ps qs : List Placed}
    (h : ps.map (·.candidates) = qs.map (·.candidates)) :
    List.Forall₂ (fun p q => ∀ id, id ∈ p.candidates ↔ id ∈ q.candidates) ps qs := by
  rw [← List.forall₂_eq_eq_eq, List.forall₂_map_left_iff, List.forall₂_map_right_iff] at h
  exact h.imp fun p q hpq id => by rw [hpq]

theorem placements_undisturbed_eastWest :
    (contested (run (eastWest 7 true) choices).2).map (·.candidates) = [["a", "b"], ["a", "b"]] ∧
    (contested (run (eastWest 7 true) choices).2).map (·.result) =
      (contested (run (eastWest 7 false) disturbed).2).map (·.result) ∧
    (run (eastWest 7 true) choices).1.draws = (run (eastWest 7 false) disturbed).1.draws := by
  have hchoices : (contested (run (eastWest 7 true) choices).2).map (·.candidates) =
      [["a", "b"], ["a", "b"]] := by
    simp only [choices, run, step_place]
    decide +kernel
  have hdisturbed : (contested (run (eastWest 7 false) disturbed).2).map (·.candidates) =
      [["a", "b"], ["a", "b"]] := by
    simp only [disturbed, run, step_place]
    decide +kernel
  have hsame := forall₂_of_candidates_eq (hchoices.trans hdisturbed.symm)
  exact ⟨hchoices, (placements_undisturbed 7).2.2 (eastWest 7 true) (eastWest 7 false) choices
    disturbed rfl rfl hsame⟩

end FederatedStorage.Placement
