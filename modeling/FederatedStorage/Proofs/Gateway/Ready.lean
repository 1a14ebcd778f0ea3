import FederatedStorage.Proofs.Gateway.Counted

/-!
# When the gateway is ready

The gateway is ready once it keeps a report, and it keeps one from the moment when a whole pass is
counted. So it is ready exactly when a pass has come to a report, in whatever way passes, requests
and changes of the configuration have followed each other. A configuration that is no good brings no
report, and neither do the parts of a pass by themselves.

But a pass that was cut short by a cancellation brings one too. So the gateway may be ready before
any pass has swept; it is ready only after a sweep exactly in those runs in which some report says
that its pass was not cancelled, or there is none.

## Main statements

* `passesCounted_at_all_times`: a report is kept exactly when a pass has been counted.
* `ready_iff_reported`: when the gateway is ready, in every run.
* `ready_without_sweep`: it may be ready though every pass was cut short.
-/

namespace FederatedStorage

open Schedule Http

namespace Deployment

open Gateway

variable {V : Clients} {v : World Deployment} {x : Scene Deployment Clientele}

/-- The gateway has come to no report yet. -/
structure Unready (w : World Deployment) : Prop where
  report : w.state.gateway.lastReport = none
  passes : w.state.gateway.metrics.passes = 0

/-- **A report is kept exactly when a pass has been counted**: so many, of which the counter shows
what 64 bits can. -/
structure PassesCounted (g : Gateway) (total : Nat) : Prop where
  passes : g.metrics.passes = UInt64.ofNat total
  ready : g.isReady = true ↔ 0 < total

theorem passesCounted_of_hasCounted {w : World Deployment} {total : Nat} (hv : Unready v)
    (h : HasCounted v.state.gateway .passes w total) : PassesCounted w.state.gateway total := by
  have hfirst : v.state.gateway.metrics.value .passes = 0 := hv.passes
  have hunready : v.state.gateway.isReady = false := by rw [isReady, hv.report]; rfl
  refine ⟨?_, ?_⟩
  · have hvalue := h.value
    rw [hfirst, UInt64.zero_add] at hvalue
    exact hvalue
  · rw [h.ready rfl, hunready, or_iff_right Bool.false_ne_true]

/-- As many passes have been counted as there are reports, and those that are under way. -/
theorem passesCounted_at_all_times (hV : V.Discreet) (hv : Unready v)
    (hrun : V.AtWork ⟨v, .nobody⟩ x) :
    ∃ n, PassesCounted x.world.state.gateway ((reports x.others.met).length + n) := by
  obtain ⟨n, h⟩ := counted_at_all_times hV hrun .passes
  rw [billed_passes] at h
  exact ⟨n, passesCounted_of_hasCounted hv h⟩

theorem passesCounted_when_idle (hV : V.Discreet) (hv : Unready v) (hrun : V.AtWork ⟨v, .nobody⟩ x)
    (hidle : x.others.Idle) :
    PassesCounted x.world.state.gateway (reports x.others.met).length := by
  have h := counted_when_idle hV hrun hidle .passes
  rw [billed_passes] at h
  exact passesCounted_of_hasCounted hv h

/-- **Whoever has been given a report finds the gateway ready.** -/
theorem ready_of_reports (hV : V.Discreet) (hv : Unready v) (hrun : V.AtWork ⟨v, .nobody⟩ x)
    (hreports : reports x.others.met ≠ []) : x.world.state.gateway.isReady = true := by
  obtain ⟨n, hpasses⟩ := passesCounted_at_all_times hV hv hrun
  exact hpasses.ready.mpr (Nat.add_pos_left (List.length_pos_iff.mpr hreports) n)

/-- **When nothing is under way**, nobody else finds it ready. -/
theorem ready_iff_reports (hV : V.Discreet) (hv : Unready v) (hrun : V.AtWork ⟨v, .nobody⟩ x)
    (hidle : x.others.Idle) :
    x.world.state.gateway.isReady = true ↔ reports x.others.met ≠ [] := by
  rw [(passesCounted_when_idle hV hv hrun hidle).ready]
  exact List.length_pos_iff

/-- **The gateway is ready once a whole pass has come to a report**, cut short or not.

In every run from a gateway without a report, with calls that are cancelled at any time, with any
configuration and any failures: it is ready from the moment when a whole pass is counted, who has
been given a report finds it ready from then on, and when nothing is under way it is ready only if a
report was given. So a configuration that is no good, a resync of all resources and any request leave
it as unready as it was. That some report was not cut short is what makes it ready, except in those
runs in which there are reports and all were. -/
theorem ready_iff_reported (V : Clients) (v : World Deployment) (x : Scene Deployment Clientele)
    (hV : V.Discreet) (hv : Unready v) (hrun : V.AtWork ⟨v, .nobody⟩ x) :
    (∃ n, PassesCounted x.world.state.gateway ((reports x.others.met).length + n) ∧
      (x.others.Idle → n = 0)) ∧
    (reports x.others.met ≠ [] → x.world.state.gateway.isReady = true) ∧
    (x.others.Idle →
      (x.world.state.gateway.isReady = true ↔ reports x.others.met ≠ []) ∧
      ((x.world.state.gateway.isReady = true ↔
          ∃ r ∈ reports x.others.met, r.resources.cancelled = false) ↔
        ¬ (reports x.others.met ≠ [] ∧
          ∀ r ∈ reports x.others.met, r.resources.cancelled = true))) := by
  refine ⟨?_, ready_of_reports hV hv hrun, ?_⟩
  · by_cases hidle : x.others.Idle
    · exact ⟨0, passesCounted_when_idle hV hv hrun hidle, fun _ => rfl⟩
    · obtain ⟨n, hpasses⟩ := passesCounted_at_all_times hV hv hrun
      exact ⟨n, hpasses, fun h => absurd h hidle⟩
  intro hidle
  have hready := ready_iff_reports hV hv hrun hidle
  refine ⟨hready, ?_⟩
  rw [hready]
  constructor
  · rintro hswept ⟨hsome, hall⟩
    obtain ⟨r, hr, hnot⟩ := hswept.mp hsome
    rw [hall r hr] at hnot
    cases hnot
  · intro hnot
    constructor
    · intro hsome
      by_contra hnone
      refine hnot ⟨hsome, fun r hr => ?_⟩
      by_contra hcancelled
      exact hnone ⟨r, hr, Bool.eq_false_iff.mpr hcancelled⟩
    · rintro ⟨r, hr, -⟩
      exact List.ne_nil_of_mem hr

/-! ## A pass that was cut short -/

/-- A gateway that has just been made, with a token that is cancelled. -/
def cutShort : Scene Deployment Clientele := ⟨beforeCalls.world.cancel ⟨[0]⟩, .nobody⟩

/-- Loading the configuration under that token. -/
def reloadsCutShort : Demand := ⟨⟨⟨[0]⟩, none⟩, .reload⟩

theorem unready_cutShort : Unready cutShort.world := ⟨rfl, rfl⟩

theorem idle_served (d : Demand) : (served cutShort d).others.Idle := by
  intro st hst
  unfold served at hst
  split at hst
  · rw [List.mem_singleton.mp hst]
    rfl
  · exact absurd hst List.not_mem_nil

/-- **Ready without a sweep**: all passes have been cut short, and the gateway is ready. -/
theorem ready_without_sweep :
    let x := served cutShort reloadsCutShort
    Clients.arrays.AtWork cutShort x ∧ x.others.Idle ∧
      x.world.state.gateway.isReady = true ∧
        ¬ ∃ r ∈ reports x.others.met, r.resources.cancelled = false := by
  refine ⟨atWork_served .refl _, idle_served _, by decide +kernel, ?_⟩
  rintro ⟨r, hr, hnot⟩
  have hall : ∀ r ∈ reports (served cutShort reloadsCutShort).others.met,
      r.resources.cancelled = true := by decide +kernel
  rw [hall r hr] at hnot
  cases hnot

/-- The same run, and one in which the pass is not cut short. -/
theorem ready_iff_reported_cutShort :
    (served cutShort reloadsCutShort).world.state.gateway.isReady = true ∧
    (served cutShort reloads).world.state.gateway.isReady = true ∧
      ∃ r ∈ reports (served cutShort reloads).others.met, r.resources.cancelled = false := by
  have hrun : ∀ d, Clients.arrays.AtWork cutShort (served cutShort d) := atWork_served .refl
  obtain ⟨-, hcut, -⟩ := ready_iff_reported _ _ _ Clients.arrays_discreet unready_cutShort
    (hrun reloadsCutShort)
  obtain ⟨-, -, hwhole⟩ := ready_iff_reported _ _ _ Clients.arrays_discreet unready_cutShort
    (hrun reloads)
  obtain ⟨hready, hswept⟩ := hwhole (idle_served reloads)
  have hsome : reports (served cutShort reloads).others.met ≠ [] := by
    refine List.length_pos_iff.mp ?_
    decide +kernel
  have hone : ¬ ∀ r ∈ reports (served cutShort reloads).others.met, r.resources.cancelled = true := by
    decide +kernel
  refine ⟨hcut ?_, hready.mpr hsome, (hswept.mpr fun h => hone h.2).mp (hready.mpr hsome)⟩
  refine List.length_pos_iff.mp ?_
  decide +kernel

end Deployment

end FederatedStorage
