import FederatedStorage.Proofs.Backend.Rounds
import Mathlib.Algebra.GroupWithZero.Nat

/-!
# Shares of the dials

Of any number of rounds of dials every place has its exact share: a round for itself, and one more
for each place that fails just before it. What a dial tries depends on where it begins alone, and
each begins one place further than the one before, however the dials overlap.

## Main statements

* `Rotation.Course.mem_places_iff`: the places that a dial has tried when it ends.
* `Rotation.Since.step`: what dials side by side keep.
* `Rotation.dialAll_runs`: dials one after the other are such a run.
* `Rotation.shares_exact`: the shares of all places.
-/

namespace FederatedStorage.Rotation

/-! ## Dials with fixed outcomes -/

/-- Whether an attempt has failed. -/
def fails : Except String Unit → Bool
  | .error _ => true
  | .ok _ => false

namespace Progress

/-- Whether a dial is over and was not given up. -/
def hasEnded : Progress → Bool
  | failed _ => true
  | opened _ => true
  | released _ => true
  | _ => false

/-- Whether a dial has returned a connection to a place. -/
def returned (place : Nat) : Progress → Bool
  | opened c => c.place == place
  | released c => c.place == place
  | _ => false

end Progress

namespace Course

/-- **The attempts of a dial fail on a fixed set of places.** -/
def Meets (failing : Nat → Bool) (x : Course) : Prop := ∀ a ∈ x.tried, fails a.2 = failing a.1

/-- **A dial takes the places from `start` around.** -/
def From (n start : Nat) (x : Course) : Prop :=
  match x.progress with
  | .dialing d => placesOf x.tried ++ d.untried = placesFrom n start
  | _ => ∃ rest, placesOf x.tried ++ rest = placesFrom n start

variable {as : List String} {failing : Nat → Bool} {n start : Nat} {x : Course}

theorem From.places (h : x.From n start) :
    ∃ rest, placesOf x.tried ++ rest = placesFrom n start := by
  unfold From at h
  split at h
  · exact ⟨_, h⟩
  · exact h

theorem failing_of_allFailed {tried : Tries} (hfailed : AllFailed tried)
    (hmeets : ∀ a ∈ tried, fails a.2 = failing a.1) : ∀ q ∈ placesOf tried, failing q = true := by
  intro q hq
  obtain ⟨a, ha, rfl⟩ := List.mem_map.mp hq
  obtain ⟨e, he⟩ := hfailed a ha
  rw [← hmeets a ha, he]
  rfl

/-- **A dial fails only if all places fail.** -/
theorem failing_of_failed (hfair : Fair as x) (hmeets : x.Meets failing) {failure : Failure}
    (h : x.progress = .failed failure) : ∀ q < as.length, failing q = true := by
  intro q hq
  obtain ⟨hall, hfailed, -⟩ := hfair.of_failed h
  exact failing_of_allFailed hfailed hmeets q (hall.mem_iff.mpr (List.mem_range.mpr hq))

/-- **What a dial that has ended has tried**: the places that it comes to. -/
theorem mem_places_iff (hfair : Fair as x) (hended : x.progress.hasEnded = true)
    (hmeets : x.Meets failing) (hfrom : x.From as.length start) (place : Nat) :
    place ∈ placesOf x.tried ↔ Reaches failing as.length start place := by
  obtain ⟨rest, hplaces⟩ := hfrom.places
  have hfailing {failure : Failure} (h : x.progress = .failed failure) :=
    failing_of_failed hfair hmeets h
  cases hfair with
  | dialing => cases hended
  | abandoned => cases hended
  | failed hall => rw [reaches_of_all (hfailing rfl), hall, mem_placesFrom, mem_placesFrom]
  | @connected tried q _ _ _ _ _ hfailed =>
    have hq : failing q = false := (hmeets _ (List.mem_append_right _ List.mem_cons_self)).symm
    have hfront := failing_of_allFailed hfailed fun a ha => hmeets a (List.mem_append_left _ ha)
    have hsplit : placesOf (tried ++ [(q, .ok ())]) = placesOf tried ++ [q] := List.map_append
    rw [hsplit] at hplaces ⊢
    exact (reaches_of_first hplaces hfront hq).symm

/-- The number of attempts on a place. -/
def attempts (x : Course) (place : Nat) : Nat := x.tried.countP fun a => a.1 == place

/-- A dial that has ended has tried a place once if it comes to it. -/
theorem attempts_eq (hfair : Fair as x) (hended : x.progress.hasEnded = true)
    (hmeets : x.Meets failing) (hfrom : x.From as.length start) (place : Nat) :
    x.attempts place = if Reaches failing as.length start place then 1 else 0 := by
  have hcount : x.attempts place = (placesOf x.tried).count place := by
    rw [attempts, List.count, placesOf, List.countP_map]
    rfl
  rw [hcount, hfair.nodup.count]
  exact if_congr (mem_places_iff hfair hended hmeets hfrom place) rfl rfl

/-- Its attempts on a place that fails are failures. -/
theorem failures_eq (hmeets : x.Meets failing) (place : Nat) :
    x.failures place = if failing place then x.attempts place else 0 := by
  have hfailed (a : Nat × Except String Unit) :
      failedOn place a = true ↔ a.1 = place ∧ fails a.2 = true := by
    obtain ⟨p, _ | _⟩ := a <;> simp [failedOn, fails]
  split
  · next hfailing =>
    refine List.countP_congr fun a ha => ?_
    rw [hfailed, hmeets a ha, beq_iff_eq, and_iff_left_iff_imp]
    rintro rfl
    exact hfailing
  · next hfailing =>
    refine List.countP_eq_zero.mpr fun a ha h => ?_
    rw [hfailed, hmeets a ha] at h
    exact hfailing (h.1 ▸ h.2)

theorem countP_of_allFailed {tried : Tries} (hfailed : AllFailed tried)
    (hmeets : ∀ a ∈ tried, fails a.2 = failing a.1) {place : Nat} (hplace : failing place = false) :
    (tried.countP fun a => a.1 == place) = 0 := by
  refine List.countP_eq_zero.mpr fun a ha h => ?_
  have hfails := failing_of_allFailed hfailed hmeets _ (List.mem_map_of_mem ha)
  rw [eq_of_beq h, hplace] at hfails
  cases hfails

/-- Its attempt on a place that does not fail returns a connection. -/
theorem returned_eq (hfair : Fair as x) (hended : x.progress.hasEnded = true)
    (hmeets : x.Meets failing) (place : Nat) :
    (x.progress.returned place).toNat = if failing place then 0 else x.attempts place := by
  cases hfair with
  | dialing => cases hended
  | abandoned => cases hended
  | @failed tried _ _ _ e _ hfailed =>
    split
    · rfl
    · next hplace =>
      have hhealthy := Bool.eq_false_of_not_eq_true hplace
      exact (countP_of_allFailed (hfailed.concat _ e) hmeets hhealthy).symm
  | @connected tried q _ _ _ progress _ hfailed _ hprogress =>
    have hq : failing q = false := (hmeets _ (List.mem_append_right _ List.mem_cons_self)).symm
    have hreturned : progress.returned place = (q == place) := by
      rcases hprogress with rfl | rfl <;> rfl
    rw [hreturned]
    split
    · next hplace =>
      have hne : (q == place) = false := beq_false_of_ne fun heq => by
        rw [← heq, hq] at hplace
        cases hplace
      rw [hne]
      rfl
    · next hplace =>
      have hnone := countP_of_allFailed hfailed (fun a ha => hmeets a (List.mem_append_left _ ha))
        (Bool.eq_false_of_not_eq_true hplace)
      rw [attempts, List.countP_append, hnone, List.countP_singleton, Nat.zero_add]
      cases q == place <;> rfl

end Course

/-! ## All dials -/

/-- The number of connections returned to a place. -/
def returnedAt (xs : List Course) (place : Nat) : Nat :=
  xs.countP fun x => x.progress.returned place

/-- The number of attempts on a place. -/
def attemptsAt (xs : List Course) (place : Nat) : Nat :=
  (xs.flatMap fun x => x.tried).countP fun a => a.1 == place

theorem attemptsAt_cons (x : Course) (xs : List Course) (place : Nat) :
    attemptsAt (x :: xs) place = x.attempts place + attemptsAt xs place := by
  rw [attemptsAt, List.flatMap_cons, List.countP_append, attemptsAt, Course.attempts]

section All

variable {as : List String} {failing : Nat → Bool} {xs : List Course} {place : Nat}

theorem failuresAt_eq (hmeets : ∀ x ∈ xs, x.Meets failing) :
    failuresAt xs place = if failing place then attemptsAt xs place else 0 := by
  induction xs with
  | nil => exact (ite_self 0).symm
  | cons x xs ih =>
    obtain ⟨hx, hxs⟩ := List.forall_mem_cons.mp hmeets
    rw [failuresAt_cons, attemptsAt_cons, ih hxs, x.failures_eq hx]
    split <;> rfl

theorem returnedAt_eq (hfair : ∀ x ∈ xs, Fair as x) (hended : ∀ x ∈ xs, x.progress.hasEnded = true)
    (hmeets : ∀ x ∈ xs, x.Meets failing) :
    returnedAt xs place = if failing place then 0 else attemptsAt xs place := by
  induction xs with
  | nil => exact (ite_self 0).symm
  | cons x xs ih =>
    obtain ⟨hfair, hfairs⟩ := List.forall_mem_cons.mp hfair
    obtain ⟨hend, hends⟩ := List.forall_mem_cons.mp hended
    obtain ⟨hmeet, hmeets⟩ := List.forall_mem_cons.mp hmeets
    have hx := x.returned_eq hfair hend hmeet place
    have hcons : returnedAt (x :: xs) place =
        returnedAt xs place + (x.progress.returned place).toNat := by
      rw [returnedAt, List.countP_cons, returnedAt]
      cases x.progress.returned place <;> rfl
    rw [hcons, attemptsAt_cons, ih hfairs hends hmeets, hx]
    split
    · rfl
    · exact Nat.add_comm _ _

/-- Dials that begin one after the other come to a place as often as their beginnings do. -/
theorem attemptsAt_eq_count {P : Nat → Prop} [DecidablePred P]
    (h : ∀ k x, xs[k]? = some x → x.attempts place = if P k then 1 else 0) :
    attemptsAt xs place = Nat.count P xs.length := by
  induction xs generalizing P with
  | nil => rfl
  | cons x xs ih =>
    rw [attemptsAt_cons, List.length_cons, Nat.count_succ', h 0 x rfl,
      ih (P := fun k => P (k + 1)) fun k y hy => h (k + 1) y hy, Nat.add_comm]

end All

/-! ## What dials side by side keep -/

theorem Turn.from {r s : Rotation} {x y : Course} (h : r.Turn x s y) {n start : Nat}
    (hx : x.From n start) : y.From n start := by
  cases h with
  | abandon tried d => exact ⟨_, hx⟩
  | release tried c => exact hx
  | attempt tried place rest lastError outcome =>
    have hplaces : placesOf (tried ++ [(place, outcome)]) ++ rest = placesFrom n start := by
      have hbefore : placesOf tried ++ place :: rest = placesFrom n start := hx
      rw [placesOf, List.map_append, List.append_assoc, ← hbefore]
      rfl
    cases outcome with
    | ok u => exact ⟨rest, hplaces⟩
    | error e =>
      rw [(r.attempt_error place rest lastError e).2, afterError]
      split
      · exact ⟨rest, hplaces⟩
      · exact hplaces

/-- The turns move on when a dial begins, and then only. -/
theorem Turn.dials_eq {r s : Rotation} {x y : Course} (h : r.Turn x s y) : s.dials = r.dials := by
  cases h with
  | abandon => rfl
  | release => rfl
  | attempt tried place rest lastError outcome =>
    cases outcome with
    | ok u => rfl
    | error e =>
      rw [(r.attempt_error place rest lastError e).1]
      rfl

theorem beginDial_from (r : Rotation) :
    Course.From r.size r.dials.toNat ⟨[], .dialing r.beginDial.2⟩ :=
  placesFrom_mod r.size r.dials.toNat

theorem getElem?_exchange {α : Type} (before after : List α) (x y : α) (k : Nat) :
    (before ++ y :: after)[k]? =
      if k = before.length then some y else (before ++ x :: after)[k]? := by
  have hset : before ++ y :: after = (before ++ x :: after).set before.length y := by
    rw [List.set_append_right _ _ (Nat.le_refl _), Nat.sub_self, List.set_cons_zero]
  have hlt : before.length < (before ++ x :: after).length := by simp
  rw [hset, List.getElem?_set]
  by_cases hk : k = before.length
  · rw [if_pos hk.symm, if_pos hlt, if_pos hk]
  · rw [if_neg (Ne.symm hk), if_neg hk]

/-- **The dials that have begun on a rotation**: each begins one place further than the one before,
and the errors of the endpoints have grown by the attempts that have failed. -/
structure Since (r : Rotation) (t : Traffic) : Prop where
  fair : AllFair r.addresses t
  dials : t.rotation.dials = r.dials + UInt64.ofNat t.courses.length
  starts : ∀ (k : Nat) (x : Course), t.courses[k]? = some x →
    x.From r.size (r.dials + UInt64.ofNat k).toNat
  errors : ∀ (p : Nat) (e e' : Endpoint), r.endpoints[p]? = some e →
    t.rotation.endpoints[p]? = some e' →
    e'.errors = e.errors + UInt64.ofNat (failuresAt t.courses p)

theorem addresses_ne_nil {r : Rotation} (h : 0 < r.size) : r.addresses ≠ [] := by
  rwa [← List.length_pos_iff, length_addresses]

namespace Since

variable {r : Rotation} {t u : Traffic}

theorem start (r : Rotation) : Since r ⟨r, []⟩ where
  fair := ⟨rfl, nofun⟩
  dials := (UInt64.add_zero _).symm
  starts k x hx := by cases hx
  errors p e e' he he' := by
    cases he.symm.trans he'
    exact (UInt64.add_zero _).symm

theorem size_eq (h : Since r t) : t.rotation.size = r.size := by
  rw [← length_addresses, h.fair.1, length_addresses]

/-- **A step keeps what is said of the dials.** -/
theorem step (hne : r.addresses ≠ []) (h : Since r t) (hstep : Step t u) : Since r u := by
  have hfair := h.fair.step hne hstep
  have hsize := h.size_eq
  obtain ⟨-, hdials, hstarts, herrors⟩ := h
  cases hstep with
  | begin s xs =>
    refine ⟨hfair, ?_, fun k x hx => ?_, fun p e e' he he' => ?_⟩
    · have hone : s.beginDial.1.dials = s.dials + 1 := rfl
      rw [hone, hdials, List.length_append, UInt64.ofNat_add, UInt64.add_assoc]
      rfl
    · by_cases hk : k < xs.length
      · rw [List.getElem?_append_left hk] at hx
        exact hstarts k x hx
      · rw [List.getElem?_append_right (Nat.le_of_not_lt hk), List.getElem?_singleton] at hx
        split at hx
        · next hlast =>
          cases hx
          have hnumber : k = xs.length := by omega
          rw [hnumber, ← hdials, ← hsize]
          exact beginDial_from s
        · cases hx
    · rw [failuresAt_append]
      exact herrors p e e' he he'
  | @turn q s x y before after hturn =>
    refine ⟨hfair, ?_, fun k z hz => ?_, fun p e e' he he' => ?_⟩
    · rw [hturn.dials_eq, hdials, List.length_append, List.length_append]
      rfl
    · rw [getElem?_exchange before after x] at hz
      split at hz
      · next hk =>
        cases hz
        refine hturn.from (hstarts k x ?_)
        rw [hk, List.getElem?_append_right (Nat.le_refl _), Nat.sub_self]
        rfl
      · exact hstarts k z hz
    · obtain ⟨e'', k, he'', -, hfailures, hcounted⟩ := hturn.counts he'
      have hold := herrors p e e'' he he''
      rw [failuresAt_append, failuresAt_cons] at hold ⊢
      rw [hcounted, hold, hfailures, UInt64.add_assoc, ← UInt64.ofNat_add]
      congr 2
      omega

theorem of_run (hne : r.addresses ≠ []) (h : Relation.ReflTransGen Step ⟨r, []⟩ t) :
    Since r t := by
  induction h with
  | refl => exact start r
  | tail _ hstep ih => exact ih.step hne hstep

/-- The endpoint at a place is still there. -/
theorem endpoint (h : Since r t) {p : Nat} {e : Endpoint} (he : r.endpoints[p]? = some e) :
    ∃ e', t.rotation.endpoints[p]? = some e' ∧ e'.address = e.address ∧
      e'.errors = e.errors + UInt64.ofNat (failuresAt t.courses p) := by
  have haddress : t.rotation.addresses[p]? = some e.address := by
    rw [h.fair.1, addresses, List.getElem?_map, he]
    rfl
  rw [addresses, List.getElem?_map, Option.map_eq_some_iff] at haddress
  obtain ⟨e', he', haddress⟩ := haddress
  exact ⟨e', he', haddress, h.errors p e e' he he'⟩

/-- A dial fails only if all places fail. -/
theorem failing_of_failed (h : Since r t) {x : Course} (hx : x ∈ t.courses)
    {failing : Nat → Bool} (hmeets : x.Meets failing) {failure : Failure}
    (hfailed : x.progress = .failed failure) {p : Nat} (hp : p < r.size) : failing p = true := by
  rw [← length_addresses] at hp
  exact x.failing_of_failed (h.fair.2 x hx) hmeets hfailed p hp

theorem toNat_add_ofNat {a : UInt64} {k : Nat} (h : a.toNat + k < 2 ^ 64) :
    (a + UInt64.ofNat k).toNat = a.toNat + k := by
  rw [UInt64.toNat_add, UInt64.toNat_ofNat_of_lt' (by simp only [UInt64.size]; omega)]
  exact Nat.mod_eq_of_lt h

/-- **The attempts on a place** by `m` rounds of dials. -/
theorem attemptsAt_rounds (h : Since r t) {failing : Nat → Bool} {m : Nat}
    (hwrap : r.dials.toNat + m * r.size ≤ 2 ^ 64) (hlength : t.courses.length = m * r.size)
    (hended : ∀ x ∈ t.courses, x.progress.hasEnded = true)
    (hmeets : ∀ x ∈ t.courses, x.Meets failing)
    {p : Nat} (hp : p < r.size) :
    attemptsAt t.courses p = m * (1 + failingBefore failing r.size p) := by
  rw [← count_reaches hp r.dials.toNat m, ← hlength]
  refine attemptsAt_eq_count fun k x hx => ?_
  obtain ⟨hk, -⟩ := List.getElem?_eq_some_iff.mp hx
  have hmem := List.mem_of_getElem? hx
  have hfrom := h.starts k x hx
  rw [toNat_add_ofNat (by omega), ← length_addresses] at hfrom
  rw [x.attempts_eq (h.fair.2 x hmem) (hended x hmem) (hmeets x hmem) hfrom, length_addresses]

end Since

/-! ## Shares -/

/-- **What `m` rounds of dials come to**: a place that does not fail has been returned, and one that
fails has failed, once in a round for itself and once for each place that fails just before it. -/
structure Shares (failing : Nat → Bool) (m : Nat) (r s : Rotation) (returned : Nat → Nat) :
    Prop where
  healthy : ∀ (p : Nat) (e : Endpoint), r.endpoints[p]? = some e → failing p = false →
    returned p = m * (1 + failingBefore failing r.size p) ∧
    ∃ e', s.endpoints[p]? = some e' ∧ e'.address = e.address ∧ e'.errors = e.errors
  failed : ∀ (p : Nat) (e : Endpoint), r.endpoints[p]? = some e → failing p = true →
    returned p = 0 ∧
    ∃ e', s.endpoints[p]? = some e' ∧ e'.address = e.address ∧
      e'.errors = e.errors + UInt64.ofNat (m * (1 + failingBefore failing r.size p)) ∧
      (e.errors.toNat + m * (1 + failingBefore failing r.size p) < 2 ^ 64 →
        e'.errors.toNat = e.errors.toNat + m * (1 + failingBefore failing r.size p))

/-- **Dials side by side have their shares** when all have ended. -/
theorem Since.shares {r : Rotation} {t : Traffic} (h : Since r t) {failing : Nat → Bool} {m : Nat}
    (hwrap : r.dials.toNat + m * r.size ≤ 2 ^ 64) (hlength : t.courses.length = m * r.size)
    (hended : ∀ x ∈ t.courses, x.progress.hasEnded = true)
    (hmeets : ∀ x ∈ t.courses, x.Meets failing) :
    Shares failing m r t.rotation (returnedAt t.courses) := by
  have hreturned (p : Nat) : returnedAt t.courses p =
      if failing p then 0 else attemptsAt t.courses p := returnedAt_eq h.fair.2 hended hmeets
  have hfailures (p : Nat) : failuresAt t.courses p =
      if failing p then attemptsAt t.courses p else 0 := failuresAt_eq hmeets
  have hplace {p : Nat} {e : Endpoint} (he : r.endpoints[p]? = some e) : p < r.size :=
    (List.getElem?_eq_some_iff.mp he).1
  constructor
  · intro p e he hp
    obtain ⟨e', he', haddress, herrors⟩ := h.endpoint he
    rw [hreturned, hp, h.attemptsAt_rounds hwrap hlength hended hmeets (hplace he)]
    rw [hfailures, hp] at herrors
    exact ⟨rfl, e', he', haddress, herrors.trans (UInt64.add_zero _)⟩
  · intro p e he hp
    obtain ⟨e', he', haddress, herrors⟩ := h.endpoint he
    rw [hfailures, hp, if_pos rfl,
      h.attemptsAt_rounds hwrap hlength hended hmeets (hplace he)] at herrors
    refine ⟨?_, e', he', haddress, herrors, fun hlt => ?_⟩
    · rw [hreturned, hp, if_pos rfl]
    · rw [herrors, toNat_add_ofNat hlt]

/-! ## Dials one after the other -/

/-- **Dials one after the other**, each with what becomes of its attempts. -/
def dialAll (r : Rotation) :
    List (String → Except String Unit) → Rotation × List (Except Failure Connection)
  | [] => (r, [])
  | reach :: rest =>
    let first := r.dial reach
    let others := first.1.dialAll rest
    (others.1, first.2 :: others.2)

/-- Whether what a dial returns is a connection to a place. -/
def returnedTo (place : Nat) : Except Failure Connection → Bool
  | .ok c => c.place == place
  | .error _ => false

/-- What happens may happen behind other dials. -/
theorem Step.behind {r s : Rotation} {ys zs : List Course} (h : Step ⟨r, ys⟩ ⟨s, zs⟩)
    (xs : List Course) : Step ⟨r, xs ++ ys⟩ ⟨s, xs ++ zs⟩ := by
  cases h with
  | begin =>
    rw [← List.append_assoc]
    exact .begin r _
  | turn before after h =>
    rw [← List.append_assoc, ← List.append_assoc]
    exact .turn _ after h

theorem behind {t u : Traffic} (h : Relation.ReflTransGen Step t u) (xs : List Course) :
    Relation.ReflTransGen Step ⟨t.rotation, xs ++ t.courses⟩ ⟨u.rotation, xs ++ u.courses⟩ := by
  induction h with
  | refl => exact .refl
  | tail _ hstep ih => exact ih.tail (hstep.behind xs)

/-- **Dials one after the other are a run**, in which each has ended with what it has returned. -/
theorem dialAll_runs {failing : Nat → Bool} {r : Rotation} (hsize : 0 < r.size)
    {reaches : List (String → Except String Unit)}
    (hreach : ∀ reach ∈ reaches, ∀ p < r.size, fails (reach (r.addressAt p)) = failing p) :
    ∃ xs, Relation.ReflTransGen Step ⟨r, []⟩ ⟨(r.dialAll reaches).1, xs⟩ ∧
      xs.map (·.progress) = (r.dialAll reaches).2.map (fun result => .of (.inr result)) ∧
      ∀ x ∈ xs, x.Meets failing := by
  induction reaches generalizing r with
  | nil => exact ⟨[], .refl, rfl, nofun⟩
  | cons reach rest ih =>
    obtain ⟨tries, hrun, houtcomes⟩ := dial_runs hsize reach []
    have hsince := Since.of_run (addresses_ne_nil hsize) hrun
    have hlater : (r.dial reach).1.size = r.size := hsince.size_eq
    have haddress (p : Nat) : (r.dial reach).1.addressAt p = r.addressAt p := by
      rw [addressAt_eq_getD, addressAt_eq_getD, ← hsince.fair.1]
    obtain ⟨hfirst, hrest⟩ := List.forall_mem_cons.mp hreach
    have hstill : ∀ reach' ∈ rest, ∀ p < (r.dial reach).1.size,
        fails (reach' ((r.dial reach).1.addressAt p)) = failing p := fun reach' h p hp => by
      rw [haddress]
      exact hrest reach' h p (hlater ▸ hp)
    obtain ⟨xs, hruns, hresults, hmeets⟩ := ih (hlater ▸ hsize) hstill
    let first : Course := ⟨tries, .of (.inr (r.dial reach).2)⟩
    refine ⟨first :: xs, hrun.trans (behind hruns [first]), congrArg (List.cons _) hresults,
      List.forall_mem_cons.mpr ⟨fun a ha => ?_, hmeets⟩⟩
    -- the places of the first dial are places of the rotation
    obtain ⟨_, hplaces⟩ := (hsince.starts 0 first rfl).places
    have hmem : a.1 ∈ placesFrom r.size (r.dials + UInt64.ofNat 0).toNat := by
      rw [← hplaces]
      exact List.mem_append_left _ (List.mem_map_of_mem ha)
    rw [houtcomes a ha]
    exact hfirst a.1 (mem_placesFrom.mp hmem)

theorem length_dialAll (r : Rotation) (reaches : List (String → Except String Unit)) :
    (r.dialAll reaches).2.length = reaches.length := by
  induction reaches generalizing r with
  | nil => rfl
  | cons reach rest ih => exact congrArg (· + 1) (ih _)

section Results

variable {results : List (Except Failure Connection)} {xs : List Course}

theorem hasEnded_of_results (h : xs.map (·.progress) = results.map fun a => .of (.inr a)) :
    ∀ x ∈ xs, x.progress.hasEnded = true := by
  intro x hx
  have hmem : x.progress ∈ results.map fun a => Progress.of (.inr a) := by
    rw [← h]
    exact List.mem_map_of_mem hx
  obtain ⟨result, -, hresult⟩ := List.mem_map.mp hmem
  rw [← hresult]
  cases result <;> rfl

theorem countP_returnedTo (h : xs.map (·.progress) = results.map fun a => .of (.inr a))
    (p : Nat) : results.countP (returnedTo p) = returnedAt xs p := by
  have hsame : returnedTo p = Progress.returned p ∘ fun a => .of (.inr a) := funext fun a => by
    cases a <;> rfl
  rw [hsame, ← List.countP_map, ← h, List.countP_map]
  rfl

end Results

theorem Shares.of_pos {failing : Nat → Bool} {m : Nat} {r s : Rotation} {returned : Nat → Nat}
    (h : 0 < r.size → Shares failing m r s returned) : Shares failing m r s returned where
  healthy p e he := (h (Nat.zero_lt_of_lt (List.getElem?_eq_some_iff.mp he).1)).healthy p e he
  failed p e he := (h (Nat.zero_lt_of_lt (List.getElem?_eq_some_iff.mp he).1)).failed p e he

/-- **Every place has its exact share** of `m` rounds of dials on places that fail or do not fail
for good, wherever the turns stand before the number of dials runs over, and whether the dials go on
side by side or are made one after the other. No dial fails unless all places do. -/
theorem shares_exact {r : Rotation} (failing : Nat → Bool) {m : Nat}
    (hwrap : r.dials.toNat + m * r.size ≤ 2 ^ 64) :
    (∀ t, Relation.ReflTransGen Step ⟨r, []⟩ t → t.courses.length = m * r.size →
      (∀ x ∈ t.courses, x.progress.hasEnded = true ∧ x.Meets failing) →
      Shares failing m r t.rotation (returnedAt t.courses) ∧
      ∀ x ∈ t.courses, ∀ failure, x.progress = .failed failure →
        ∀ p < r.size, failing p = true) ∧
    (∀ reaches, reaches.length = m * r.size →
      (∀ reach ∈ reaches, ∀ p < r.size, fails (reach (r.addressAt p)) = failing p) →
      Shares failing m r (r.dialAll reaches).1
        (fun p => (r.dialAll reaches).2.countP (returnedTo p)) ∧
      ∀ failure, .error failure ∈ (r.dialAll reaches).2 → ∀ p < r.size, failing p = true) ∧
    (∀ p < r.size, (∀ q < r.size, failing q = true) →
      m * (1 + failingBefore failing r.size p) = m * r.size) ∧
    ∀ p < r.size, (∀ q < r.size, failing q = false) →
      m * (1 + failingBefore failing r.size p) = m := by
  refine ⟨fun t hrun hlength hcourses => ?_, fun reaches hlength hreach => ?_, fun p hp hall => ?_,
    fun p _ hnone => ?_⟩
  · refine ⟨.of_pos fun hsize => ?_, fun x hx failure hfailed p hp => ?_⟩
    · exact (Since.of_run (addresses_ne_nil hsize) hrun).shares hwrap hlength
        (fun x hx => (hcourses x hx).1) fun x hx => (hcourses x hx).2
    · have hsince := Since.of_run (addresses_ne_nil (Nat.zero_lt_of_lt hp)) hrun
      exact hsince.failing_of_failed hx (hcourses x hx).2 hfailed hp
  · refine ⟨.of_pos fun hsize => ?_, fun failure hfailure p hp => ?_⟩
    · obtain ⟨xs, hrun, hresults, hmeets⟩ := dialAll_runs hsize hreach
      have hlengths := congrArg List.length hresults
      rw [List.length_map, List.length_map, length_dialAll, hlength] at hlengths
      have hshares := (Since.of_run (addresses_ne_nil hsize) hrun).shares hwrap hlengths
        (hasEnded_of_results hresults) hmeets
      rwa [← funext (countP_returnedTo hresults)] at hshares
    · obtain ⟨xs, hrun, hresults, hmeets⟩ := dialAll_runs (Nat.zero_lt_of_lt hp) hreach
      have hsince := Since.of_run (addresses_ne_nil (Nat.zero_lt_of_lt hp)) hrun
      have hmem : Progress.failed failure ∈ xs.map (·.progress) := by
        rw [hresults]
        exact List.mem_map_of_mem (f := fun a => Progress.of (.inr a)) hfailure
      obtain ⟨x, hx, hprogress⟩ := List.mem_map.mp hmem
      exact hsince.failing_of_failed hx (hmeets x hx) hprogress hp
  · rw [failingBefore_of_all hall]
    congr 1
    omega
  · rw [failingBefore_of_none hnone, Nat.mul_one]

/-- Four endpoints, with the turn at the third. -/
def fourPlaces : Rotation := ⟨[⟨"a", 0, 0⟩, ⟨"b", 0, 0⟩, ⟨"c", 0, 7⟩, ⟨"d", 0, 0⟩], 6⟩

/-- The second and the third do not answer. -/
def answeringEnds (address : String) : Except String Unit :=
  if address = "b" ∨ address = "c" then .error "refused" else .ok ()

/-- Two dials that have overlapped, while the first endpoint did not answer. -/
def overlapped : Traffic :=
  ⟨⟨[⟨"a", 0, 1⟩, ⟨"a", 2, 0⟩], 2⟩,
    [⟨[(0, .error "refused"), (1, .ok ())], .opened ⟨1, "a"⟩⟩, ⟨[(1, .ok ())], .opened ⟨1, "a"⟩⟩]⟩

theorem overlapped_run : Relation.ReflTransGen Step ⟨twins, []⟩ overlapped := by
  refine .head (.begin _ _) (.head (.begin _ _) ?_)
  refine .head (.turn [_] [] (.attempt _ _ _ _ (.ok ()))) ?_
  refine .head (.turn [] [_] (.attempt _ _ _ _ (.error "refused"))) ?_
  exact .single (.turn [] [_] (.attempt _ _ _ _ (.ok ())))

theorem shares_exact_adjacent :
    fourPlaces.dials.toNat + 2 * fourPlaces.size ≤ 2 ^ 64 ∧
      (fourPlaces.dialAll (List.replicate 8 answeringEnds)).2.countP (returnedTo 3) = 6 ∧
      (∃ e, (fourPlaces.dialAll (List.replicate 8 answeringEnds)).1.endpoints[2]? = some e ∧
        e.errors.toNat = 7 + 4) ∧
      returnedAt overlapped.courses 1 = 2 := by
  have hwrap : fourPlaces.dials.toNat + 2 * fourPlaces.size ≤ 2 ^ 64 := by decide
  have hends := (shares_exact (fun p => p == 1 || p == 2) hwrap).2.1
    (List.replicate 8 answeringEnds) (by decide) (by
      intro reach h
      rw [List.eq_of_mem_replicate h]
      decide)
  obtain ⟨-, e, he, -, -, herrors⟩ := hends.1.failed 2 ⟨"c", 0, 7⟩ rfl rfl
  have hmeets : ∀ x ∈ overlapped.courses,
      x.progress.hasEnded = true ∧ x.Meets fun p => p == 0 :=
    List.forall_mem_cons.mpr
      ⟨⟨rfl, List.forall_mem_cons.mpr ⟨rfl, List.forall_mem_singleton.mpr rfl⟩⟩,
        List.forall_mem_singleton.mpr ⟨rfl, List.forall_mem_singleton.mpr rfl⟩⟩
  have htwins := (shares_exact (r := twins) (m := 1) (fun p => p == 0) (by decide)).1 overlapped
    overlapped_run rfl hmeets
  exact ⟨hwrap, (hends.1.healthy 3 ⟨"d", 0, 0⟩ rfl rfl).1, ⟨e, he, herrors (by decide)⟩,
    (htwins.1.healthy 1 ⟨"a", 0, 0⟩ rfl rfl).1⟩

end FederatedStorage.Rotation
