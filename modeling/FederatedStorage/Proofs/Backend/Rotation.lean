import FederatedStorage.Backend.Rotation
import Mathlib.Data.Nat.ModEq
import Mathlib.Logic.Relation

/-!
# Dials side by side

Any number of dials over one rotation, each at its own pace: one attempt of one dial at a time, or a
dial is given up, or a connection that a dial has returned is closed or dropped. Every dial keeps the
list of its attempts, so the counts of the endpoints can be held against what has happened.

## Main statements

* `Rotation.Turn.counts`: what one step of one dial adds to the counts of an endpoint.
* `Rotation.Fair.turn`: a dial goes through the places in their order and ends as it should.
* `Rotation.counts_exact`: in every state that dials can reach, the counts are exact.
* `Rotation.dial_runs`: a whole dial is such a run.
-/

namespace FederatedStorage.Rotation

/-! ## Courses -/

/-- How far a dial has come. A connection that was returned is open until it is released. -/
inductive Progress
  | dialing (d : Dial)
  | failed (failure : Failure)
  | opened (c : Connection)
  | released (c : Connection)
  | abandoned

/-- Where a recorded attempt leaves the dial. -/
def Progress.of : Dial ⊕ Except Failure Connection → Progress
  | .inl d => .dialing d
  | .inr (.error failure) => .failed failure
  | .inr (.ok c) => .opened c

/-- The attempts of a dial: which place each was on, and what came of it. -/
abbrev Tries := List (Nat × Except String Unit)

/-- The places that were tried. -/
def placesOf (tried : Tries) : List Nat := tried.map (·.1)

/-- Whether an attempt has failed on a place. -/
def failedOn (place : Nat) : Nat × Except String Unit → Bool
  | (p, .error _) => p == place
  | (_, .ok _) => false

/-- **The course of a dial**: its attempts, and how far it is. -/
structure Course where
  tried : Tries
  progress : Progress

namespace Course

/-- Whether the dial has returned a connection to a place and it is open. -/
def holds (x : Course) (place : Nat) : Bool :=
  match x.progress with
  | .opened c => c.place == place
  | _ => false

/-- The number of failed attempts on a place. -/
def failures (x : Course) (place : Nat) : Nat := x.tried.countP (failedOn place)

end Course

/-- **One step of one dial** on a rotation. -/
inductive Turn (r : Rotation) : Course → Rotation → Course → Prop
  | attempt (tried : Tries) (place : Nat) (rest : List Nat)
      (lastError : String) (outcome : Except String Unit) :
      Turn r ⟨tried, .dialing ⟨place :: rest, lastError⟩⟩
        (r.attempt ⟨place :: rest, lastError⟩ outcome).1
        ⟨tried ++ [(place, outcome)], .of (r.attempt ⟨place :: rest, lastError⟩ outcome).2⟩
  | abandon (tried : Tries) (d : Dial) :
      Turn r ⟨tried, .dialing d⟩ r ⟨tried, .abandoned⟩
  | release (tried : Tries) (c : Connection) :
      Turn r ⟨tried, .opened c⟩ (r.release c) ⟨tried, .released c⟩

/-- A rotation and all dials that have begun on it. -/
structure Traffic where
  rotation : Rotation
  courses : List Course

/-- **What happens next**: a dial begins, or one of the dials takes a step. -/
inductive Step : Traffic → Traffic → Prop
  | begin (r : Rotation) (xs : List Course) :
      Step ⟨r, xs⟩ ⟨r.beginDial.1, xs ++ [⟨[], .dialing r.beginDial.2⟩]⟩
  | turn {r s : Rotation} {x y : Course} (before after : List Course) (h : r.Turn x s y) :
      Step ⟨r, before ++ x :: after⟩ ⟨s, before ++ y :: after⟩

/-! ## Places -/

/-- The addresses at the places. -/
def addresses (r : Rotation) : List String := r.endpoints.map (·.address)

theorem length_addresses (r : Rotation) : r.addresses.length = r.size := List.length_map ..

theorem getElem?_modify (r : Rotation) (place : Nat) (f : Endpoint → Endpoint) (p : Nat) :
    (r.modify place f).endpoints[p]? =
      (r.endpoints[p]?).map fun e => if place = p then f e else e :=
  List.getElem?_modify ..

theorem addresses_modify (r : Rotation) (place : Nat) {f : Endpoint → Endpoint}
    (hf : ∀ e, (f e).address = e.address) : (r.modify place f).addresses = r.addresses := by
  refine List.ext_getElem? fun p => ?_
  rw [addresses, addresses, List.getElem?_map, List.getElem?_map, getElem?_modify, Option.map_map]
  refine congrArg (fun g => (r.endpoints[p]?).map g) (funext fun e => ?_)
  rw [Function.comp]
  split
  · exact hf e
  · rfl

@[simp] theorem addresses_countError (r : Rotation) (place : Nat) :
    (r.countError place).addresses = r.addresses := r.addresses_modify place fun _ => rfl

@[simp] theorem addresses_countOpened (r : Rotation) (place : Nat) :
    (r.countOpened place).addresses = r.addresses := r.addresses_modify place fun _ => rfl

@[simp] theorem addresses_release (r : Rotation) (c : Connection) :
    (r.release c).addresses = r.addresses := r.addresses_modify c.place fun _ => rfl

theorem addressAt_eq_getD (r : Rotation) (place : Nat) :
    r.addressAt place = (r.addresses[place]?).getD "" := by
  rw [addresses, List.getElem?_map]
  rfl

/-- The places from any one around are all places. -/
theorem mem_placesFrom {n start p : Nat} : p ∈ placesFrom n start ↔ p < n := by
  rw [placesFrom, List.mem_map]
  constructor
  · rintro ⟨offset, hoffset, rfl⟩
    have hn : 0 < n := Nat.zero_lt_of_lt (List.mem_range.mp hoffset)
    exact Nat.mod_lt _ hn
  · intro hp
    -- from the start to the end, and on to the place
    have hn : 0 < n := Nat.zero_lt_of_lt hp
    refine ⟨(p + (n - start % n)) % n, List.mem_range.mpr (Nat.mod_lt _ hn), ?_⟩
    have hlt := Nat.mod_lt start hn
    have hdiv := Nat.div_add_mod start n
    have hsum : start + (p + (n - start % n)) = p + n * (start / n + 1) := by
      rw [Nat.mul_add, Nat.mul_one]
      omega
    rw [Nat.add_mod_mod, hsum, Nat.add_mul_mod_self_left, Nat.mod_eq_of_lt hp]

/-- No place comes twice. -/
theorem nodup_placesFrom (n start : Nat) : (placesFrom n start).Nodup := by
  refine List.pairwise_map.mpr ?_
  refine List.Pairwise.imp_of_mem ?_ (List.nodup_range (n := n))
  intro i j hi hj hne heq
  rw [List.mem_range] at hi hj
  have hmod : i % n = j % n := Nat.ModEq.add_left_cancel' start heq
  rw [Nat.mod_eq_of_lt hi, Nat.mod_eq_of_lt hj] at hmod
  exact hne hmod

theorem placesFrom_perm (n start : Nat) : (placesFrom n start).Perm (List.range n) :=
  (List.perm_ext_iff_of_nodup (nodup_placesFrom n start) List.nodup_range).mpr fun p => by
    rw [mem_placesFrom, List.mem_range]

/-! ## What an attempt does -/

theorem attempt_ok (r : Rotation) (place : Nat) (rest : List Nat) (lastError : String) :
    r.attempt ⟨place :: rest, lastError⟩ (.ok ()) =
      (r.countOpened place, .inr (.ok ⟨place, r.addressAt place⟩)) := rfl

/-- What an attempt that fails makes of the dial: it goes on, or has failed. -/
def afterError (r : Rotation) (place : Nat) (rest : List Nat) (e : String) : Progress :=
  if rest = [] then .failed (.allEndpointsFailed r.size (r.addressAt place ++ ": " ++ e))
  else .dialing ⟨rest, r.addressAt place ++ ": " ++ e⟩

theorem addressAt_countError (r : Rotation) (place : Nat) :
    (r.countError place).addressAt place = r.addressAt place := by
  rw [addressAt_eq_getD, addresses_countError, ← addressAt_eq_getD]

theorem size_countError (r : Rotation) (place : Nat) : (r.countError place).size = r.size := by
  rw [← length_addresses, addresses_countError, length_addresses]

theorem attempt_error (r : Rotation) (place : Nat) (rest : List Nat) (lastError e : String) :
    (r.attempt ⟨place :: rest, lastError⟩ (.error e)).1 = r.countError place ∧
      Progress.of (r.attempt ⟨place :: rest, lastError⟩ (.error e)).2 =
        r.afterError place rest e := by
  cases rest with
  | nil =>
    refine ⟨rfl, ?_⟩
    show Progress.failed (.allEndpointsFailed (r.countError place).size
      ((r.countError place).addressAt place ++ ": " ++ e)) = _
    rw [size_countError, addressAt_countError, afterError, if_pos rfl]
  | cons p rest =>
    refine ⟨rfl, ?_⟩
    show Progress.dialing ⟨p :: rest, (r.countError place).addressAt place ++ ": " ++ e⟩ = _
    rw [addressAt_countError, afterError, if_neg (List.cons_ne_nil p rest)]

/-! ## Counts -/

/-- The number of open connections to a place. -/
def openAt (xs : List Course) (place : Nat) : Nat := xs.countP fun x => x.holds place

/-- The number of failed attempts on a place. -/
def failuresAt (xs : List Course) (place : Nat) : Nat :=
  (xs.flatMap fun x => x.tried).countP (failedOn place)

theorem openAt_append (xs ys : List Course) (p : Nat) :
    openAt (xs ++ ys) p = openAt xs p + openAt ys p := List.countP_append

theorem openAt_cons (x : Course) (xs : List Course) (p : Nat) :
    openAt (x :: xs) p = openAt xs p + (x.holds p).toNat := by
  rw [openAt, List.countP_cons, openAt]
  cases x.holds p <;> rfl

theorem failuresAt_append (xs ys : List Course) (p : Nat) :
    failuresAt (xs ++ ys) p = failuresAt xs p + failuresAt ys p := by
  rw [failuresAt, List.flatMap_append, List.countP_append, failuresAt, failuresAt]

theorem failuresAt_cons (x : Course) (xs : List Course) (p : Nat) :
    failuresAt (x :: xs) p = x.failures p + failuresAt xs p := by
  rw [failuresAt, List.flatMap_cons, List.countP_append, failuresAt, Course.failures]

theorem holds_afterError (r : Rotation) (place : Nat) (rest : List Nat) (e : String)
    (tried : Tries) (p : Nat) :
    Course.holds ⟨tried, r.afterError place rest e⟩ p = false := by
  unfold afterError
  split <;> rfl

/-- **What a step of one dial changes** of an endpoint: its connections by those that the dial has now
or no longer has, its errors by those that the dial has added. -/
theorem Turn.counts {r s : Rotation} {x y : Course} (h : r.Turn x s y) {p : Nat} {e' : Endpoint}
    (he' : s.endpoints[p]? = some e') :
    ∃ e k, r.endpoints[p]? = some e ∧
      e'.active + (x.holds p).toNat = e.active + (y.holds p).toNat ∧
      y.failures p = x.failures p + k ∧ e'.errors = e.errors + UInt64.ofNat k := by
  cases h with
  | attempt tried place rest lastError outcome =>
    cases outcome with
    | ok u =>
      rw [attempt_ok, countOpened, getElem?_modify, Option.map_eq_some_iff] at he'
      obtain ⟨e, he, rfl⟩ := he'
      refine ⟨e, 0, he, ?_, ?_, ?_⟩
      · rw [attempt_ok]
        by_cases hp : place = p <;> simp [Course.holds, Progress.of, hp]
      · simp [Course.failures, failedOn]
      · split <;> exact (UInt64.add_zero _).symm
    | error msg =>
      obtain ⟨hrotation, hprogress⟩ := r.attempt_error place rest lastError msg
      rw [hrotation, countError, getElem?_modify, Option.map_eq_some_iff] at he'
      obtain ⟨e, he, rfl⟩ := he'
      rw [hprogress, holds_afterError]
      by_cases hp : place = p
      · refine ⟨e, 1, he, ?_, ?_, ?_⟩
        · rw [if_pos hp]
          rfl
        · simp [Course.failures, failedOn, hp]
        · rw [if_pos hp]
          rfl
      · refine ⟨e, 0, he, ?_, ?_, ?_⟩
        · rw [if_neg hp]
          rfl
        · simp [Course.failures, failedOn, hp]
        · rw [if_neg hp]
          exact (UInt64.add_zero _).symm
  | abandon tried d => exact ⟨e', 0, he', rfl, rfl, (UInt64.add_zero _).symm⟩
  | release tried c =>
    rw [Rotation.release, getElem?_modify, Option.map_eq_some_iff] at he'
    obtain ⟨e, he, rfl⟩ := he'
    refine ⟨e, 0, he, ?_, rfl, ?_⟩
    · by_cases hp : c.place = p <;> simp [Course.holds, hp]
    · split <;> exact (UInt64.add_zero _).symm

/-- The counts of all endpoints are those of the dials. -/
def Exact (t : Traffic) : Prop :=
  ∀ (p : Nat) (e : Endpoint), t.rotation.endpoints[p]? = some e →
    e.active = openAt t.courses p ∧ e.errors = UInt64.ofNat (failuresAt t.courses p)

/-- **Exact counts stay exact.** -/
theorem Exact.step {t u : Traffic} (ht : Exact t) (h : Step t u) : Exact u := by
  intro p e' he'
  cases h with
  | begin r xs =>
    obtain ⟨hactive, herrors⟩ := ht p e' he'
    rw [openAt_append, failuresAt_append]
    exact ⟨hactive, herrors⟩
  | turn before after h =>
    obtain ⟨e, k, he, hactive, hfailures, herrors⟩ := h.counts he'
    obtain ⟨hopen, hfailed⟩ := ht p e he
    rw [openAt_append, openAt_cons] at hopen ⊢
    rw [failuresAt_append, failuresAt_cons] at hfailed ⊢
    refine ⟨by omega, ?_⟩
    rw [herrors, hfailed, hfailures, ← UInt64.ofNat_add]
    congr 1
    omega

/-! ## How dials go -/

/-- Attempts that have all failed. -/
def AllFailed (tried : Tries) : Prop :=
  ∀ a ∈ tried, ∃ e, a.2 = .error e

theorem AllFailed.concat {tried : Tries} (h : AllFailed tried)
    (place : Nat) (e : String) : AllFailed (tried ++ [(place, .error e)]) := by
  intro a ha
  rcases List.mem_append.mp ha with ha | ha
  · exact h a ha
  · rw [List.mem_singleton.mp ha]
    exact ⟨e, rfl⟩

/-- **A fair course** goes through all places from one of them around. It ends at the first success,
or when the last place has failed, with that place and its error named. -/
inductive Fair (as : List String) : Course → Prop
  | dialing {tried : Tries} {d : Dial} {start : Nat}
      (hplaces : placesOf tried ++ d.untried = placesFrom as.length start)
      (hmore : d.untried ≠ []) (hfailed : AllFailed tried) : Fair as ⟨tried, .dialing d⟩
  | failed {tried : Tries} {place start : Nat} {address e : String}
      (hplaces : placesOf (tried ++ [(place, .error e)]) = placesFrom as.length start)
      (hfailed : AllFailed tried) (haddress : as[place]? = some address) :
      Fair as ⟨tried ++ [(place, .error e)],
        .failed (.allEndpointsFailed as.length (address ++ ": " ++ e))⟩
  | connected {tried : Tries} {place start : Nat} {rest : List Nat}
      {address : String} {progress : Progress}
      (hplaces : placesOf (tried ++ [(place, .ok ())]) ++ rest = placesFrom as.length start)
      (hfailed : AllFailed tried) (haddress : as[place]? = some address)
      (hprogress : progress = .opened ⟨place, address⟩ ∨ progress = .released ⟨place, address⟩) :
      Fair as ⟨tried ++ [(place, .ok ())], progress⟩
  | abandoned {tried : Tries} {rest : List Nat} {start : Nat}
      (hplaces : placesOf tried ++ rest = placesFrom as.length start)
      (hfailed : AllFailed tried) : Fair as ⟨tried, .abandoned⟩

namespace Fair

variable {as : List String} {x y : Course}

/-- The next place of a dial has an address, and one more attempt takes it off. -/
theorem next {r : Rotation} {tried : Tries} {place start : Nat}
    {rest : List Nat} (hplaces : placesOf tried ++ place :: rest = placesFrom r.size start)
    (outcome : Except String Unit) :
    r.addresses[place]? = some (r.addressAt place) ∧
      placesOf (tried ++ [(place, outcome)]) ++ rest = placesFrom r.size start := by
  have hmem : place ∈ placesFrom r.size start := by
    rw [← hplaces]
    exact List.mem_append_right _ List.mem_cons_self
  have hlt : place < r.addresses.length := by
    rw [length_addresses]
    exact mem_placesFrom.mp hmem
  refine ⟨?_, ?_⟩
  · rw [addressAt_eq_getD, List.getElem?_eq_getElem hlt]
    rfl
  · rw [placesOf, List.map_append, List.append_assoc, ← hplaces]
    rfl

/-- **A step of a dial** leaves its course fair and the addresses as they are. -/
theorem turn {r s : Rotation} (hx : Fair r.addresses x) (h : r.Turn x s y) :
    Fair r.addresses y ∧ s.addresses = r.addresses := by
  cases h with
  | abandon tried d =>
    refine ⟨?_, rfl⟩
    cases hx with
    | dialing hplaces hmore hfailed => exact .abandoned hplaces hfailed
    | connected hplaces hfailed haddress hprogress => rcases hprogress with h | h <;> cases h
  | release tried c =>
    refine ⟨?_, addresses_release r c⟩
    cases hx with
    | connected hplaces hfailed haddress hprogress =>
      rcases hprogress with h | h <;> cases h
      exact .connected hplaces hfailed haddress (.inr rfl)
  | attempt tried place rest lastError outcome =>
    cases hx with
    | connected hplaces hfailed haddress hprogress => rcases hprogress with h | h <;> cases h
    | dialing hplaces hmore hfailed =>
      rw [length_addresses] at hplaces
      obtain ⟨haddress, hnext⟩ := next hplaces outcome
      rw [← length_addresses] at hnext
      cases outcome with
      | ok u =>
        rw [attempt_ok]
        exact ⟨.connected hnext hfailed haddress (.inl rfl), addresses_countOpened r place⟩
      | error e =>
        obtain ⟨hrotation, hprogress⟩ := r.attempt_error place rest lastError e
        rw [hrotation, hprogress, afterError]
        refine ⟨?_, addresses_countError r place⟩
        split
        · next hlast =>
          rw [hlast, List.append_nil] at hnext
          rw [← length_addresses]
          exact .failed hnext hfailed haddress
        · next hmore => exact .dialing hnext hmore (hfailed.concat place e)

/-- **No place is tried twice.** -/
theorem nodup (hx : Fair as x) : (placesOf x.tried).Nodup := by
  have hpart : ∃ rest start, placesOf x.tried ++ rest = placesFrom as.length start := by
    cases hx with
    | dialing hplaces => exact ⟨_, _, hplaces⟩
    | failed hplaces => exact ⟨[], _, (List.append_nil _).trans hplaces⟩
    | connected hplaces => exact ⟨_, _, hplaces⟩
    | abandoned hplaces => exact ⟨_, _, hplaces⟩
  obtain ⟨rest, start, hplaces⟩ := hpart
  have hnodup := nodup_placesFrom as.length start
  rw [← hplaces] at hnodup
  exact hnodup.sublist (List.sublist_append_left _ _)

/-- **A dial fails** after one failed attempt on every place, naming the last. -/
theorem of_failed (hx : Fair as x) {failure : Failure} (h : x.progress = .failed failure) :
    (placesOf x.tried).Perm (List.range as.length) ∧ AllFailed x.tried ∧
      ∃ tried place address e, x.tried = tried ++ [(place, .error e)] ∧
        as[place]? = some address ∧
        failure = .allEndpointsFailed as.length (address ++ ": " ++ e) := by
  cases hx with
  | dialing => cases h
  | abandoned => cases h
  | connected _ _ _ hprogress => rcases hprogress with rfl | rfl <;> cases h
  | @failed tried place start address e hplaces hfailed haddress =>
    cases h
    refine ⟨?_, hfailed.concat place e, tried, place, address, e, rfl, haddress, rfl⟩
    rw [hplaces]
    exact placesFrom_perm as.length start

/-- **A dial returns a connection** to the place that its last attempt reached, with its address. -/
theorem of_connected (hx : Fair as x) {c : Connection}
    (h : x.progress = .opened c ∨ x.progress = .released c) :
    as[c.place]? = some c.address ∧
      ∃ tried, x.tried = tried ++ [(c.place, .ok ())] ∧ AllFailed tried := by
  cases hx with
  | dialing => rcases h with h | h <;> cases h
  | abandoned => rcases h with h | h <;> cases h
  | failed => rcases h with h | h <;> cases h
  | connected hplaces hfailed haddress hprogress =>
    rcases hprogress with rfl | rfl <;> rcases h with h | h <;> cases h
    · exact ⟨haddress, _, rfl, hfailed⟩
    · exact ⟨haddress, _, rfl, hfailed⟩

end Fair

/-- All courses are fair. -/
def AllFair (as : List String) (t : Traffic) : Prop :=
  t.rotation.addresses = as ∧ ∀ x ∈ t.courses, Fair as x

theorem AllFair.step {as : List String} {t u : Traffic} (hne : as ≠ []) (ht : AllFair as t)
    (h : Step t u) : AllFair as u := by
  obtain ⟨haddresses, hfair⟩ := ht
  cases h with
  | begin r xs =>
    refine ⟨haddresses, fun x hx => ?_⟩
    rcases List.mem_append.mp hx with hx | hx
    · exact hfair x hx
    · rw [List.mem_singleton.mp hx]
      have hsize : r.size = as.length := by rw [← haddresses, length_addresses]
      have hplaces : placesOf [] ++ r.beginDial.2.untried = placesFrom as.length r.turn := by
        rw [← hsize]
        rfl
      have hmore : r.beginDial.2.untried ≠ [] := by
        intro hnil
        have hlength := congrArg List.length hplaces
        rw [hnil, placesFrom, List.length_map, List.length_range] at hlength
        exact hne (List.length_eq_zero_iff.mp hlength.symm)
      exact .dialing hplaces hmore fun a ha => by cases ha
  | @turn r s x y before after h =>
    rw [← haddresses] at hfair ⊢
    obtain ⟨hy, hsame⟩ := (hfair x (by simp)).turn h
    refine ⟨hsame, fun z hz => ?_⟩
    rcases List.mem_append.mp hz with hz | hz
    · exact hfair z (List.mem_append_left _ hz)
    · rcases List.mem_cons.mp hz with rfl | hz
      · exact hy
      · exact hfair z (List.mem_append_right _ (List.mem_cons_of_mem _ hz))

/-! ## Runs -/

/-- A rotation over some addresses, before any dial. -/
theorem new_eq_ok {as : List String} {r : Rotation} (h : Rotation.new as = .ok r) :
    as ≠ [] ∧ r = ⟨as.map fun a => ⟨a, 0, 0⟩, 0⟩ := by
  unfold Rotation.new at h
  split at h
  · cases h
  · next hne =>
    cases h
    exact ⟨by simpa using hne, rfl⟩

theorem exact_new {as : List String} {r : Rotation} (h : Rotation.new as = .ok r) :
    Exact ⟨r, []⟩ := by
  obtain ⟨-, rfl⟩ := new_eq_ok h
  intro p e he
  rw [List.getElem?_map, Option.map_eq_some_iff] at he
  obtain ⟨a, -, rfl⟩ := he
  exact ⟨rfl, rfl⟩

theorem allFair_new {as : List String} {r : Rotation} (h : Rotation.new as = .ok r) :
    AllFair as ⟨r, []⟩ := by
  obtain ⟨-, rfl⟩ := new_eq_ok h
  refine ⟨?_, fun x hx => by cases hx⟩
  rw [addresses, List.map_map]
  exact List.map_id as

theorem reached {as : List String} {r : Rotation} (hnew : Rotation.new as = .ok r) {t : Traffic}
    (h : Relation.ReflTransGen Step ⟨r, []⟩ t) : Exact t ∧ AllFair as t := by
  induction h with
  | refl => exact ⟨exact_new hnew, allFair_new hnew⟩
  | tail _ hstep ih => exact ⟨ih.1.step hstep, ih.2.step (new_eq_ok hnew).1 hstep⟩

/-- **The counts are exact** whatever dials do side by side: the connections of an endpoint are those
that are open, its errors the attempts that have failed. No dial tries a place twice, and one that
fails has failed on every place, the last of which it names. -/
theorem counts_exact {as : List String} {r : Rotation} (hnew : Rotation.new as = .ok r)
    {t : Traffic} (h : Relation.ReflTransGen Step ⟨r, []⟩ t) :
    t.rotation.addresses = as ∧
    (∀ (p : Nat) (e : Endpoint), t.rotation.endpoints[p]? = some e →
      e.active = openAt t.courses p ∧ 0 ≤ e.active ∧
      ((∀ x ∈ t.courses, x.holds p = false) → e.active = 0) ∧
      e.errors = UInt64.ofNat (failuresAt t.courses p) ∧
      (failuresAt t.courses p < 2 ^ 64 → e.errors.toNat = failuresAt t.courses p)) ∧
    (∀ x ∈ t.courses, (placesOf x.tried).Nodup ∧
      (∀ c, x.progress = .opened c ∨ x.progress = .released c →
        as[c.place]? = some c.address ∧
        ∃ tried, x.tried = tried ++ [(c.place, .ok ())] ∧ AllFailed tried) ∧
      ∀ failure, x.progress = .failed failure →
        (placesOf x.tried).Perm (List.range as.length) ∧ AllFailed x.tried ∧
        ∃ tried place address e, x.tried = tried ++ [(place, .error e)] ∧
          as[place]? = some address ∧
          failure = .allEndpointsFailed as.length (address ++ ": " ++ e)) := by
  obtain ⟨hexact, haddresses, hfair⟩ := reached hnew h
  refine ⟨haddresses, fun p e he => ?_, fun x hx => ?_⟩
  · obtain ⟨hactive, herrors⟩ := hexact p e he
    refine ⟨hactive, ?_, fun hclosed => ?_, herrors, fun hlt => ?_⟩
    · rw [hactive]
      exact Int.natCast_nonneg _
    · rw [hactive, openAt, List.countP_eq_zero.mpr fun x hx => by simp [hclosed x hx]]
      rfl
    · rw [herrors, UInt64.toNat_ofNat_of_lt' hlt]
  · exact ⟨(hfair x hx).nodup, fun c => (hfair x hx).of_connected,
      fun failure => (hfair x hx).of_failed⟩

/-- Two endpoints of one address. -/
def twins : Rotation := ⟨[⟨"a", 0, 0⟩, ⟨"a", 0, 0⟩], 0⟩

/-- The dial that begins at the first has failed on both, while the other has reached the second. -/
def twoDials : Traffic :=
  ⟨⟨[⟨"a", 0, 1⟩, ⟨"a", 1, 1⟩], 2⟩,
    [⟨[(0, .error "refused"), (1, .error "reset")], .failed (.allEndpointsFailed 2 "a: reset")⟩,
      ⟨[(1, .ok ())], .opened ⟨1, "a"⟩⟩]⟩

theorem twoDials_run : Relation.ReflTransGen Step ⟨twins, []⟩ twoDials := by
  refine .head (.begin _ _) (.head (.begin _ _) ?_)
  refine .head (.turn [] [_] (.attempt _ _ _ _ (.error "refused"))) ?_
  refine .head (.turn [_] [] (.attempt _ _ _ _ (.ok ()))) ?_
  exact .single (.turn [] [_] (.attempt _ _ _ _ (.error "reset")))

theorem twoDials_exact :
    Rotation.new ["a", "a"] = .ok twins ∧ (1 : Int) = openAt twoDials.courses 1 ∧
      (1 : UInt64) = UInt64.ofNat (failuresAt twoDials.courses 1) ∧
      (placesOf [(0, .error "refused"), (1, .error "reset")]).Perm (List.range 2) := by
  obtain ⟨-, hcounts, hcourses⟩ := @counts_exact ["a", "a"] twins rfl twoDials twoDials_run
  obtain ⟨hactive, -, -, herrors, -⟩ := hcounts 1 ⟨"a", 1, 1⟩ rfl
  exact ⟨rfl, hactive, herrors, ((hcourses _ List.mem_cons_self).2.2 _ rfl).1⟩

/-! ## Whole dials -/

/-- Trying places one after the other is a run of attempts, each with the outcome of its address. -/
theorem tryPlaces_runs (reach : String → Except String Unit) (xs : List Course) {places : List Nat}
    (hne : places ≠ []) (r : Rotation) (tried : Tries) (lastError : String) :
    ∃ tries, Relation.ReflTransGen Step
      ⟨r, xs ++ [⟨tried, .dialing ⟨places, lastError⟩⟩]⟩
      ⟨(r.tryPlaces reach lastError places).1,
        xs ++ [⟨tried ++ tries, .of (.inr (r.tryPlaces reach lastError places).2)⟩]⟩ ∧
      ∀ a ∈ tries, a.2 = reach (r.addressAt a.1) := by
  induction places generalizing r tried lastError with
  | nil => exact absurd rfl hne
  | cons place rest ih =>
    have hstep := Step.turn xs []
      (Turn.attempt (r := r) tried place rest lastError (reach (r.addressAt place)))
    have hone : ∀ a ∈ [(place, reach (r.addressAt place))], a.2 = reach (r.addressAt a.1) :=
      fun a ha => by rw [List.mem_singleton.mp ha]
    cases hreach : reach (r.addressAt place) with
    | ok u =>
      rw [hreach] at hstep hone
      have hresult : r.tryPlaces reach lastError (place :: rest) =
          (r.countOpened place, .ok ⟨place, r.addressAt place⟩) := by
        rw [tryPlaces, hreach]
        rfl
      rw [hresult]
      exact ⟨_, .single hstep, hone⟩
    | error e =>
      rw [hreach] at hstep hone
      cases rest with
      | nil =>
        have hresult : (r.tryPlaces reach lastError [place]).1 =
              (r.attempt ⟨[place], lastError⟩ (.error e)).1 ∧
            Progress.of (.inr (r.tryPlaces reach lastError [place]).2) =
              .of (r.attempt ⟨[place], lastError⟩ (.error e)).2 := by
          rw [tryPlaces, hreach]
          exact ⟨rfl, rfl⟩
        rw [hresult.1, hresult.2]
        exact ⟨_, .single hstep, hone⟩
      | cons next rest =>
        -- the rest of the places is tried from where this attempt leaves the dial
        have hresult : r.tryPlaces reach lastError (place :: next :: rest) =
            (r.countError place).tryPlaces reach
              ((r.countError place).addressAt place ++ ": " ++ e) (next :: rest) := by
          rw [tryPlaces, hreach]
          rfl
        obtain ⟨tries, hrest, houtcomes⟩ := ih (List.cons_ne_nil next rest) (r.countError place)
          (tried ++ [(place, .error e)]) ((r.countError place).addressAt place ++ ": " ++ e)
        rw [hresult]
        rw [List.append_assoc] at hrest
        refine ⟨_, .head hstep hrest, fun a ha => ?_⟩
        rcases List.mem_append.mp ha with ha | ha
        · exact hone a ha
        · rw [houtcomes a ha, addressAt_eq_getD, addresses_countError, ← addressAt_eq_getD]

/-- **A whole dial is a run**: it begins, and its attempts follow one another. -/
theorem dial_runs {r : Rotation} (hsize : 0 < r.size) (reach : String → Except String Unit)
    (xs : List Course) :
    ∃ tries, Relation.ReflTransGen Step ⟨r, xs⟩
      ⟨(r.dial reach).1, xs ++ [⟨tries, .of (.inr (r.dial reach).2)⟩]⟩ ∧
      ∀ a ∈ tries, a.2 = reach (r.addressAt a.1) := by
  have hne : r.beginDial.2.untried ≠ [] := by
    intro hnil
    have hlength : r.beginDial.2.untried.length = r.size := by
      show (placesFrom r.size r.turn).length = r.size
      rw [placesFrom, List.length_map, List.length_range]
    rw [hnil] at hlength
    exact Nat.ne_of_lt hsize hlength
  obtain ⟨tries, h, houtcomes⟩ :=
    tryPlaces_runs reach xs hne r.beginDial.1 [] r.beginDial.2.lastError
  exact ⟨tries, .head (.begin r xs) h, houtcomes⟩

/-- Trying places fails in one way only. -/
theorem tryPlaces_error {reach : String → Except String Unit} {failure : Failure}
    {places : List Nat} {r : Rotation} {lastError : String}
    (h : (r.tryPlaces reach lastError places).2 = .error failure) :
    ∃ n e, failure = .allEndpointsFailed n e := by
  induction places generalizing r lastError with
  | nil =>
    cases h
    exact ⟨_, _, rfl⟩
  | cons place rest ih =>
    unfold tryPlaces at h
    cases hreach : reach (r.addressAt place) with
    | ok u =>
      rw [hreach, attempt_ok] at h
      cases h
    | error e =>
      rw [hreach] at h
      cases rest with
      | nil =>
        cases h
        exact ⟨_, _, rfl⟩
      | cons next rest => exact ih h

theorem dial_error {r : Rotation} {reach : String → Except String Unit} {failure : Failure}
    (h : (r.dial reach).2 = .error failure) : ∃ n e, failure = .allEndpointsFailed n e :=
  tryPlaces_error h

end FederatedStorage.Rotation
