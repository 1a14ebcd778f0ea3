import FederatedStorage.Proofs.Backend.LoopbackRun

/-!
# IDs that are issued once

A loopback array makes an ID of its stem, a kind and its counter, and the counter goes on by one each
time. Whatever the stem looks like, such an ID is read back from its end: the digits of the number, the
kind, and the stem is what is left. Leading zeros do not change the number that is read, so it does not
matter that numbers grow beyond the digits that they are filled up to.

The incidents of a run are finer than calls: an ID may be made now, and what it is for be put on the
array later, or never. So whatever several calls do at the same time is a run too.

## Main statements

* `Loopback.nextId_inj`: an ID tells the stem, the kind and the counter.
* `Loopback.onward_issue`: what one incident issues.
* `Loopback.issued_numbered`: what a run issues.
* `Loopback.ids_never_collide`: no ID is issued twice.
-/

namespace FederatedStorage.Loopback

variable {a b next : Loopback} {kind l : ResourceKind} {stem stem' id : String} {n : Nat}

/-! ## One ID -/

/-- An ID tells the stem, the kind and the number that it was made of. -/
theorem resourceId_parts {m : Nat}
    (h : resourceId stem (idKind kind) m = resourceId stem' (idKind l) n) :
    stem = stem' ∧ kind = l ∧ m = n := by
  obtain ⟨rfl, rfl⟩ := resourceId_inj h
  exact ⟨rfl, rfl, resourceId_number_inj h⟩

/-- **An ID tells the stem, the kind and the counter** of the array that makes it. -/
theorem nextId_inj (h : a.nextId kind = b.nextId l) :
    a.stem = b.stem ∧ kind = l ∧ a.nextNumber = b.nextNumber := by
  obtain ⟨hstem, hkind, hnumber⟩ := resourceId_parts h
  exact ⟨hstem, hkind, UInt64.toNat_inj.mp hnumber⟩

/-! ## Runs -/

/-- **What may come over an array**, through its clients or past them. -/
inductive Incident
  /-- A call, a listing, a health check or a switch. -/
  | event (e : Event)
  /-- An ID is made for a resource that is not put on the array yet. -/
  | makeId (kind : ResourceKind)
  /-- A volume is put on the array. -/
  | putVolume (v : Volume)
  /-- A snapshot is put on the array. -/
  | putSnapshot (s : Snapshot)
  /-- A volume is taken off the array. -/
  | evictVolume (id : String)

/-- The array after an incident. -/
def onward (a : Loopback) : Incident → Loopback
  | .event e => a.after e
  | .makeId _ => a.useNumber
  | .putVolume v => a.putVolume v
  | .putSnapshot s => a.putSnapshot s
  | .evictVolume id => a.evictVolume id

/-- The IDs that an incident issues: that of what a call creates, or the one that is made. -/
def issues (a : Loopback) : Incident → List (ResourceKind × String)
  | .event (.call now c) =>
    match (a.perform now c).2 with
    | .ok answer => (c.created answer).toList
    | .error _ => []
  | .makeId kind => [(kind, a.nextId kind)]
  | _ => []

/-- **All IDs that a run issues**, in this order. -/
def issued (a : Loopback) : List Incident → List (ResourceKind × String)
  | [] => []
  | i :: rest => a.issues i ++ (a.onward i).issued rest

/-- **An array issues one ID at most**, the next one, and counts it. -/
inductive Issue (a next : Loopback) : List (ResourceKind × String) → Prop
  | none (hstem : next.stem = a.stem) (hnumber : next.nextNumber = a.nextNumber) : Issue a next []
  | one (kind : ResourceKind) (hstem : next.stem = a.stem)
      (hnumber : next.nextNumber = a.nextNumber + 1) : Issue a next [(kind, a.nextId kind)]

/-- A call issues the ID of what it creates. -/
theorem Change.issue {created deleted : Option (ResourceKind × String)}
    (h : Change a next created deleted) : Issue a next created.toList := by
  cases h with
  | same => exact .none rfl rfl
  | createVolume hid =>
    rw [hid]
    exact .one .volume rfl rfl
  | createSnapshot hid =>
    rw [hid]
    exact .one .snapshot rfl rfl
  | updateVolume hv hid => exact .none rfl rfl
  | deleteVolume hv => exact .none rfl rfl
  | deleteSnapshot hs => exact .none rfl rfl

/-- **What an incident issues.** A call that fails issues nothing. -/
theorem onward_issue (a : Loopback) (i : Incident) : Issue a (a.onward i) (a.issues i) := by
  cases i with
  | event e =>
    cases e with
    | call now c =>
      simp only [onward, after, issues]
      rcases perform_change a now c with ⟨failure, hp⟩ | ⟨next, answer, hp, hchange⟩
      · rw [hp]
        exact .none rfl rfl
      · rw [hp]
        exact hchange.issue
    | list kind => exact .none rfl rfl
    | checkHealth => exact .none rfl rfl
    | switch available => exact .none rfl rfl
  | makeId kind => exact .one kind rfl rfl
  | putVolume v => exact .none rfl rfl
  | putSnapshot s => exact .none rfl rfl
  | evictVolume id => exact .none rfl rfl

/-- **What a run issues**: at each place the ID with the number of that place. -/
theorem issued_numbered (hstem : a.stem = stem) (hnumber : a.nextNumber = numberAfter n)
    (is : List Incident) {place : Nat} (h : (a.issued is)[place]? = some (kind, id)) :
    id = resourceId stem (idKind kind) (numberAfter (n + place)).toNat := by
  induction is generalizing a n place with
  | nil => cases h
  | cons i is ih =>
    rw [issued] at h
    have hissue := onward_issue a i
    generalize a.issues i = given at h hissue
    cases hissue with
    | none hstem' hnumber' =>
      exact ih (hstem'.trans hstem) (hnumber'.trans hnumber) h
    | one first hstem' hnumber' =>
      cases place with
      | zero =>
        cases h
        rw [nextId, hstem, hnumber]
        rfl
      | succ place =>
        have hnext : (a.onward i).nextNumber = numberAfter (n + 1) := by
          rw [hnumber', hnumber, numberAfter_succ]
        have hid := ih (hstem'.trans hstem) hnext h
        rwa [Nat.add_right_comm] at hid

/-! ## Runs from the empty array -/

/-- The IDs that a run of an empty array issues. -/
def issuedIn (stem : String) (config : LoopbackConfig) (is : List Incident) :
    List (ResourceKind × String) := (Loopback.new stem config).issued is

theorem issuedIn_numbered {config : LoopbackConfig} {is : List Incident} {place : Nat}
    (h : (issuedIn stem config is)[place]? = some (kind, id)) :
    id = resourceId (config.idStem.getD stem) (idKind kind) (numberAfter place).toNat := by
  have hid := issued_numbered (a := Loopback.new stem config) (n := 0) rfl rfl is h
  rwa [Nat.zero_add] at hid

/-- An ID that is issued has been made of the array's stem and the kind. -/
theorem exists_of_mem_issuedIn {config : LoopbackConfig} {is : List Incident}
    (h : (kind, id) ∈ issuedIn stem config is) :
    ∃ m, id = resourceId (config.idStem.getD stem) (idKind kind) m := by
  obtain ⟨place, hplace⟩ := List.mem_iff_getElem?.mp h
  exact ⟨_, issuedIn_numbered hplace⟩

/-- **No ID is issued twice** as long as the numbers have not come round. -/
theorem issuedIn_nodup {config : LoopbackConfig} {is : List Incident}
    (hbound : (issuedIn stem config is).length ≤ 2 ^ 64) :
    ((issuedIn stem config is).map (·.2)).Nodup := by
  rw [List.Nodup, List.pairwise_map, List.pairwise_iff_getElem]
  intro i j hi hj hij heq
  have hfirst : (issuedIn stem config is)[i].2 = _ :=
    issuedIn_numbered (List.getElem?_eq_getElem hi)
  have hsecond : (issuedIn stem config is)[j].2 = _ :=
    issuedIn_numbered (List.getElem?_eq_getElem hj)
  obtain ⟨-, -, hnumber⟩ := resourceId_parts (hfirst.symm.trans (heq.trans hsecond))
  have hplace : i = j := numberAfter_inj (by omega) (by omega) hnumber
  omega

/-- What an array holds after a run has an ID of the array's stem and the kind. -/
theorem exists_of_holds {config : LoopbackConfig} {es : List Event}
    (h : (ran stem config es).holds kind id = true) :
    ∃ m, id = resourceId (config.idStem.getD stem) (idKind kind) m := by
  have hnum := ran_numbered stem config es
  cases kind with
  | volume =>
    obtain ⟨v, hv⟩ := Option.isSome_iff_exists.mp h
    obtain ⟨m, -, hid⟩ := hnum.volume id v hv
    exact ⟨_, hid⟩
  | snapshot =>
    obtain ⟨s, hs⟩ := Option.isSome_iff_exists.mp h
    obtain ⟨m, -, hid⟩ := hnum.snapshot id s hs
    exact ⟨_, hid⟩

/-- **IDs never collide.** Two arrays make the same ID only with the same stem, kind and counter. A run
that issues no more IDs than there are numbers issues each once, whatever is deleted meanwhile and
however many calls fail. An ID that two arrays have issued, or hold after calls on both, is of one kind
and one stem: no volume has the ID of a snapshot, and arrays of different stems share none. -/
theorem ids_never_collide :
    (∀ (a b : Loopback) (kind l : ResourceKind), a.nextId kind = b.nextId l →
      a.stem = b.stem ∧ kind = l ∧ a.nextNumber = b.nextNumber) ∧
    (∀ (stem : String) (config : LoopbackConfig) (is : List Incident),
      (issuedIn stem config is).length ≤ 2 ^ 64 → ((issuedIn stem config is).map (·.2)).Nodup) ∧
    ∀ (stem stem' : String) (config config' : LoopbackConfig) (kind l : ResourceKind) (id : String),
      (∀ is is', (kind, id) ∈ issuedIn stem config is → (l, id) ∈ issuedIn stem' config' is' →
        (Loopback.new stem config).stem = (Loopback.new stem' config').stem ∧ kind = l) ∧
      ∀ es es', (ran stem config es).holds kind id = true →
        (ran stem' config' es').holds l id = true →
        (Loopback.new stem config).stem = (Loopback.new stem' config').stem ∧ kind = l := by
  refine ⟨fun a b kind l => nextId_inj, fun stem config is => issuedIn_nodup,
    fun stem stem' config config' kind l id => ⟨fun is is' h h' => ?_, fun es es' h h' => ?_⟩⟩
  · obtain ⟨m, hm⟩ := exists_of_mem_issuedIn h
    obtain ⟨n, hn⟩ := exists_of_mem_issuedIn h'
    exact resourceId_inj (hm.symm.trans hn)
  · obtain ⟨m, hm⟩ := exists_of_holds h
    obtain ⟨n, hn⟩ := exists_of_holds h'
    exact resourceId_inj (hm.symm.trans hn)

/-- A run that deletes its first volume and has calls that fail between its creations. -/
def wasteful : List Event :=
  [.call default (.createVolume ⟨"first", 1, .new, .empty, .empty⟩),
    .call default (.createVolume ⟨"empty", 0, .new, .empty, .empty⟩),
    .call default (.deleteVolume "a-vol-000001"),
    .call default (.createSnapshot ⟨"late", "a-vol-000001"⟩),
    .call default (.createVolume ⟨"second", 1, .new, .empty, .empty⟩),
    .call default (.createSnapshot ⟨"kept", "a-vol-000002"⟩)]

/-- A run that creates two volumes. -/
def twofold : List Event :=
  [.call default (.createVolume ⟨"first", 1, .new, .empty, .empty⟩),
    .call default (.createVolume ⟨"second", 1, .new, .empty, .empty⟩)]

/-- A configured stem. -/
def stemmed (stem : String) : LoopbackConfig := ⟨some stem, none, none⟩

theorem ids_never_collide_lookalikes :
    (issuedIn "a" .default (wasteful.map .event) =
        [(.volume, "a-vol-000001"), (.volume, "a-vol-000002"), (.snapshot, "a-snap-000003")] ∧
      ((issuedIn "a" .default (wasteful.map .event)).map (·.2)).Nodup) ∧
    ((ran "a" .default wasteful).nextId .volume = "a-vol-000004" ∧
      (ran "a" .default wasteful).nextNumber = 4) ∧
    (issuedIn "b" (stemmed "a") [.makeId .snapshot, .makeId .volume] =
        [(.snapshot, "a-snap-000001"), (.volume, "a-vol-000002")] ∧
      issuedIn "b" (stemmed "a-vol-000001") [.makeId .volume] =
        [(.volume, "a-vol-000001-vol-000001")] ∧
      (Loopback.new "a" .default).stem = (Loopback.new "b" (stemmed "a")).stem) ∧
    (ran "a" .default wasteful).holds .volume "a-vol-000002" = true ∧
      (ran "b" (stemmed "a") twofold).holds .volume "a-vol-000002" = true ∧
      (Loopback.new "a" .default).stem = (Loopback.new "b" (stemmed "a")).stem := by
  obtain ⟨hmade, honce, hshared⟩ := ids_never_collide
  obtain ⟨hissued, hheld⟩ :=
    hshared "a" "b" .default (stemmed "a") .volume .volume "a-vol-000002"
  have hfirst : issuedIn "a" .default (wasteful.map .event) =
      [(.volume, "a-vol-000001"), (.volume, "a-vol-000002"), (.snapshot, "a-snap-000003")] := by
    decide +kernel
  have hother : issuedIn "b" (stemmed "a") [.makeId .snapshot, .makeId .volume] =
      [(.snapshot, "a-snap-000001"), (.volume, "a-vol-000002")] := by
    decide +kernel
  have hnumber := hmade (ran "a" .default wasteful)
    { Loopback.new "a" .default with nextNumber := 4 } .volume .volume (by decide +kernel)
  have hstem := hissued (wasteful.map .event) [.makeId .snapshot, .makeId .volume]
    (by rw [hfirst]; decide) (by rw [hother]; decide)
  have hholds : (ran "a" .default wasteful).holds .volume "a-vol-000002" = true := by
    decide +kernel
  have hholds' : (ran "b" (stemmed "a") twofold).holds .volume "a-vol-000002" = true := by
    decide +kernel
  refine ⟨⟨hfirst, honce _ _ _ (by rw [hfirst]; decide)⟩, ⟨by decide +kernel, hnumber.2.2⟩,
    ⟨hother, by decide +kernel, hstem.1⟩, hholds, hholds', (hheld _ _ hholds hholds').1⟩

end FederatedStorage.Loopback
