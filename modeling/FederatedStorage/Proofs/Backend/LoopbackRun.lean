import FederatedStorage.Proofs.Backend.Loopback
import Mathlib.Algebra.GroupWithZero.Nat

/-!
# Whole runs of a loopback array

What an empty loopback array keeps to, whatever is called on it, listed and switched. The sizes hang
together across volumes and snapshots: a snapshot is no larger than its volume because volumes only
grow, and a clone no smaller than its snapshot because the larger of two sizes is checked.

These bounds need an ID to mean one resource for good. An array numbers what it creates with 64 bits,
so the numbers come round after `2 ^ 64` creations, and the bounds are those of runs that create no
more than that. `FederatedStorage.Proofs.Backend.Wraparound` has a run that creates one more.

## Main statements

* `Loopback.Deed`, `Loopback.after_deed`: all that an event can do.
* `Loopback.Sound.step`, `Loopback.Nested.step`, `Loopback.AtLeast.step`: what each event keeps.
* `Loopback.run_keeps`: what every run keeps.
-/

namespace FederatedStorage

/-- A table that something is taken off has only what was there. -/
theorem Keyed.get?_of_erase {α : Type} {t : Keyed α} {key other : String} {x : α}
    (h : (t.erase other).get? key = some x) : t.get? key = some x := by
  rw [get?_erase] at h
  split at h
  · cases h
  · exact h

/-- A table that something is put on has only that and what was there. -/
theorem Keyed.get?_of_insert {α : Type} {t : Keyed α} {key other : String} {x y : α}
    (h : (t.insert other y).get? key = some x) : (key = other ∧ x = y) ∨ t.get? key = some x := by
  rw [get?_insert] at h
  split at h
  · next heq => exact .inl ⟨heq, (Option.some.inj h).symm⟩
  · exact .inr h

namespace Loopback

variable {a next : Loopback} {now : Time.Timestamp} {config : LoopbackConfig} {stem id : String}
  {n k : Nat}

/-! ## Runs -/

/-- **What an array goes through**: calls, listings, health checks and switches. -/
inductive Event
  | call (now : Time.Timestamp) (c : Call)
  | list (kind : ResourceKind)
  | checkHealth
  | switch (available : Bool)

/-- The array after an event. -/
def after (a : Loopback) : Event → Loopback
  | .call now c => (a.perform now c).1
  | .list _ => a
  | .checkHealth => a
  | .switch available => { a with available }

/-- The array after a run. -/
def through (a : Loopback) (es : List Event) : Loopback := es.foldl after a

/-- How many resources an event creates. -/
def creates (a : Loopback) : Event → Nat
  | .call now c =>
    match (a.perform now c).2 with
    | .ok answer => (c.created answer).toList.length
    | .error _ => 0
  | _ => 0

/-- How many resources a run creates. -/
def created (a : Loopback) : List Event → Nat
  | [] => 0
  | e :: es => a.creates e + (a.after e).created es

@[simp] theorem through_nil (a : Loopback) : a.through [] = a := rfl

@[simp] theorem through_cons (a : Loopback) (e : Event) (es : List Event) :
    a.through (e :: es) = (a.after e).through es := rfl

theorem through_append (a : Loopback) (es fs : List Event) :
    a.through (es ++ fs) = (a.through es).through fs := List.foldl_append

theorem created_append (a : Loopback) (es fs : List Event) :
    a.created (es ++ fs) = a.created es + (a.through es).created fs := by
  induction es generalizing a with
  | nil => simp [created]
  | cons e es ih =>
    rw [List.cons_append, created, created, ih, through_cons]
    omega

/-! ## All that an event can do -/

/-- A size that an array takes: positive and within the limit. -/
def Fits (config : LoopbackConfig) (size : UInt64) : Prop :=
  0 < size ∧ ∀ most, config.maxVolumeBytes = some most → size ≤ most

theorem fits_of_checkSize {operation : String} {size : UInt64}
    (h : a.checkSize operation size = .ok ()) : Fits a.config size := by
  unfold checkSize at h
  split at h
  · cases h
  · next hpos =>
    refine ⟨UInt64.pos_iff_ne_zero.mpr hpos, fun most hmost => ?_⟩
    rw [hmost] at h
    dsimp only at h
    split at h
    · cases h
    · next hle => exact UInt64.not_lt.mp hle

/-- What a call may make of a volume that stays. -/
structure Update (config : LoopbackConfig) (v w : Volume) : Prop where
  id : w.id = v.id
  source : w.sourceSnapshotId = v.sourceSnapshotId
  grows : v.sizeBytes ≤ w.sizeBytes
  fits : Fits config v.sizeBytes → Fits config w.sizeBytes
  hosts : v.attachedHosts.Nodup → w.attachedHosts.Nodup

/-- **All that an event can do** to an array, with what is checked before, and the number of
resources it creates. -/
inductive Deed (a : Loopback) : Loopback → Nat → Prop
  | none : Deed a a 0
  | switch (available : Bool) : Deed a { a with available } 0
  | createVolume {v : Volume} (hid : v.id = a.nextId .volume) (hfits : Fits a.config v.sizeBytes)
      (hhosts : v.attachedHosts = [])
      (hsource : ∀ source, v.sourceSnapshotId = some source →
        ∃ key s, a.snapshots.get? key = some s ∧ s.id = source ∧ s.sizeBytes ≤ v.sizeBytes) :
      Deed a (a.useNumber.putVolume v) 1
  | createSnapshot {v : Volume} {s : Snapshot} (hid : s.id = a.nextId .snapshot)
      (hv : a.volumes.get? s.volumeId = some v) (hsize : s.sizeBytes = v.sizeBytes) :
      Deed a (a.useNumber.putSnapshot s) 1
  | updateVolume {id : String} {v w : Volume} (hv : a.volumes.get? id = some v)
      (hw : Update a.config v w) : Deed a { a with volumes := a.volumes.insert id w } 0
  | deleteVolume {id : String} {v : Volume} (hv : a.volumes.get? id = some v)
      (hhosts : v.attachedHosts = []) (hfree : ∀ s ∈ a.snapshots.values, s.volumeId ≠ id) :
      Deed a (a.evictVolume id) 0
  | deleteSnapshot (id : String) : Deed a { a with snapshots := a.snapshots.erase id } 0

/-- A planned size is at least that of the source, which is on the array. -/
theorem source_of_plannedSize {r : CreateVolume} {size : UInt64} {source : Option String}
    (h : a.plannedSize r = .ok (size, source)) (id : String) (hid : source = some id) :
    ∃ key s, a.snapshots.get? key = some s ∧ s.id = id ∧ s.sizeBytes ≤ size := by
  unfold plannedSize at h
  cases hr : r.source with
  | new =>
    rw [hr] at h
    cases h
    cases hid
  | snapshot key =>
    rw [hr] at h
    obtain ⟨s, hs, h⟩ := bind_eq_ok h
    cases h
    cases hid
    refine ⟨key, s, (holds_of_findSnapshot hs).1, rfl, ?_⟩
    split
    · exact UInt64.le_refl _
    · next hle => exact UInt64.not_lt.mp hle

theorem createVolume_deed {r : CreateVolume} {v : Volume}
    (h : a.createVolume now r = .ok (next, v)) : Deed a next 1 := by
  obtain ⟨⟨size, source⟩, hplan, h⟩ := bind_eq_ok h
  obtain ⟨_, hcheck, h⟩ := bind_eq_ok h
  cases h
  exact .createVolume rfl (fits_of_checkSize hcheck) rfl (source_of_plannedSize hplan)

theorem createSnapshot_deed {r : CreateSnapshot} {s : Snapshot}
    (h : a.createSnapshot now r = .ok (next, s)) : Deed a next 1 := by
  obtain ⟨v, hv, h⟩ := bind_eq_ok h
  cases h
  exact .createSnapshot rfl (holds_of_findVolume hv).1 rfl

theorem resizeVolume_deed {r : ResizeVolume} {v : Volume}
    (h : a.resizeVolume r = .ok (next, v)) : Deed a next 0 := by
  obtain ⟨_, hcheck, h⟩ := bind_eq_ok h
  obtain ⟨old, hold, h⟩ := bind_eq_ok h
  split at h
  · cases h
  · next hle =>
    cases h
    exact .updateVolume (holds_of_findVolume hold).1
      ⟨rfl, rfl, UInt64.not_lt.mp hle, fun _ => fits_of_checkSize hcheck, fun hnd => hnd⟩

/-- A host that a volume does not list yet can be added. -/
theorem nodup_attach {hosts : List String} (h : hosts.Nodup) (host : String) :
    (if hosts.contains host then hosts else hosts ++ [host]).Nodup := by
  split
  · exact h
  · next hnew =>
    rw [List.contains_iff_mem] at hnew
    refine List.nodup_append.mpr ⟨h, by simp, fun x hx y hy => ?_⟩
    rw [List.mem_singleton.mp hy]
    exact fun heq => hnew (heq ▸ hx)

theorem attachVolume_deed {l : HostLink} {x : Attachment}
    (h : a.attachVolume l = .ok (next, x)) : Deed a next 0 := by
  obtain ⟨old, hold, h⟩ := bind_eq_ok h
  cases h
  exact .updateVolume (holds_of_findVolume hold).1
    ⟨rfl, rfl, UInt64.le_refl _, fun hfits => hfits, fun hnd => nodup_attach hnd l.host⟩

theorem detachVolume_deed {l : HostLink} {x : Unit}
    (h : a.detachVolume l = .ok (next, x)) : Deed a next 0 := by
  obtain ⟨old, hold, h⟩ := bind_eq_ok h
  split at h
  · cases h
    exact .updateVolume (holds_of_findVolume hold).1
      ⟨rfl, rfl, UInt64.le_refl _, fun hfits => hfits, fun hnd => hnd.filter _⟩
  · cases h

/-- A volume is deleted without hosts and without snapshots. -/
theorem free_of_deleteVolume {x : Unit} (h : a.deleteVolume id = .ok (next, x)) :
    ∃ v, a.volumes.get? id = some v ∧ v.attachedHosts = [] ∧
      (∀ s ∈ a.snapshots.values, s.volumeId ≠ id) ∧ next = a.evictVolume id := by
  obtain ⟨v, hv, h⟩ := bind_eq_ok h
  split at h
  · cases h
  · next hhosts =>
    split at h
    · cases h
    · next hfree =>
      cases h
      refine ⟨v, (holds_of_findVolume hv).1, by simpa using hhosts, fun s hs heq => ?_, rfl⟩
      exact hfree (List.any_eq_true.mpr ⟨s, hs, decide_eq_true heq⟩)

theorem deleteVolume_deed {x : Unit} (h : a.deleteVolume id = .ok (next, x)) : Deed a next 0 := by
  obtain ⟨v, hv, hhosts, hfree, rfl⟩ := free_of_deleteVolume h
  exact .deleteVolume hv hhosts hfree

theorem deleteSnapshot_deed {x : Unit} (h : a.deleteSnapshot id = .ok (next, x)) :
    Deed a next 0 := by
  obtain ⟨_, _, h⟩ := bind_eq_ok h
  cases h
  exact .deleteSnapshot id

theorem unchanged_deed {α : Type} {x : Except Failure α} {y : α}
    (h : a.unchanged x = .ok (next, y)) : Deed a next 0 := by
  cases x with
  | error failure => cases h
  | ok z =>
    cases h
    exact .none

theorem serve_deed {c : Call} {answer : c.Answer} (h : a.serve now c = .ok (next, answer)) :
    Deed a next (c.created answer).toList.length := by
  cases c with
  | getVolume id => exact unchanged_deed h
  | createVolume r => exact createVolume_deed h
  | resizeVolume r => exact resizeVolume_deed h
  | deleteVolume id => exact deleteVolume_deed h
  | attachVolume l => exact attachVolume_deed h
  | detachVolume l => exact detachVolume_deed h
  | getSnapshot id => exact unchanged_deed h
  | createSnapshot r => exact createSnapshot_deed h
  | deleteSnapshot id => exact deleteSnapshot_deed h

/-- **An event does one of these things.** -/
theorem after_deed (a : Loopback) (e : Event) : Deed a (a.after e) (a.creates e) := by
  cases e with
  | call now c =>
    rw [after, creates]
    unfold perform
    cases a.outage? with
    | some failure => exact .none
    | none =>
      cases hs : a.serve now c with
      | error failure => exact .none
      | ok r => exact serve_deed hs
  | list kind => exact .none
  | checkHealth => exact .none
  | switch available => exact .switch available

/-! ## What an array keeps to at any time -/

/-- **A sound array** has its resources under their IDs, sizes that it takes, no host twice, and the
volume of each snapshot. -/
structure Sound (config : LoopbackConfig) (a : Loopback) : Prop where
  configured : a.config = config
  volume_id : ∀ id v, a.volumes.get? id = some v → v.id = id
  snapshot_id : ∀ id s, a.snapshots.get? id = some s → s.id = id
  fits : ∀ id v, a.volumes.get? id = some v → Fits config v.sizeBytes
  hosts : ∀ id v, a.volumes.get? id = some v → v.attachedHosts.Nodup
  source : ∀ id s, a.snapshots.get? id = some s → ∃ v, a.volumes.get? s.volumeId = some v

namespace Sound

theorem new (stem : String) (config : LoopbackConfig) : (Loopback.new stem config).Sound config where
  configured := rfl
  volume_id := fun id v h => by cases h
  snapshot_id := fun id s h => by cases h
  fits := fun id v h => by cases h
  hosts := fun id v h => by cases h
  source := fun id s h => by cases h

/-- A volume takes its place. -/
theorem insertVolume (ha : a.Sound config) {v : Volume} (hid : v.id = id)
    (hfits : Fits config v.sizeBytes) (hhosts : v.attachedHosts.Nodup) :
    Sound config { a with volumes := a.volumes.insert id v } := by
  refine ⟨ha.configured, Keyed.own_insert ha.volume_id hid, ha.snapshot_id, fun key w hw => ?_,
    fun key w hw => ?_, fun key s hs => ?_⟩
  · rcases Keyed.get?_of_insert hw with ⟨-, rfl⟩ | hw
    · exact hfits
    · exact ha.fits key w hw
  · rcases Keyed.get?_of_insert hw with ⟨-, rfl⟩ | hw
    · exact hhosts
    · exact ha.hosts key w hw
  · rw [Keyed.get?_insert]
    split
    · exact ⟨v, rfl⟩
    · exact ha.source key s hs

/-- **A sound array stays sound.** -/
theorem step (ha : a.Sound config) (h : Deed a next k) : next.Sound config := by
  cases h with
  | none => exact ha
  | switch available => exact { ha with }
  | createVolume hid hfits hhosts hsource =>
    have hnext : Sound config a.useNumber := { ha with }
    exact hnext.insertVolume rfl (ha.configured ▸ hfits) (by rw [hhosts]; exact List.nodup_nil)
  | @createSnapshot v s hid hv hsize =>
    refine { ha with
      snapshot_id := Keyed.own_insert ha.snapshot_id rfl, source := fun key t ht => ?_ }
    rcases Keyed.get?_of_insert ht with ⟨-, rfl⟩ | ht
    · exact ⟨v, hv⟩
    · exact ha.source key t ht
  | @updateVolume id v w hv hw =>
    refine ha.insertVolume (hw.id.trans (ha.volume_id id v hv)) ?_ (hw.hosts (ha.hosts id v hv))
    exact ha.configured ▸ hw.fits (ha.configured ▸ ha.fits id v hv)
  | @deleteVolume id v hv hhosts hfree =>
    refine ⟨ha.configured, Keyed.own_erase ha.volume_id, ha.snapshot_id,
      fun key w hw => ha.fits key w (Keyed.get?_of_erase hw),
      fun key w hw => ha.hosts key w (Keyed.get?_of_erase hw), fun key s hs => ?_⟩
    have hne : s.volumeId ≠ id :=
      hfree s (List.mem_map.mpr ⟨(key, s), Keyed.get?_eq_some_iff.mp hs, rfl⟩)
    obtain ⟨w, hw⟩ := ha.source key s hs
    exact ⟨w, by rw [evictVolume, Keyed.get?_erase, if_neg hne, hw]⟩
  | deleteSnapshot id =>
    exact { ha with
      snapshot_id := Keyed.own_erase ha.snapshot_id
      source := fun key s hs => ha.source key s (Keyed.get?_of_erase hs) }

theorem through (ha : a.Sound config) (es : List Event) : (a.through es).Sound config := by
  induction es generalizing a with
  | nil => exact ha
  | cons e es ih => exact ih (ha.step (after_deed a e))

end Sound

/-! ## Numbers that are given once -/

/-- The number of the resource that is created after `n` others. -/
def numberAfter (n : Nat) : UInt64 := UInt64.ofNat (n + 1)

theorem numberAfter_succ (n : Nat) : numberAfter (n + 1) = numberAfter n + 1 := by
  rw [numberAfter, UInt64.ofNat_add]
  rfl

theorem numberAfter_inj {m : Nat} (hm : m < 2 ^ 64) (hn : n < 2 ^ 64)
    (h : (numberAfter m).toNat = (numberAfter n).toNat) : m = n := by
  rw [numberAfter, numberAfter, UInt64.toNat_ofNat', UInt64.toNat_ofNat'] at h
  omega

/-- Leading zeros leave the number readable. -/
theorem ofDigitChars_paddedNumber (n : Nat) :
    Nat.ofDigitChars 10 (paddedNumber n).toList 0 = n := by
  rw [paddedNumber, String.toList_append, String.toList_ofList, Nat.ofDigitChars_append,
    Nat.ofDigitChars_replicate_zero, Nat.mul_zero]
  show Nat.ofDigitChars 10 n.repr.toList 0 = n
  rw [Nat.toList_repr, Nat.ofDigitChars_ten_toDigits]

/-- An ID of a stem and a kind tells the number. -/
theorem resourceId_number_inj {kind : ResourceKind} {m n : Nat}
    (h : resourceId stem (idKind kind) m = resourceId stem (idKind kind) n) : m = n := by
  have hpadded : paddedNumber m = paddedNumber n := by
    have hlist := congrArg String.toList h
    simp only [resourceId, String.toList_append, List.append_cancel_left_eq] at hlist
    exact String.toList_injective hlist
  rw [← ofDigitChars_paddedNumber m, hpadded, ofDigitChars_paddedNumber]

/-- An ID that one of the first `n` creations has given. -/
def Given (stem : String) (n : Nat) (kind : ResourceKind) (id : String) : Prop :=
  ∃ m < n, id = resourceId stem (idKind kind) (numberAfter m).toNat

theorem Given.mono {kind : ResourceKind} {m : Nat} (h : Given stem m kind id) (hmn : m ≤ n) :
    Given stem n kind id := by
  obtain ⟨i, hi, heq⟩ := h
  exact ⟨i, Nat.lt_of_lt_of_le hi hmn, heq⟩

/-- **A numbered array** has created `n` resources, and all IDs on it are theirs. -/
structure Numbered (stem : String) (n : Nat) (a : Loopback) : Prop where
  stem_eq : a.stem = stem
  next : a.nextNumber = numberAfter n
  volume : ∀ id v, a.volumes.get? id = some v → Given stem n .volume id
  snapshot : ∀ id s, a.snapshots.get? id = some s → Given stem n .snapshot id
  source : ∀ id v source, a.volumes.get? id = some v → v.sourceSnapshotId = some source →
    Given stem n .snapshot source

namespace Numbered

theorem new (stem : String) (config : LoopbackConfig) :
    (Loopback.new stem config).Numbered (config.idStem.getD stem) 0 where
  stem_eq := rfl
  next := rfl
  volume := fun id v h => by cases h
  snapshot := fun id s h => by cases h
  source := fun id v source h => by cases h

theorem nextId (ha : a.Numbered stem n) (kind : ResourceKind) :
    a.nextId kind = resourceId stem (idKind kind) (numberAfter n).toNat := by
  rw [Loopback.nextId, ha.stem_eq, ha.next]

theorem given_nextId (ha : a.Numbered stem n) (kind : ResourceKind) :
    Given stem (n + 1) kind (a.nextId kind) := ⟨n, Nat.lt_succ_self n, ha.nextId kind⟩

/-- **The next ID is new** as long as the numbers have not come round. -/
theorem fresh (ha : a.Numbered stem n) (hn : n < 2 ^ 64) (kind : ResourceKind) :
    ¬ Given stem n kind (a.nextId kind) := by
  rintro ⟨m, hm, heq⟩
  rw [ha.nextId] at heq
  have := numberAfter_inj (Nat.lt_trans hm hn) hn (resourceId_number_inj heq).symm
  omega

theorem useNumber (ha : a.Numbered stem n) : Numbered stem (n + 1) a.useNumber where
  stem_eq := ha.stem_eq
  next := by
    rw [numberAfter_succ, ← ha.next]
    rfl
  volume := fun id v h => (ha.volume id v h).mono (Nat.le_succ n)
  snapshot := fun id s h => (ha.snapshot id s h).mono (Nat.le_succ n)
  source := fun id v source h hs => (ha.source id v source h hs).mono (Nat.le_succ n)

theorem insertVolume (ha : a.Numbered stem n) {v : Volume} (hid : Given stem n .volume id)
    (hsource : ∀ source, v.sourceSnapshotId = some source → Given stem n .snapshot source) :
    Numbered stem n { a with volumes := a.volumes.insert id v } := by
  refine { ha with volume := fun key w hw => ?_, source := fun key w source hw => ?_ }
  · rcases Keyed.get?_of_insert hw with ⟨rfl, -⟩ | hw
    · exact hid
    · exact ha.volume key w hw
  · rcases Keyed.get?_of_insert hw with ⟨-, rfl⟩ | hw
    · exact hsource source
    · exact ha.source key w source hw

theorem step (ha : a.Numbered stem n) (hs : a.Sound config) (h : Deed a next k) :
    next.Numbered stem (n + k) := by
  cases h with
  | none => exact ha
  | switch available => exact { ha with }
  | @createVolume v hid hfits hhosts hsource =>
    refine ha.useNumber.insertVolume (hid ▸ ha.given_nextId .volume) fun source hsrc => ?_
    obtain ⟨key, s, hs', hsid, -⟩ := hsource source hsrc
    have hkey : key = source := (hs.snapshot_id key s hs').symm.trans hsid
    exact (hkey ▸ ha.snapshot key s hs').mono (Nat.le_succ n)
  | @createSnapshot v s hid hv hsize =>
    refine { ha.useNumber with snapshot := fun key t ht => ?_ }
    rcases Keyed.get?_of_insert ht with ⟨rfl, -⟩ | ht
    · exact hid ▸ ha.given_nextId .snapshot
    · exact ha.useNumber.snapshot key t ht
  | @updateVolume id v w hv hw =>
    exact ha.insertVolume (ha.volume id v hv) fun source hsrc =>
      ha.source id v source hv (hw.source ▸ hsrc)
  | deleteVolume hv hhosts hfree =>
    exact { ha with
      volume := fun key w hw => ha.volume key w (Keyed.get?_of_erase hw)
      source := fun key w source hw => ha.source key w source (Keyed.get?_of_erase hw) }
  | deleteSnapshot id =>
    exact { ha with snapshot := fun key s hs => ha.snapshot key s (Keyed.get?_of_erase hs) }

end Numbered

/-! ## Sizes that hang together -/

/-- **Nested sizes**: a snapshot is no larger than its volume, and a clone no smaller than its
snapshot. -/
structure Nested (a : Loopback) : Prop where
  snapshot_le : ∀ id s v, a.snapshots.get? id = some s → a.volumes.get? s.volumeId = some v →
    s.sizeBytes ≤ v.sizeBytes
  le_clone : ∀ id v source s, a.volumes.get? id = some v → v.sourceSnapshotId = some source →
    a.snapshots.get? source = some s → s.sizeBytes ≤ v.sizeBytes

namespace Nested

theorem new (stem : String) (config : LoopbackConfig) : (Loopback.new stem config).Nested where
  snapshot_le := fun id s v h => by cases h
  le_clone := fun id v source s h => by cases h

/-- **Nested sizes stay nested** while the numbers have not come round. -/
theorem step (hnest : a.Nested) (hnum : a.Numbered stem n) (ha : a.Sound config)
    (h : Deed a next k) (hbound : n + k ≤ 2 ^ 64) : next.Nested := by
  cases h with
  | none => exact hnest
  | switch available => exact { hnest with }
  | @createVolume v hid hfits hhosts hsource =>
    have hfresh := hnum.fresh (by omega) .volume
    refine ⟨fun key s w hs hw => ?_, fun key w source s hw hsrc hs => ?_⟩
    · -- no snapshot is of the new volume: the volume of a snapshot is on the array already
      rcases Keyed.get?_of_insert hw with ⟨heq, -⟩ | hw
      · obtain ⟨old, hold⟩ := ha.source key s hs
        exact absurd (hnum.volume _ old hold) (heq ▸ hid ▸ hfresh)
      · exact hnest.snapshot_le key s w hs hw
    · rcases Keyed.get?_of_insert hw with ⟨-, rfl⟩ | hw
      · obtain ⟨place, t, ht, htid, hle⟩ := hsource source hsrc
        have hkey : place = source := (ha.snapshot_id place t ht).symm.trans htid
        subst hkey
        have : some t = some s := ht.symm.trans hs
        cases this
        exact hle
      · exact hnest.le_clone key w source s hw hsrc hs
  | @createSnapshot v s hid hv hsize =>
    have hfresh := hnum.fresh (by omega) .snapshot
    refine ⟨fun key t w ht hw => ?_, fun key w source t hw hsrc ht => ?_⟩
    · rcases Keyed.get?_of_insert ht with ⟨-, rfl⟩ | ht
      · have : some v = some w := hv.symm.trans hw
        cases this
        exact UInt64.le_of_eq hsize
      · exact hnest.snapshot_le key t w ht hw
    · -- no clone is of the new snapshot
      rcases Keyed.get?_of_insert ht with ⟨heq, -⟩ | ht
      · exact absurd (hnum.source key w source hw hsrc) (heq ▸ hid ▸ hfresh)
      · exact hnest.le_clone key w source t hw hsrc ht
  | @updateVolume id v w hv hw =>
    refine ⟨fun key s x hs hx => ?_, fun key x source s hx hsrc hs => ?_⟩
    · rcases Keyed.get?_of_insert hx with ⟨heq, rfl⟩ | hx
      · exact UInt64.le_trans (hnest.snapshot_le key s v hs (heq ▸ hv)) hw.grows
      · exact hnest.snapshot_le key s x hs hx
    · rcases Keyed.get?_of_insert hx with ⟨-, rfl⟩ | hx
      · exact UInt64.le_trans (hnest.le_clone id v source s hv (hw.source ▸ hsrc) hs) hw.grows
      · exact hnest.le_clone key x source s hx hsrc hs
  | deleteVolume hv hhosts hfree =>
    exact ⟨fun key s w hs hw => hnest.snapshot_le key s w hs (Keyed.get?_of_erase hw),
      fun key w source s hw => hnest.le_clone key w source s (Keyed.get?_of_erase hw)⟩
  | deleteSnapshot id =>
    exact ⟨fun key s w hs => hnest.snapshot_le key s w (Keyed.get?_of_erase hs),
      fun key w source s hw hsrc hs => hnest.le_clone key w source s hw hsrc (Keyed.get?_of_erase hs)⟩

end Nested

theorem Numbered.through (hnum : a.Numbered stem n) (ha : a.Sound config) (es : List Event) :
    (a.through es).Numbered stem (n + a.created es) := by
  induction es generalizing a n with
  | nil => exact hnum
  | cons e es ih =>
    have hstep := after_deed a e
    rw [created, ← Nat.add_assoc]
    exact ih (hnum.step ha hstep) (ha.step hstep)

theorem Nested.through (hnest : a.Nested) (hnum : a.Numbered stem n) (ha : a.Sound config)
    {es : List Event} (hbound : n + a.created es ≤ 2 ^ 64) : (a.through es).Nested := by
  induction es generalizing a n with
  | nil => exact hnest
  | cons e es ih =>
    have hstep := after_deed a e
    rw [created, ← Nat.add_assoc] at hbound
    exact ih (hnest.step hnum ha hstep (by omega)) (hnum.step ha hstep) (ha.step hstep) hbound

/-! ## Volumes that only grow -/

/-- Whatever volume an ID stands for has at least a size. -/
def AtLeast (a : Loopback) (id : String) (size : UInt64) : Prop :=
  ∀ v, a.volumes.get? id = some v → size ≤ v.sizeBytes

/-- **A volume does not shrink** while the numbers have not come round. -/
theorem AtLeast.step {size : UInt64} (h : a.AtLeast id size) (hid : Given stem n .volume id)
    (hnum : a.Numbered stem n) (hdeed : Deed a next k) (hbound : n + k ≤ 2 ^ 64) :
    next.AtLeast id size := by
  intro w hw
  cases hdeed with
  | none => exact h w hw
  | switch available => exact h w hw
  | createVolume hnew hfits hhosts hsource =>
    rcases Keyed.get?_of_insert hw with ⟨rfl, -⟩ | hw
    · exact absurd hid (hnew ▸ hnum.fresh (by omega) .volume)
    · exact h w hw
  | createSnapshot hnew hv hsize => exact h w hw
  | updateVolume hv hupdate =>
    rcases Keyed.get?_of_insert hw with ⟨rfl, rfl⟩ | hw
    · exact UInt64.le_trans (h _ hv) hupdate.grows
    · exact h w hw
  | deleteVolume hv hhosts hfree => exact h w (Keyed.get?_of_erase hw)
  | deleteSnapshot id => exact h w hw

theorem AtLeast.through {size : UInt64} (h : a.AtLeast id size) (hid : Given stem n .volume id)
    (hnum : a.Numbered stem n) (ha : a.Sound config) {es : List Event}
    (hbound : n + a.created es ≤ 2 ^ 64) : (a.through es).AtLeast id size := by
  induction es generalizing a n with
  | nil => exact h
  | cons e es ih =>
    have hstep := after_deed a e
    rw [created, ← Nat.add_assoc] at hbound
    exact ih (h.step hid hnum hstep (by omega)) (hid.mono (Nat.le_add_right _ _))
      (hnum.step ha hstep) (ha.step hstep) hbound

/-! ## Volumes that disappear -/

/-- An answer comes from serving the call. -/
theorem serve_of_perform {c : Call} {answer : c.Answer}
    (h : a.perform now c = (next, .ok answer)) : a.serve now c = .ok (next, answer) := by
  unfold perform at h
  cases ho : a.outage? with
  | some failure =>
    rw [ho] at h
    cases h
  | none =>
    cases hs : a.serve now c with
    | error failure =>
      rw [ho, hs] at h
      cases h
    | ok r =>
      rw [ho, hs] at h
      cases h
      rfl

theorem eq_deleteVolume {c : Call} (h : c.deleted = some (.volume, id)) : c = .deleteVolume id := by
  cases c <;> cases h
  rfl

/-- **A volume disappears** only by a delete that succeeds, without hosts and without snapshots. -/
theorem deleted_of_gone {e : Event} {v : Volume} (hv : a.volumes.get? id = some v)
    (hgone : (a.after e).volumes.get? id = none) :
    ∃ now, e = .call now (.deleteVolume id) ∧ (a.perform now (.deleteVolume id)).2 = .ok () ∧
      v.attachedHosts = [] ∧ ∀ s ∈ a.snapshots.values, s.volumeId ≠ id := by
  have hstill : ¬ (a.after e).volumes.get? id = some v := by
    rw [hgone]
    exact fun h => by cases h
  cases e with
  | list kind => exact absurd hv hstill
  | checkHealth => exact absurd hv hstill
  | switch available => exact absurd hv hstill
  | call now c =>
    rw [after] at hgone hstill
    rcases perform_change a now c with ⟨failure, hp⟩ | ⟨next, answer, hp, hchange⟩
    · rw [hp] at hstill
      exact absurd hv hstill
    · rw [hp] at hgone
      have hdeleted : c.deleted = some (.volume, id) := by
        refine Classical.byContradiction fun hne => ?_
        have hheld : a.holds .volume id = true := by simp [holds, Keyed.contains, hv]
        have hnext := (hchange.holds_iff .volume id).mpr (.inr ⟨hheld, hne⟩)
        simp [holds, Keyed.contains, hgone] at hnext
      obtain rfl := eq_deleteVolume hdeleted
      obtain ⟨w, hw, hhosts, hfree, -⟩ := free_of_deleteVolume (serve_of_perform hp)
      obtain rfl : v = w := Option.some.inj (hv.symm.trans hw)
      exact ⟨now, rfl, by rw [hp], hhosts, hfree⟩

/-! ## Runs from the empty array -/

/-- The array that a run makes of an empty one. -/
def ran (stem : String) (config : LoopbackConfig) (es : List Event) : Loopback :=
  (Loopback.new stem config).through es

theorem ran_sound (stem : String) (config : LoopbackConfig) (es : List Event) :
    (ran stem config es).Sound config := (Sound.new stem config).through es

theorem ran_numbered (stem : String) (config : LoopbackConfig) (es : List Event) :
    (ran stem config es).Numbered (config.idStem.getD stem)
      ((Loopback.new stem config).created es) := by
  have h := (Numbered.new stem config).through (Sound.new stem config) es
  rwa [Nat.zero_add] at h

/-- **What every run keeps.** At any time the array is sound, a volume that goes has been deleted with
nothing on it, and a call that fails changes nothing. As long as there are not more creations than
numbers, sizes are nested and no volume shrinks. -/
theorem run_keeps (stem : String) (config : LoopbackConfig) (es : List Event) :
    (ran stem config es).Sound config ∧
    (∀ e id v, (ran stem config es).volumes.get? id = some v →
      ((ran stem config es).after e).volumes.get? id = none →
      ∃ now, e = .call now (.deleteVolume id) ∧
        ((ran stem config es).perform now (.deleteVolume id)).2 = .ok () ∧
        v.attachedHosts = [] ∧ ∀ s ∈ (ran stem config es).snapshots.values, s.volumeId ≠ id) ∧
    (∀ now c failure, ((ran stem config es).perform now c).2 = .error failure →
      ((ran stem config es).perform now c).1 = ran stem config es) ∧
    ((Loopback.new stem config).created es ≤ 2 ^ 64 → (ran stem config es).Nested) ∧
    (∀ fs, (Loopback.new stem config).created (es ++ fs) ≤ 2 ^ 64 → ∀ id v w,
      (ran stem config es).volumes.get? id = some v →
      (ran stem config (es ++ fs)).volumes.get? id = some w → v.sizeBytes ≤ w.sizeBytes) := by
  refine ⟨ran_sound stem config es, fun e id v hv hgone => deleted_of_gone hv hgone,
    fun now c failure => perform_error, fun hbound => ?_, fun fs hbound id v w hv hw => ?_⟩
  · refine (Nested.new stem config).through (Numbered.new stem config) (Sound.new stem config) ?_
    rw [Nat.zero_add]
    exact hbound
  · have hnum := ran_numbered stem config es
    have hleast : (ran stem config es).AtLeast id v.sizeBytes := by
      intro x hx
      rw [hv] at hx
      cases hx
      exact UInt64.le_refl _
    rw [created_append] at hbound
    rw [ran, through_append] at hw
    exact hleast.through (hnum.volume id v hv) hnum (ran_sound stem config es) hbound w hw

/-- A run that creates a volume, takes a snapshot of it and clones that with a smaller size. -/
def cloning : List Event :=
  [.call default (.createVolume ⟨"data", 10, .new, .empty, .empty⟩),
    .call default (.createSnapshot ⟨"before", "array-vol-000001"⟩),
    .call default (.createVolume ⟨"copy", 4, .snapshot "array-snap-000002", .empty, .empty⟩)]

/-- The growth of the first of these volumes. -/
def growing : List Event := [.call default (.resizeVolume ⟨"array-vol-000001", 20⟩)]

theorem cloning_keeps :
    (Loopback.new "array" .default).created cloning = 3 ∧ (ran "array" .default cloning).Nested ∧
      ((ran "array" .default cloning).volumes.get? "array-vol-000003").map (·.sizeBytes) = some 10 ∧
      (ran "array" .default cloning).volumes.get? "array-vol-000001" =
        some ⟨"array-vol-000001", "data", 10, none, [], .empty, default, none⟩ ∧
      (ran "array" .default (cloning ++ growing)).volumes.get? "array-vol-000001" =
        some ⟨"array-vol-000001", "data", 20, none, [], .empty, default, none⟩ ∧
      (10 : UInt64) ≤ 20 := by
  obtain ⟨-, -, -, hnested, hgrows⟩ := run_keeps "array" .default cloning
  refine ⟨by decide +kernel, hnested (by decide +kernel), by decide +kernel, by decide +kernel,
    by decide +kernel, ?_⟩
  exact hgrows growing (by decide +kernel) "array-vol-000001"
    ⟨"array-vol-000001", "data", 10, none, [], .empty, default, none⟩
    ⟨"array-vol-000001", "data", 20, none, [], .empty, default, none⟩ (by decide +kernel)
    (by decide +kernel)

end Loopback

end FederatedStorage
