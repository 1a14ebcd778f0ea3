import FederatedStorage.Backend.Loopback

/-!
# What a loopback array holds

The IDs of a loopback array's resources tell their array and their kind: the number and the kind
stand at the end and have no dash in them, so the rest is the array's stem. A call puts at most one
resource on the array, under such an ID, or takes at most one off.

## Main statements

* `Loopback.resourceId_inj`: an ID tells the stem and the kind.
* `Loopback.perform_change`, `Loopback.Change.holds_iff`: what an array holds after a call.
* `Loopback.Tidy.change`: a tidy array stays tidy.
-/

namespace FederatedStorage

/-! ## Things under their own IDs -/

namespace Keyed

variable {α : Type} {m : Keyed α} {own : α → String} {k : String} {x : α}

theorem own_insert (h : ∀ id y, m.get? id = some y → own y = id) (hx : own x = k) (id : String)
    (y : α) (hy : (m.insert k x).get? id = some y) : own y = id := by
  rw [get?_insert] at hy
  split at hy
  · next he => rw [he, ← Option.some.inj hy, hx]
  · exact h id y hy

theorem own_erase (h : ∀ id y, m.get? id = some y → own y = id) (id : String) (y : α)
    (hy : (m.erase k).get? id = some y) : own y = id := by
  rw [get?_erase] at hy
  split at hy
  · cases hy
  · exact h id y hy

/-- The things that are there are those that are found. -/
theorem exists_own_iff (h : ∀ id y, m.get? id = some y → own y = id) :
    (∃ y ∈ m.values, own y = k) ↔ m.contains k = true := by
  rw [contains, Option.isSome_iff_exists]
  constructor
  · rintro ⟨y, hy, rfl⟩
    obtain ⟨e, he, rfl⟩ := List.mem_map.mp hy
    have hget := get?_eq_some_iff.mpr he
    exact ⟨_, h _ _ hget ▸ hget⟩
  · rintro ⟨y, hy⟩
    exact ⟨y, List.mem_map.mpr ⟨_, get?_eq_some_iff.mp hy, rfl⟩, h k y hy⟩

end Keyed

/-! ## Calls that create or delete -/

/-- What goes on after a success. -/
theorem bind_eq_ok {ε α β : Type} {x : Except ε α} {f : α → Except ε β} {b : β}
    (h : x >>= f = .ok b) : ∃ y, x = .ok y ∧ f y = .ok b := by
  cases x with
  | error e => cases h
  | ok y => exact ⟨y, rfl, h⟩

namespace Call

/-- The resource that a call has created, as the answer says. -/
def created : (c : Call) → c.Answer → Option (ResourceKind × String)
  | .createVolume _, v => some (.volume, v.id)
  | .createSnapshot _, s => some (.snapshot, s.id)
  | _, _ => none

/-- The resource that a call deletes. -/
def deleted : Call → Option (ResourceKind × String)
  | .deleteVolume id => some (.volume, id)
  | .deleteSnapshot id => some (.snapshot, id)
  | _ => none

end Call

namespace Loopback

variable {a next : Loopback} {now : Time.Timestamp} {kind : ResourceKind} {id : String}

/-! ## IDs -/

/-- Texts that are equal up to a last dash are equal before and after it. -/
theorem append_dash_inj {l m t u : List Char} (h : l ++ '-' :: t = m ++ '-' :: u) (ht : '-' ∉ t)
    (hu : '-' ∉ u) : l = m ∧ t = u := by
  -- one of the two fronts is the longer one; what it has more would have a dash in it
  rcases List.append_eq_append_iff.mp h with ⟨x, hm, hx⟩ | ⟨x, hl, hx⟩
  · cases x with
    | nil =>
      rw [List.nil_append, List.cons.injEq] at hx
      rw [hm, List.append_nil]
      exact ⟨rfl, hx.2⟩
    | cons c x =>
      rw [List.cons_append, List.cons.injEq] at hx
      exact absurd (by rw [hx.2]; simp) ht
  · cases x with
    | nil =>
      rw [List.nil_append, List.cons.injEq] at hx
      rw [hl, List.append_nil]
      exact ⟨rfl, hx.2.symm⟩
    | cons c x =>
      rw [List.cons_append, List.cons.injEq] at hx
      exact absurd (by rw [hx.2]; simp) hu

theorem dash_not_mem_paddedNumber (n : Nat) : '-' ∉ (paddedNumber n).toList := by
  intro h
  rw [paddedNumber, String.toList_append, String.toList_ofList, List.mem_append] at h
  rcases h with h | h
  · cases List.eq_of_mem_replicate h
  · have hdigit := Nat.isDigit_of_mem_toDigits (by decide) (by decide)
      (Nat.toList_repr ▸ h : '-' ∈ Nat.toDigits 10 n)
    exact absurd hdigit (by decide)

theorem dash_not_mem_idKind (kind : ResourceKind) : '-' ∉ (idKind kind).toList := by
  cases kind <;> decide

theorem idKind_inj {k l : ResourceKind} (h : (idKind k).toList = (idKind l).toList) : k = l := by
  revert h
  cases k <;> cases l <;> decide

/-- **An ID tells the stem and the kind** that it was made of. -/
theorem resourceId_inj {s t : String} {k l : ResourceKind} {m n : Nat}
    (h : resourceId s (idKind k) m = resourceId t (idKind l) n) : s = t ∧ k = l := by
  have hlist : (s.toList ++ '-' :: (idKind k).toList) ++ '-' :: (paddedNumber m).toList =
      (t.toList ++ '-' :: (idKind l).toList) ++ '-' :: (paddedNumber n).toList := by
    simpa [resourceId, String.toList_append] using congrArg String.toList h
  -- first the number comes off the end, then the kind
  obtain ⟨hfront, -⟩ :=
    append_dash_inj hlist (dash_not_mem_paddedNumber m) (dash_not_mem_paddedNumber n)
  obtain ⟨hstem, hkind⟩ := append_dash_inj hfront (dash_not_mem_idKind k) (dash_not_mem_idKind l)
  exact ⟨String.toList_injective hstem, idKind_inj hkind⟩

/-! ## Holdings -/

/-- Whether an array holds a resource. -/
def holds (a : Loopback) : ResourceKind → String → Bool
  | .volume, id => a.volumes.contains id
  | .snapshot, id => a.snapshots.contains id

theorem holds_of_findVolume {v : Volume} (h : a.findVolume id = .ok v) :
    a.volumes.get? id = some v ∧ a.holds .volume id = true := by
  unfold findVolume at h
  cases hv : a.volumes.get? id with
  | none =>
    rw [hv] at h
    cases h
  | some w =>
    rw [hv] at h
    cases h
    exact ⟨rfl, by simp [holds, Keyed.contains, hv]⟩

theorem holds_of_findSnapshot {s : Snapshot} (h : a.findSnapshot id = .ok s) :
    a.snapshots.get? id = some s ∧ a.holds .snapshot id = true := by
  unfold findSnapshot at h
  cases hs : a.snapshots.get? id with
  | none =>
    rw [hs] at h
    cases h
  | some w =>
    rw [hs] at h
    cases h
    exact ⟨rfl, by simp [holds, Keyed.contains, hs]⟩

/-! ## Calls -/

/-- **How a call may change an array**, and which resource it creates or deletes. -/
inductive Change (a : Loopback) :
    Loopback → Option (ResourceKind × String) → Option (ResourceKind × String) → Prop
  | same : Change a a none none
  | createVolume {v : Volume} (hid : v.id = a.nextId .volume) :
      Change a (a.useNumber.putVolume v) (some (.volume, v.id)) none
  | createSnapshot {s : Snapshot} (hid : s.id = a.nextId .snapshot) :
      Change a (a.useNumber.putSnapshot s) (some (.snapshot, s.id)) none
  | updateVolume {id : String} {v w : Volume} (hv : a.findVolume id = .ok v) (hid : w.id = v.id) :
      Change a { a with volumes := a.volumes.insert id w } none none
  | deleteVolume {id : String} {v : Volume} (hv : a.findVolume id = .ok v) :
      Change a (a.evictVolume id) none (some (.volume, id))
  | deleteSnapshot {id : String} {s : Snapshot} (hs : a.findSnapshot id = .ok s) :
      Change a { a with snapshots := a.snapshots.erase id } none (some (.snapshot, id))

theorem createVolume_change {r : CreateVolume} {v : Volume}
    (h : a.createVolume now r = .ok (next, v)) : Change a next (some (.volume, v.id)) none := by
  obtain ⟨⟨size, source⟩, -, h⟩ := bind_eq_ok h
  obtain ⟨-, -, h⟩ := bind_eq_ok h
  cases h
  exact .createVolume rfl

theorem createSnapshot_change {r : CreateSnapshot} {s : Snapshot}
    (h : a.createSnapshot now r = .ok (next, s)) :
    Change a next (some (.snapshot, s.id)) none := by
  obtain ⟨v, -, h⟩ := bind_eq_ok h
  cases h
  exact .createSnapshot rfl

theorem resizeVolume_change {r : ResizeVolume} {v : Volume}
    (h : a.resizeVolume r = .ok (next, v)) : Change a next none none := by
  obtain ⟨-, -, h⟩ := bind_eq_ok h
  obtain ⟨old, hold, h⟩ := bind_eq_ok h
  split at h
  · cases h
  · cases h
    exact .updateVolume hold rfl

theorem attachVolume_change {l : HostLink} {x : Attachment}
    (h : a.attachVolume l = .ok (next, x)) : Change a next none none := by
  obtain ⟨old, hold, h⟩ := bind_eq_ok h
  cases h
  exact .updateVolume hold rfl

theorem detachVolume_change {l : HostLink} {x : Unit}
    (h : a.detachVolume l = .ok (next, x)) : Change a next none none := by
  obtain ⟨old, hold, h⟩ := bind_eq_ok h
  split at h
  · cases h
    exact .updateVolume hold rfl
  · cases h

theorem deleteVolume_change {x : Unit} (h : a.deleteVolume id = .ok (next, x)) :
    Change a next none (some (.volume, id)) := by
  obtain ⟨old, hold, h⟩ := bind_eq_ok h
  split at h
  · cases h
  · split at h
    · cases h
    · cases h
      exact .deleteVolume hold

theorem deleteSnapshot_change {x : Unit} (h : a.deleteSnapshot id = .ok (next, x)) :
    Change a next none (some (.snapshot, id)) := by
  obtain ⟨old, hold, h⟩ := bind_eq_ok h
  cases h
  exact .deleteSnapshot hold

theorem unchanged_change {α : Type} {x : Except Failure α} {y : α}
    (h : a.unchanged x = .ok (next, y)) : Change a next none none := by
  cases x with
  | error failure => cases h
  | ok z =>
    cases h
    exact .same

/-- **A call that succeeds** changes the array in one of these ways. -/
theorem serve_change {c : Call} {answer : c.Answer} (h : a.serve now c = .ok (next, answer)) :
    Change a next (c.created answer) c.deleted := by
  cases c with
  | getVolume id => exact unchanged_change h
  | createVolume r => exact createVolume_change h
  | resizeVolume r => exact resizeVolume_change h
  | deleteVolume id => exact deleteVolume_change h
  | attachVolume l => exact attachVolume_change h
  | detachVolume l => exact detachVolume_change h
  | getSnapshot id => exact unchanged_change h
  | createSnapshot r => exact createSnapshot_change h
  | deleteSnapshot id => exact deleteSnapshot_change h

/-- **A call changes the array if it succeeds**, and else leaves it as it is. -/
theorem perform_change (a : Loopback) (now : Time.Timestamp) (c : Call) :
    (∃ failure, a.perform now c = (a, .error failure)) ∨
      ∃ next answer, a.perform now c = (next, .ok answer) ∧
        Change a next (c.created answer) c.deleted := by
  unfold perform
  cases a.outage? with
  | some failure => exact Or.inl ⟨failure, rfl⟩
  | none =>
    cases hs : a.serve now c with
    | error failure => exact Or.inl ⟨failure, rfl⟩
    | ok r => exact Or.inr ⟨r.1, r.2, rfl, serve_change hs⟩

namespace Change

variable {created deleted : Option (ResourceKind × String)}

theorem stem (h : Change a next created deleted) : next.stem = a.stem := by
  cases h <;> rfl

theorem available (h : Change a next created deleted) : next.available = a.available := by
  cases h <;> rfl

/-- **What an array holds after a call**: what it held and has not deleted, and what it created. -/
theorem holds_iff (h : Change a next created deleted) (kind : ResourceKind) (id : String) :
    next.holds kind id = true ↔
      created = some (kind, id) ∨ a.holds kind id = true ∧ deleted ≠ some (kind, id) := by
  cases h with
  | same => simp
  | @createVolume v hid =>
    cases kind with
    | volume =>
      by_cases he : id = v.id
      · simp [holds, Keyed.contains, putVolume, he]
      · simp [holds, Keyed.contains, putVolume, useNumber, he, Ne.symm he]
    | snapshot => simp [holds, putVolume, useNumber]
  | @createSnapshot s hid =>
    cases kind with
    | snapshot =>
      by_cases he : id = s.id
      · simp [holds, Keyed.contains, putSnapshot, he]
      · simp [holds, Keyed.contains, putSnapshot, useNumber, he, Ne.symm he]
    | volume => simp [holds, putSnapshot, useNumber]
  | @updateVolume x v w hv hid =>
    cases kind with
    | volume =>
      obtain ⟨hget, -⟩ := holds_of_findVolume hv
      by_cases he : id = x
      · simp [holds, Keyed.contains, he, hget]
      · simp [holds, Keyed.contains, he]
    | snapshot => simp [holds]
  | @deleteVolume x v hv =>
    cases kind with
    | volume =>
      by_cases he : id = x
      · simp [holds, Keyed.contains, evictVolume, he]
      · simp [holds, Keyed.contains, evictVolume, he, Ne.symm he]
    | snapshot => simp [holds, evictVolume]
  | @deleteSnapshot x s hs =>
    cases kind with
    | snapshot =>
      by_cases he : id = x
      · simp [holds, Keyed.contains, he]
      · simp [holds, Keyed.contains, he, Ne.symm he]
    | volume => simp [holds]

/-- What is deleted was there. -/
theorem held (h : Change a next created (some (kind, id))) : a.holds kind id = true := by
  cases h with
  | deleteVolume hv => exact (holds_of_findVolume hv).2
  | deleteSnapshot hs => exact (holds_of_findSnapshot hs).2

/-- What is created has an ID of the array. -/
theorem named (h : Change a next (some (kind, id)) deleted) : id = a.nextId kind := by
  cases h with
  | createVolume hid => exact hid
  | createSnapshot hid => exact hid

end Change

/-! ## Tidy arrays -/

/-- **A tidy array** answers, keeps its resources under their IDs, and has named them all. -/
structure Tidy (a : Loopback) : Prop where
  available : a.available = true
  volume_id : ∀ id v, a.volumes.get? id = some v → v.id = id
  snapshot_id : ∀ id s, a.snapshots.get? id = some s → s.id = id
  named : ∀ kind id, a.holds kind id = true → ∃ n, id = resourceId a.stem (idKind kind) n

namespace Tidy

/-- An empty array is tidy. -/
theorem new (stem : String) (config : LoopbackConfig) : (Loopback.new stem config).Tidy := by
  refine ⟨rfl, fun id v h => ?_, fun id s h => ?_, fun kind id h => ?_⟩
  · cases h
  · cases h
  · cases kind <;> cases h

/-- **A tidy array stays tidy.** -/
theorem change {created deleted : Option (ResourceKind × String)} (ha : a.Tidy)
    (h : Change a next created deleted) : next.Tidy := by
  refine ⟨h.available.trans ha.available, fun id v hv => ?_, fun id s hs => ?_,
    fun kind id hk => ?_⟩
  · cases h with
    | createVolume hid => exact Keyed.own_insert ha.volume_id rfl id v hv
    | updateVolume hold hid =>
      have hkey := ha.volume_id _ _ (holds_of_findVolume hold).1
      exact Keyed.own_insert ha.volume_id (hid.trans hkey) id v hv
    | deleteVolume => exact Keyed.own_erase ha.volume_id id v hv
    | same => exact ha.volume_id id v hv
    | createSnapshot => exact ha.volume_id id v hv
    | deleteSnapshot => exact ha.volume_id id v hv
  · cases h with
    | createSnapshot hid => exact Keyed.own_insert ha.snapshot_id rfl id s hs
    | deleteSnapshot => exact Keyed.own_erase ha.snapshot_id id s hs
    | same => exact ha.snapshot_id id s hs
    | createVolume => exact ha.snapshot_id id s hs
    | updateVolume => exact ha.snapshot_id id s hs
    | deleteVolume => exact ha.snapshot_id id s hs
  · rw [h.stem]
    rcases (h.holds_iff kind id).mp hk with rfl | ⟨hold, -⟩
    · exact ⟨_, h.named⟩
    · exact ha.named kind id hold

theorem outage? (ha : a.Tidy) : a.outage? = none := by
  unfold Loopback.outage?
  rw [if_pos ha.available]

/-- A tidy array answers a call that changes nothing. -/
theorem perform_unchanged (ha : a.Tidy) {c : Call} {x : Except Failure c.Answer}
    (hserve : a.serve now c = a.unchanged x) : a.perform now c = (a, x) := by
  unfold perform
  rw [ha.outage?, hserve]
  cases x <;> rfl

theorem getVolume (ha : a.Tidy) (now : Time.Timestamp) (id : String) :
    a.perform now (.getVolume id) = (a, a.findVolume id) := ha.perform_unchanged rfl

theorem getSnapshot (ha : a.Tidy) (now : Time.Timestamp) (id : String) :
    a.perform now (.getSnapshot id) = (a, a.findSnapshot id) := ha.perform_unchanged rfl

/-- The volumes of a tidy array are those that it holds. -/
theorem exists_volume_iff (ha : a.Tidy) :
    (∃ v ∈ a.volumes.values, v.id = id) ↔ a.holds .volume id = true :=
  Keyed.exists_own_iff ha.volume_id

/-- The snapshots of a tidy array are those that it holds. -/
theorem exists_snapshot_iff (ha : a.Tidy) :
    (∃ s ∈ a.snapshots.values, s.id = id) ↔ a.holds .snapshot id = true :=
  Keyed.exists_own_iff ha.snapshot_id

/-- A tidy array lists what it holds. -/
theorem list (ha : a.Tidy) (kind : ResourceKind) :
    a.list kind = .ok (match kind with
      | .volume => a.volumes.values
      | .snapshot => a.snapshots.values) := by
  unfold Loopback.list
  rw [ha.outage?]
  cases kind <;> rfl

end Tidy

end Loopback

end FederatedStorage
