import FederatedStorage.Proofs.Backend.LoopbackRun

/-!
# One creation too many

The numbers of a loopback array have 64 bits. After `2 ^ 64` creations they come round, and what is
created then takes the place of what had its number before. So the bounds between sizes are those of
runs that create no more than that: here is a run that does, with as many creations as there are
numbers, and what one creation more makes of it. All volumes but the first are there only to use up
numbers; nothing is known of them but their size.

## Main statements

* `Loopback.Filled`: what is known of an array on which volumes of one size are created.
* `Loopback.sizes_after_wrap`: what becomes of the sizes by one creation too many.
-/

namespace FederatedStorage.Loopback

variable {a : Loopback} {n : Nat} {held : Keyed Snapshot} {size : UInt64}

/-! ## Single events -/

/-- The creation of a volume. -/
def creation (r : CreateVolume) : Event := .call default (.createVolume r)

/-- The volume that it creates. -/
def made (a : Loopback) (r : CreateVolume) (size : UInt64) (source : Option String) : Volume :=
  ⟨a.nextId .volume, r.name, size, source, [], r.labels, default, none⟩

/-- The growth of a volume. -/
def resizing (id : String) (size : UInt64) : Event := .call default (.resizeVolume ⟨id, size⟩)

/-- A snapshot of a volume. -/
def snapping (id : String) : Event := .call default (.createSnapshot ⟨"", id⟩)

/-- An array that takes whatever size is positive. -/
structure Unlimited (a : Loopback) : Prop where
  available : a.available = true
  config : a.config = .default

theorem Unlimited.checkSize (ha : a.Unlimited) (operation : String) (hpos : size ≠ 0) :
    a.checkSize operation size = .ok () := by
  rw [Loopback.checkSize, if_neg hpos, ha.config]
  rfl

theorem Unlimited.perform (ha : a.Unlimited) (now : Time.Timestamp) {c : Call} {next : Loopback}
    {answer : c.Answer} (h : a.serve now c = .ok (next, answer)) :
    a.perform now c = (next, .ok answer) := by
  unfold Loopback.perform outage?
  rw [if_pos ha.available]
  dsimp only
  rw [h]

theorem after_creation (ha : a.Unlimited) {r : CreateVolume} {source : Option String}
    (hplanned : a.plannedSize r = .ok (size, source)) (hpos : size ≠ 0) :
    a.after (creation r) = a.useNumber.putVolume (a.made r size source) ∧
      a.creates (creation r) = 1 := by
  have hserve : a.serve default (.createVolume r) =
      .ok (a.useNumber.putVolume (a.made r size source), a.made r size source) := by
    show a.createVolume default r = _
    unfold createVolume
    rw [hplanned]
    show (a.checkSize "create_volume" size >>= fun _ => _) = _
    rw [ha.checkSize _ hpos]
    rfl
  have hperform := ha.perform default hserve
  rw [creation, after, creates, hperform]
  exact ⟨rfl, rfl⟩

theorem findVolume_of_get? {id : String} {v : Volume} (hv : a.volumes.get? id = some v) :
    a.findVolume id = .ok v := by
  unfold findVolume
  rw [hv]

theorem after_resizing (ha : a.Unlimited) {v : Volume} (hv : a.volumes.get? v.id = some v)
    (hpos : size ≠ 0) (hgrows : v.sizeBytes ≤ size) :
    a.after (resizing v.id size) = a.putVolume { v with sizeBytes := size } := by
  have hserve : a.serve default (.resizeVolume ⟨v.id, size⟩) =
      .ok (a.putVolume { v with sizeBytes := size }, { v with sizeBytes := size }) := by
    show a.resizeVolume ⟨v.id, size⟩ = _
    unfold resizeVolume
    rw [ha.checkSize _ hpos, findVolume_of_get? hv]
    exact if_neg (UInt64.not_lt.mpr hgrows)
  have hperform := ha.perform default hserve
  rw [resizing, after, hperform]

theorem after_snapping (ha : a.Unlimited) {id : String} {v : Volume}
    (hv : a.volumes.get? id = some v) :
    a.after (snapping id) =
      a.useNumber.putSnapshot ⟨a.nextId .snapshot, "", id, v.sizeBytes, default, none⟩ := by
  have hserve : a.serve default (.createSnapshot ⟨"", id⟩) =
      .ok (a.useNumber.putSnapshot ⟨a.nextId .snapshot, "", id, v.sizeBytes, default, none⟩,
        ⟨a.nextId .snapshot, "", id, v.sizeBytes, default, none⟩) := by
    show a.createSnapshot default ⟨"", id⟩ = _
    unfold createSnapshot
    rw [findVolume_of_get? hv]
    rfl
  have hperform := ha.perform default hserve
  rw [snapping, after, hperform]

/-! ## Using up the numbers -/

/-- **An array that fills up**: `n` numbers are used, all volumes have two bytes, the first among them,
and the snapshots are the given ones. -/
structure Filled (held : Keyed Snapshot) (n : Nat) (a : Loopback) : Prop extends Unlimited a where
  stem : a.stem = "array"
  next : a.nextNumber = numberAfter n
  size : ∀ id v, a.volumes.get? id = some v → v.sizeBytes = 2
  first : ∃ v, a.volumes.get? "array-vol-000001" = some v
  snapshots : a.snapshots = held

/-- Another volume of two bytes. -/
theorem Filled.more (ha : a.Filled held n) {r : CreateVolume} {source : Option String}
    (hplanned : a.plannedSize r = .ok (2, source)) :
    (a.after (creation r)).Filled held (n + 1) ∧ a.creates (creation r) = 1 ∧
      (a.after (creation r)).volumes.get? (a.nextId .volume) = some (a.made r 2 source) := by
  obtain ⟨hafter, hcount⟩ := after_creation ha.toUnlimited hplanned (by decide)
  rw [hafter]
  refine ⟨⟨⟨ha.available, ha.config⟩, ha.stem, ?_, fun id v hv => ?_, ?_, ha.snapshots⟩, hcount, ?_⟩
  · rw [numberAfter_succ, ← ha.next]
    rfl
  · rcases Keyed.get?_of_insert hv with ⟨-, rfl⟩ | hv
    · rfl
    · exact ha.size id v hv
  · rw [putVolume, Keyed.get?_insert]
    split
    · exact ⟨_, rfl⟩
    · exact ha.first
  · simp [putVolume, made]

/-- A volume of its own. -/
def plain (size : UInt64) : CreateVolume := ⟨"", size, .new, .empty, .empty⟩

theorem plannedSize_plain (a : Loopback) (size : UInt64) :
    a.plannedSize (plain size) = .ok (size, none) := rfl

/-- **Any number of volumes of two bytes.** -/
theorem Filled.through (ha : a.Filled held n) (k : Nat) :
    (a.through (List.replicate k (creation (plain 2)))).Filled held (n + k) ∧
      a.created (List.replicate k (creation (plain 2))) = k := by
  induction k with
  | zero => exact ⟨ha, rfl⟩
  | succ k ih =>
    obtain ⟨hfilled, hcount⟩ := ih
    obtain ⟨hnext, hone, -⟩ := hfilled.more (plannedSize_plain _ 2)
    rw [List.replicate_succ', through_append, created_append, hcount]
    refine ⟨hnext, ?_⟩
    show k + ((a.through (List.replicate k (creation (plain 2)))).creates _ + 0) = k + 1
    rw [hone]

/-! ## The run -/

/-- A volume of two bytes, and a snapshot of it. -/
def opening : List Event := [creation (plain 2), snapping "array-vol-000001"]

/-- A clone of that snapshot. -/
def cloned : CreateVolume := ⟨"", 1, .snapshot "array-snap-000002", .empty, .empty⟩

/-- **A run of creations**: so many between the first two and the last, a clone of the snapshot. -/
def filling (between : Nat) : List Event :=
  opening ++ (List.replicate between (creation (plain 2)) ++ [creation cloned])

/-- One creation more: when the numbers have come round it gets that of the first volume. What that
becomes then grows, and a snapshot of it gets the number of the first snapshot. -/
def overtaking : List Event :=
  [creation (plain 1), resizing "array-vol-000001" 9, snapping "array-vol-000001"]

/-- The snapshot with which the run begins. -/
def firstSnapshot : Snapshot := ⟨"array-snap-000002", "", "array-vol-000001", 2, default, none⟩

/-- The only snapshot then. -/
def firstHeld : Keyed Snapshot := Keyed.empty.insert "array-snap-000002" firstSnapshot

theorem filled_opening : (ran "array" .default opening).Filled firstHeld 2 := by
  have hvolumes : (ran "array" .default opening).volumes =
      Keyed.empty.insert "array-vol-000001"
        ((Loopback.new "array" .default).made (plain 2) 2 none) := by decide +kernel
  refine ⟨⟨rfl, rfl⟩, rfl, by decide +kernel, fun id v hv => ?_, ?_, by decide +kernel⟩
  · rw [hvolumes] at hv
    rcases Keyed.get?_of_insert hv with ⟨-, rfl⟩ | hv
    · rfl
    · cases hv
  · simp [hvolumes]

/-- **What the run leaves**, with the clone under the last number. -/
theorem filled_filling (between : Nat) :
    (ran "array" .default (filling between)).Filled firstHeld (between + 3) ∧
      (Loopback.new "array" .default).created (filling between) = between + 3 ∧
      ∃ w, (ran "array" .default (filling between)).volumes.get?
          (resourceId "array" "vol" (numberAfter (between + 2)).toNat) = some w ∧
        w.sizeBytes = 2 ∧ w.sourceSnapshotId = some "array-snap-000002" := by
  obtain ⟨hfilled, hcount⟩ := filled_opening.through between
  rw [Nat.add_comm 2] at hfilled
  let full := (ran "array" .default opening).through (List.replicate between (creation (plain 2)))
  have hend : ran "array" .default (filling between) = full.after (creation cloned) := by
    rw [ran, filling, through_append, through_append]
    rfl
  have hplanned : full.plannedSize cloned = .ok (2, some "array-snap-000002") := by
    unfold plannedSize findSnapshot
    rw [hfilled.snapshots]
    rfl
  obtain ⟨hnext, hone, hclone⟩ := hfilled.more hplanned
  have hid : full.nextId .volume =
      resourceId "array" "vol" (numberAfter (between + 2)).toNat := by
    rw [nextId, hfilled.stem, hfilled.next]
    rfl
  rw [hend]
  refine ⟨hnext, ?_, _, hid ▸ hclone, rfl, rfl⟩
  have hopening : (Loopback.new "array" .default).created opening = 2 := by decide +kernel
  have hfill : ((Loopback.new "array" .default).through opening).created
      (List.replicate between (creation (plain 2))) = between := hcount
  have hlast : (((Loopback.new "array" .default).through opening).through
      (List.replicate between (creation (plain 2)))).created [creation cloned] = 1 := by
    rw [created, created, Nat.add_zero]
    exact hone
  rw [filling, created_append, created_append, hopening, hfill, hlast]
  omega

/-! ## Numbers that have come round -/

/-- The volume that gets the number of the first. -/
def usurper : Volume := ⟨"array-vol-000001", "", 1, none, [], .empty, default, none⟩

/-- The snapshot that gets the number of the first. -/
def latterSnapshot : Snapshot := ⟨"array-snap-000002", "", "array-vol-000001", 9, default, none⟩

theorem get?_usurper (a : Loopback) :
    (a.useNumber.putVolume usurper).volumes.get? usurper.id = some usurper := by
  simp [putVolume]

/-- The number of the first volume is given to another. -/
theorem Filled.after_plain (ha : a.Filled held n) (hnext : a.nextNumber = 1) :
    a.after (creation (plain 1)) = a.useNumber.putVolume usurper := by
  obtain ⟨hafter, -⟩ := after_creation ha.toUnlimited (plannedSize_plain a 1) (by decide)
  have hid : a.nextId .volume = "array-vol-000001" := by
    rw [nextId, ha.stem, hnext]
    decide +kernel
  rw [hafter, made, hid]
  rfl

/-- That volume when it has grown. -/
def grown : Volume := { usurper with sizeBytes := 9 }

/-- The array after that, after the growth of the volume and after the snapshot of it. -/
def overtaken (a : Loopback) : Loopback :=
  ((a.useNumber.putVolume usurper).putVolume grown).useNumber.putSnapshot latterSnapshot

/-- **Its first volume is another**, and its first snapshot too. -/
theorem Filled.through_overtaking (ha : a.Filled held n) (hnext : a.nextNumber = 1) :
    a.through overtaking = a.overtaken := by
  have honce : (a.useNumber.putVolume usurper).Unlimited := ⟨ha.available, ha.config⟩
  have htwice : ((a.useNumber.putVolume usurper).putVolume grown).Unlimited := ⟨ha.available, ha.config⟩
  have hgrown : ((a.useNumber.putVolume usurper).putVolume grown).volumes.get? "array-vol-000001" =
      some grown := by
    simp [putVolume, usurper, grown]
  have hid : ((a.useNumber.putVolume usurper).putVolume grown).nextId .snapshot =
      "array-snap-000002" := by
    show resourceId a.stem "snap" (a.nextNumber + 1).toNat = _
    rw [ha.stem, hnext]
    decide +kernel
  have hresized : (a.useNumber.putVolume usurper).after (resizing "array-vol-000001" 9) =
      (a.useNumber.putVolume usurper).putVolume grown :=
    after_resizing honce (get?_usurper a) (by decide) (by decide)
  rw [overtaking, through_cons, through_cons, through_cons, through_nil, ha.after_plain hnext,
    hresized, after_snapping htwice hgrown, hid]
  rfl

/-- **No bound between sizes survives one creation more** after a run: a volume shrinks, and a snapshot
is larger than its volume; and in the end a snapshot is larger than a clone of it. -/
structure Outgrown (es : List Event) : Prop where
  created : (Loopback.new "array" .default).created es = 2 ^ 64
  shrinks : ∃ v w, (ran "array" .default es).volumes.get? "array-vol-000001" = some v ∧
    (ran "array" .default (es ++ [creation (plain 1)])).volumes.get? "array-vol-000001" = some w ∧
    w.sizeBytes < v.sizeBytes
  snapshot : ∃ s w,
    (ran "array" .default (es ++ [creation (plain 1)])).snapshots.get? "array-snap-000002" = some s ∧
    (ran "array" .default (es ++ [creation (plain 1)])).volumes.get? s.volumeId = some w ∧
    w.sizeBytes < s.sizeBytes
  clone : ∃ w s,
    (ran "array" .default (es ++ overtaking)).volumes.get? "array-vol-000000" = some w ∧
    w.sourceSnapshotId = some "array-snap-000002" ∧
    (ran "array" .default (es ++ overtaking)).snapshots.get? "array-snap-000002" = some s ∧
    w.sizeBytes < s.sizeBytes

/-- That is so once there are as many creations as numbers. -/
theorem outgrown_filling {between : Nat} (hsum : between + 3 = 2 ^ 64) :
    Outgrown (filling between) := by
  obtain ⟨hfilled, hcount, w, hw, hsize, hsource⟩ := filled_filling between
  have hclone : resourceId "array" "vol" (numberAfter (between + 2)).toNat = "array-vol-000000" := by
    have hround : numberAfter (between + 2) = UInt64.ofNat (2 ^ 64) := congrArg UInt64.ofNat hsum
    rw [hround]
    decide +kernel
  rw [hclone] at hw
  have hnext : (ran "array" .default (filling between)).nextNumber = 1 := by
    rw [hfilled.next, hsum]
    decide +kernel
  have honce : ran "array" .default (filling between ++ [creation (plain 1)]) =
      (ran "array" .default (filling between)).useNumber.putVolume usurper := by
    rw [ran, through_append]
    exact hfilled.after_plain hnext
  have hlast : ran "array" .default (filling between ++ overtaking) =
      (ran "array" .default (filling between)).overtaken := by
    rw [ran, through_append]
    exact hfilled.through_overtaking hnext
  have husurper := get?_usurper (ran "array" .default (filling between))
  have hheld : (ran "array" .default (filling between)).snapshots.get? "array-snap-000002" =
      some firstSnapshot := by
    simp [hfilled.snapshots, firstHeld]
  have hvolumes : (ran "array" .default (filling between)).overtaken.volumes =
      ((ran "array" .default (filling between)).volumes.insert "array-vol-000001" usurper).insert
        "array-vol-000001" grown := rfl
  refine ⟨hcount.trans hsum, ?_, ?_, ?_⟩
  · obtain ⟨v, hv⟩ := hfilled.first
    rw [honce]
    refine ⟨v, usurper, hv, husurper, ?_⟩
    rw [hfilled.size _ v hv]
    decide
  · rw [honce]
    exact ⟨firstSnapshot, usurper, hheld, husurper, by decide⟩
  · rw [hlast]
    refine ⟨w, latterSnapshot, ?_, hsource, ?_, ?_⟩
    · simpa [hvolumes] using hw
    · simp [overtaken, putSnapshot, latterSnapshot]
    · rw [hsize]
      decide

/-- **The bound on the creations is exact.** -/
theorem sizes_after_wrap : Outgrown (filling (2 ^ 64 - 3)) := outgrown_filling (by omega)

end FederatedStorage.Loopback
