import FederatedStorage.Ownership

/-!
# Changes to many owners at once

What a lookup finds after many records have been put in or dropped, and how the listings of the
records relate to lookups.

## Main statements

* `record?_mapAll_kind`: a lookup after all resources of one kind of a cluster were recorded.
* `record?_unmapAll_filter`: a lookup after all records that pass a test were dropped.
-/

namespace FederatedStorage.Ownership

variable {o : Ownership} {id : String} {r : Resource}

/-! ## Listings -/

/-- A record is listed exactly when it is found. -/
theorem mem_all_iff : r ∈ o.all ↔ o.record? r.id = some r := by
  constructor
  · intro h
    obtain ⟨e, he, rfl⟩ := List.mem_map.mp h
    exact Keyed.get?_eq_some_iff.mpr (by rw [o.key_eq e he]; exact he)
  · intro h
    exact List.mem_map.mpr ⟨_, Keyed.get?_eq_some_iff.mp h, rfl⟩

theorem map_id_all : o.all.map Resource.id = o.ids := by
  show (o.records.entries.map (·.2)).map Resource.id = o.records.entries.map (·.1)
  rw [List.map_map]
  exact List.map_congr_left fun e he => o.key_eq e he

/-- An ID is listed exactly when it has a record. -/
theorem mem_ids_iff : id ∈ o.ids ↔ ∃ r, o.record? id = some r := by
  rw [ids, Keyed.mem_keys_iff, Keyed.contains, Option.isSome_iff_exists]
  rfl

theorem contains_iff : o.contains id = true ↔ ∃ r, o.record? id = some r :=
  Option.isSome_iff_exists

/-! ## Many records -/

theorem mapAll_append (o : Ownership) (rs qs : List Resource) :
    o.mapAll (rs ++ qs) = (o.mapAll rs).mapAll qs := List.foldl_append

/-- Records that are not about a resource do not change what a lookup finds. -/
theorem record?_mapAll_of_ne {rs : List Resource} (h : ∀ r ∈ rs, r.id ≠ id) :
    (o.mapAll rs).record? id = o.record? id := by
  induction rs generalizing o with
  | nil => rfl
  | cons r rs ih =>
    obtain ⟨hr, hrs⟩ := List.forall_mem_cons.mp h
    show ((o.map r).mapAll rs).record? id = o.record? id
    rw [ih hrs, record?_map, if_neg fun he => hr he.symm]

/-- **A lookup after many resources of one kind of a cluster were recorded.** -/
theorem record?_mapAll_kind (o : Ownership) (clusterId : String) (kind : ResourceKind)
    (ids : List String) (id : String) :
    (o.mapAll (ids.map fun x => ⟨x, clusterId, kind⟩)).record? id =
      if id ∈ ids then some ⟨id, clusterId, kind⟩ else o.record? id := by
  induction ids generalizing o with
  | nil => simp [mapAll]
  | cons x ids ih =>
    show ((o.map ⟨x, clusterId, kind⟩).mapAll _).record? id = _
    rw [ih, record?_map]
    -- a later record of the same resource overwrites this one
    by_cases hid : id ∈ ids
    · rw [if_pos hid, if_pos (List.mem_cons_of_mem x hid)]
    · rw [if_neg hid]
      by_cases hx : id = x
      · subst hx
        rw [if_pos rfl, if_pos List.mem_cons_self]
      · rw [if_neg hx, if_neg (by simp [hx, hid])]

/-- A lookup after the records of many resources were dropped. -/
theorem record?_unmapAll (o : Ownership) (rs : List Resource) (id : String) :
    (o.unmapAll rs).record? id = if id ∈ rs.map Resource.id then none else o.record? id := by
  induction rs generalizing o with
  | nil => simp [unmapAll]
  | cons r rs ih =>
    show ((o.unmap r.id).unmapAll rs).record? id = _
    rw [ih, record?_unmap]
    show _ = if id ∈ r.id :: rs.map Resource.id then none else o.record? id
    by_cases hid : id ∈ rs.map Resource.id
    · rw [if_pos hid, if_pos (List.mem_cons_of_mem _ hid)]
    · rw [if_neg hid]
      by_cases hr : id = r.id
      · rw [if_pos hr, if_pos (hr ▸ List.mem_cons_self)]
      · rw [if_neg hr, if_neg fun hmem => (List.mem_cons.mp hmem).elim hr hid]

/-- **A lookup after all records that pass a test were dropped.** -/
theorem record?_unmapAll_filter (o : Ownership) (p : Resource → Bool) (id : String) :
    (o.unmapAll (o.all.filter p)).record? id = (o.record? id).filter fun r => !p r := by
  rw [record?_unmapAll]
  cases hr : o.record? id with
  | none =>
    split <;> rfl
  | some r =>
    have hid : r.id = id := id_of_record? hr
    have hall : r ∈ o.all := mem_all_iff.mpr (by rw [hid]; exact hr)
    by_cases hp : p r = true
    · have hmem : id ∈ (o.all.filter p).map Resource.id :=
        List.mem_map.mpr ⟨r, List.mem_filter.mpr ⟨hall, hp⟩, hid⟩
      rw [if_pos hmem, Option.filter_some, hp]
      rfl
    · rw [if_neg]
      · rw [Option.filter_some, Bool.eq_false_iff.mpr hp]
        rfl
      · -- a record that is dropped under this ID is the one that is found, and does not pass
        intro hmem
        obtain ⟨q, hq, hqid⟩ := List.mem_map.mp hmem
        obtain ⟨hqall, hqp⟩ := List.mem_filter.mp hq
        have hqr := mem_all_iff.mp hqall
        rw [hqid, hr] at hqr
        exact hp (Option.some.inj hqr ▸ hqp)

/-- A test passes for as many records as there are IDs whose record passes it. -/
theorem length_filter_all (o : Ownership) (p : Resource → Bool) {ids : List String}
    (hnodup : ids.Nodup) (h : ∀ id, id ∈ ids ↔ ∃ r, o.record? id = some r ∧ p r = true) :
    (o.all.filter p).length = ids.length := by
  have hl : ((o.all.filter p).map Resource.id).Nodup := by
    refine List.Nodup.sublist (List.Sublist.map _ List.filter_sublist) ?_
    rw [map_id_all]
    exact o.records.keys_nodup
  -- two lists without repetition that have the same members
  have hperm : ((o.all.filter p).map Resource.id).Perm ids := by
    refine (List.perm_ext_iff_of_nodup hl hnodup).mpr fun id => ?_
    rw [List.mem_map, h]
    constructor
    · rintro ⟨r, hr, rfl⟩
      obtain ⟨hall, hp⟩ := List.mem_filter.mp hr
      exact ⟨r, mem_all_iff.mp hall, hp⟩
    · rintro ⟨r, hr, hp⟩
      have hid : r.id = id := id_of_record? hr
      exact ⟨r, List.mem_filter.mpr ⟨mem_all_iff.mpr (by rw [hid]; exact hr), hp⟩, hid⟩
  rw [← List.length_map (f := Resource.id)]
  exact hperm.length_eq

end FederatedStorage.Ownership
