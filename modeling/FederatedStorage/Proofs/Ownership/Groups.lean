import FederatedStorage.Proofs.Ownership
import Mathlib.Algebra.GroupWithZero.Nat

/-!
# Resources by owner

The groups of resources and the numbers of each owner's resources are made by one loop each over all
records, which works every record into its owner's item. What stands under an owner in the end is made
of his records alone, and he stands there only if he has one. A number that every record adds to its
owner's item is added to the sum over all items.

## Main statements

* `get?_byCluster`, `get?_countsByCluster`: what stands under an owner.
* `flatten_byCluster`: the groups are all records, in another order.
* `sum_countsByCluster`, `total_counts`: the numbers add up.
-/

namespace FederatedStorage

/-! ## Sums over tables -/

namespace Keyed

variable {α : Type} (g : α → Nat)

/-- The sum over a list in which an item is put in its place. -/
theorem sum_insertEntry (key : String) (a : α) {es : List (String × α)}
    (hes : es.Pairwise (·.1 < ·.1)) :
    ((insertEntry key a es).map fun e => g e.2).sum + (lookup key es).elim 0 g =
      (es.map fun e => g e.2).sum + g a := by
  induction es with
  | nil => simp [insertEntry, lookup]
  | cons x xs ih =>
    obtain ⟨k, b⟩ := x
    obtain ⟨hk, hxs⟩ := List.pairwise_cons.mp hes
    unfold insertEntry
    by_cases hlt : key < k
    · -- all keys that follow are greater, so there was no such item
      have hnone : lookup key ((k, b) :: xs) = none := by
        refine lookup_eq_none fun e he heq => ?_
        rcases List.mem_cons.mp he with rfl | he
        · exact Std.lt_irrefl (heq ▸ hlt)
        · exact Std.lt_irrefl (Std.lt_trans (heq ▸ hlt) (hk e he))
      rw [if_pos hlt, hnone]
      simp only [List.map_cons, List.sum_cons, Option.elim_none]
      omega
    · rw [if_neg hlt]
      by_cases heq : key = k
      · rw [if_pos heq]
        simp only [lookup, heq, if_true, List.map_cons, List.sum_cons, Option.elim_some]
        omega
      · have hrest := ih hxs
        rw [if_neg heq]
        simp only [lookup, heq, if_false, List.map_cons, List.sum_cons]
        omega

/-- **The sum over a table** after an item is put in its place. -/
theorem sum_values_insert (t : Keyed α) (key : String) (a : α) :
    ((t.insert key a).values.map g).sum + (t.get? key).elim 0 g =
      (t.values.map g).sum + g a := by
  have hsum := sum_insertEntry g key a t.ascending
  simpa [values, insert, get?, List.map_map, Function.comp_def] using hsum

end Keyed

namespace Ownership

/-! ## The loop -/

section Loop

variable {α : Type} {start : α} {add : α → Resource → α}

/-- **What stands under an owner** after the loop is made of his records alone. -/
theorem get?_foldl_addToOwner (rs : List Resource) (items : Keyed α) (c : String) :
    (rs.foldl (addToOwner start add) items).get? c =
      if (rs.filter fun r => r.clusterId = c) = [] then items.get? c
      else some ((rs.filter fun r => r.clusterId = c).foldl add ((items.get? c).getD start)) := by
  induction rs generalizing items with
  | nil => simp
  | cons r rs ih =>
    rw [List.foldl_cons, ih]
    unfold addToOwner
    by_cases hr : r.clusterId = c
    · -- this record opens his item, or works into it
      rw [List.filter_cons_of_pos (by simpa using hr)]
      by_cases hnone : (rs.filter fun r => r.clusterId = c) = []
      · simp [hnone, hr]
      · simp [hnone, hr]
    · rw [List.filter_cons_of_neg (by simpa using hr)]
      simp [Keyed.get?_insert, Ne.symm hr]

/-- **What every record adds** is added to the sum over all items. -/
theorem sum_foldl_addToOwner (g : α → Nat) (f : Resource → Nat) (hstart : g start = 0)
    (hadd : ∀ a r, g (add a r) = g a + f r) (rs : List Resource) (items : Keyed α) :
    ((rs.foldl (addToOwner start add) items).values.map g).sum =
      (items.values.map g).sum + (rs.map f).sum := by
  induction rs generalizing items with
  | nil => simp
  | cons r rs ih =>
    have hinsert := Keyed.sum_values_insert g items r.clusterId
      (add ((items.get? r.clusterId).getD start) r)
    have hbefore : (items.get? r.clusterId).elim 0 g =
        g ((items.get? r.clusterId).getD start) := by
      cases items.get? r.clusterId with
      | none => exact hstart.symm
      | some a => rfl
    rw [hadd, ← hbefore] at hinsert
    rw [List.foldl_cons, ih, List.map_cons, List.sum_cons]
    unfold addToOwner
    omega

end Loop

variable {o : Ownership} {c : String}

/-! ## Groups -/

theorem foldl_concat (rs group : List Resource) :
    rs.foldl (fun group r => group ++ [r]) group = group ++ rs := by
  rw [List.foldl_append_eq_append, ← List.flatMap_def, List.flatMap_singleton']

/-- **The group of an owner** is the list of his resources, and there is none without any. -/
theorem get?_byCluster (o : Ownership) (c : String) :
    o.byCluster.get? c = if o.ofCluster c = [] then none else some (o.ofCluster c) := by
  unfold byCluster ofCluster
  rw [get?_foldl_addToOwner, foldl_concat]
  rfl

theorem mem_ofCluster_iff {r : Resource} : r ∈ o.ofCluster c ↔ r ∈ o.all ∧ r.clusterId = c := by
  simp [ofCluster]

/-- **The groups are all records**, in another order. -/
theorem flatten_byCluster (o : Ownership) : o.byCluster.values.flatten.Perm o.all := by
  refine List.perm_iff_count.mpr fun r => ?_
  -- each record adds to the number of times that this one stands in some group
  have hsum := sum_foldl_addToOwner (fun group : List Resource => group.count r)
    (fun q => [q].count r) List.count_nil (fun _ _ => List.count_append) o.all .empty
  have hcount : (o.all.map fun q => [q].count r).sum = o.all.count r := by
    have hsingle := List.count_flatMap (l := o.all) (f := fun q => [q]) (x := r)
    rw [List.flatMap_singleton'] at hsingle
    exact hsingle.symm
  rw [hcount] at hsum
  rw [List.count_flatten]
  exact hsum.trans (Nat.zero_add _)

end Ownership

/-! ## Numbers -/

namespace ResourceCounts

/-- The number of resources of a kind. -/
def ofKind (c : ResourceCounts) : ResourceKind → Nat
  | .volume => c.volumes
  | .snapshot => c.snapshots

/-- What a resource adds to the number of a kind. -/
def weight (kind : ResourceKind) (r : Resource) : Nat := if r.kind = kind then 1 else 0

theorem ofKind_add (c : ResourceCounts) (r : Resource) (kind : ResourceKind) :
    (c.add r.kind).ofKind kind = c.ofKind kind + weight kind r := by
  unfold weight
  cases r.kind <;> cases kind <;> rfl

theorem ofKind_foldl (rs : List Resource) (c : ResourceCounts) (kind : ResourceKind) :
    (rs.foldl (fun c r => c.add r.kind) c).ofKind kind = c.ofKind kind + (rs.map (weight kind)).sum := by
  induction rs generalizing c with
  | nil => rfl
  | cons r rs ih => rw [List.foldl_cons, ih, ofKind_add, List.map_cons, List.sum_cons, Nat.add_assoc]

/-- The number of a kind is the sum of what the resources add to it. -/
theorem ofKind_ofList (rs : List Resource) (kind : ResourceKind) :
    (ofList rs).ofKind kind = (rs.map (weight kind)).sum := by
  have hfold := ofKind_foldl rs zero kind
  have hzero : zero.ofKind kind = 0 := by cases kind <;> rfl
  rw [hzero, Nat.zero_add] at hfold
  exact hfold

theorem total_add (c : ResourceCounts) (kind : ResourceKind) : (c.add kind).total = c.total + 1 := by
  cases kind
  · exact Nat.add_right_comm c.volumes 1 c.snapshots
  · rfl

/-- Every resource is counted once. -/
theorem total_ofList (rs : List Resource) : (ofList rs).total = rs.length := by
  have hfold : ∀ (rs : List Resource) (c : ResourceCounts),
      (rs.foldl (fun c r => c.add r.kind) c).total = c.total + rs.length := by
    intro rs
    induction rs with
    | nil => exact fun c => rfl
    | cons r rs ih =>
      intro c
      rw [List.foldl_cons, ih, total_add, List.length_cons]
      omega
  exact (hfold rs zero).trans (Nat.zero_add _)

end ResourceCounts

namespace Ownership

variable {o : Ownership} {c : String}

/-- **The numbers of an owner** are those of his resources, and there are none without any. -/
theorem get?_countsByCluster (o : Ownership) (c : String) :
    o.countsByCluster.get? c =
      if o.ofCluster c = [] then none else some (.ofList (o.ofCluster c)) := by
  unfold countsByCluster ofCluster
  rw [get?_foldl_addToOwner]
  rfl

/-- Where no numbers stand, they are nought. -/
theorem getD_countsByCluster (o : Ownership) (c : String) :
    (o.countsByCluster.get? c).getD .zero = .ofList (o.ofCluster c) := by
  rw [get?_countsByCluster]
  by_cases hnone : o.ofCluster c = []
  · rw [if_pos hnone, hnone]
    rfl
  · rw [if_neg hnone]
    rfl

/-- **The numbers of all owners add up** to the numbers of all resources. -/
theorem sum_countsByCluster (o : Ownership) (kind : ResourceKind) :
    (o.countsByCluster.values.map fun counts => counts.ofKind kind).sum = o.counts.ofKind kind := by
  have hzero : ResourceCounts.zero.ofKind kind = 0 := by cases kind <;> rfl
  have hsum := sum_foldl_addToOwner (fun counts : ResourceCounts => counts.ofKind kind)
    (ResourceCounts.weight kind) hzero (fun c r => c.ofKind_add r kind) o.all .empty
  rw [← ResourceCounts.ofKind_ofList] at hsum
  exact hsum.trans (Nat.zero_add _)

/-- **All resources are counted.** -/
theorem total_counts (o : Ownership) : o.counts.total = o.size := by
  have htotal := ResourceCounts.total_ofList o.all
  rw [show o.all.length = o.size from List.length_map _] at htotal
  exact htotal

end Ownership

end FederatedStorage
