/-!
# Tables with text keys

A table holds at most one item per key, in ascending order of the keys (by code point, which is the
order of their UTF-8 bytes). The order is part of the type, so two tables with the same items are
equal, however they were filled.

## Main statements

* `Keyed.get?_insert`, `Keyed.get?_erase`: what a lookup finds after a change.
* `Keyed.ext_get?`: tables that answer every lookup alike are equal.
-/

namespace FederatedStorage

/-- **A table with text keys**, in ascending order. -/
structure Keyed (α : Type) where
  entries : List (String × α)
  ascending : entries.Pairwise (·.1 < ·.1)

namespace Keyed

variable {α β : Type}

/-- The table without items. -/
def empty : Keyed α := ⟨[], .nil⟩

instance : Inhabited (Keyed α) := ⟨empty⟩

instance [DecidableEq α] : DecidableEq (Keyed α) := fun a b =>
  decidable_of_iff (a.entries = b.entries)
    ⟨fun h => by cases a; cases b; simp_all, fun h => by rw [h]⟩

instance [Repr α] : Repr (Keyed α) := ⟨fun t n => reprPrec t.entries n⟩

/-! ## Raw entries -/

/-- Puts an item in its place, over an item of the same key. -/
def insertEntry (key : String) (a : α) : List (String × α) → List (String × α)
  | [] => [(key, a)]
  | (k, b) :: rest =>
    if key < k then (key, a) :: (k, b) :: rest
    else if key = k then (key, a) :: rest
    else (k, b) :: insertEntry key a rest

/-- The item of a key. -/
def lookup (key : String) : List (String × α) → Option α
  | [] => none
  | (k, a) :: rest => if key = k then some a else lookup key rest

/-- An entry of a changed list is the new one or an old one. -/
theorem mem_insertEntry {key : String} {a : α} {e : String × α} {es : List (String × α)}
    (h : e ∈ insertEntry key a es) : e = (key, a) ∨ e ∈ es := by
  induction es with
  | nil => simpa [insertEntry] using h
  | cons x xs ih =>
    unfold insertEntry at h
    split at h
    · simpa using h
    · split at h
      · rcases List.mem_cons.1 h with h | h
        · exact .inl h
        · exact .inr (List.mem_cons_of_mem _ h)
      · rcases List.mem_cons.1 h with h | h
        · exact .inr (by simp [h])
        · exact (ih h).imp id (List.mem_cons_of_mem _)

/-- One of two different keys is smaller. -/
theorem lt_of_not_lt_of_ne {a b : String} (h : ¬ a < b) (hne : a ≠ b) : b < a := by
  exact Std.lt_of_le_of_ne (Std.not_lt.1 h) hne.symm

/-- Putting an item in its place keeps the order. -/
theorem insertEntry_ascending (key : String) (a : α) {es : List (String × α)}
    (h : es.Pairwise (·.1 < ·.1)) : (insertEntry key a es).Pairwise (·.1 < ·.1) := by
  induction es with
  | nil => simp [insertEntry]
  | cons x xs ih =>
    rw [List.pairwise_cons] at h
    unfold insertEntry
    split
    · rename_i hlt
      refine List.pairwise_cons.2 ⟨fun e he => ?_, List.pairwise_cons.2 h⟩
      rcases List.mem_cons.1 he with rfl | he
      · exact hlt
      · exact Std.lt_trans hlt (h.1 e he)
    · split
      · rename_i heq
        exact List.pairwise_cons.2 ⟨fun e he => by simpa [heq] using h.1 e he, h.2⟩
      · rename_i hlt hne
        refine List.pairwise_cons.2 ⟨fun e he => ?_, ih h.2⟩
        rcases mem_insertEntry he with rfl | he
        · exact lt_of_not_lt_of_ne hlt hne
        · exact h.1 e he

/-- What a lookup finds after an item is put in its place. -/
theorem lookup_insertEntry (key : String) (a : α) (k : String) (es : List (String × α)) :
    lookup k (insertEntry key a es) = if k = key then some a else lookup k es := by
  induction es with
  | nil => simp [insertEntry, lookup]
  | cons x xs ih =>
    obtain ⟨n, b⟩ := x
    unfold insertEntry
    split
    · simp [lookup]
    · split
      · rename_i heq
        subst heq
        by_cases hk : k = key <;> simp [lookup, hk]
      · rename_i hne
        by_cases hk : k = n
        · subst hk
          simp [lookup, Ne.symm hne]
        · simp [lookup, hk, ih]

/-- A key below all others is not found. -/
theorem lookup_eq_none {k : String} {es : List (String × α)} (h : ∀ e ∈ es, k ≠ e.1) :
    lookup k es = none := by
  induction es with
  | nil => rfl
  | cons x xs ih =>
    simp [lookup, h x (by simp), ih fun e he => h e (List.mem_cons_of_mem _ he)]

/-! ## Operations -/

/-- The item of a key. -/
def get? (t : Keyed α) (key : String) : Option α := lookup key t.entries

/-- **Puts an item in its place**, over an item of the same key. -/
def insert (t : Keyed α) (key : String) (a : α) : Keyed α :=
  ⟨insertEntry key a t.entries, insertEntry_ascending key a t.ascending⟩

/-- **Takes the item of a key out.** -/
def erase (t : Keyed α) (key : String) : Keyed α :=
  ⟨t.entries.filter fun e => e.1 ≠ key, t.ascending.filter _⟩

/-- Keeps the items that pass a test. -/
def filter (t : Keyed α) (p : String → α → Bool) : Keyed α :=
  ⟨t.entries.filter fun e => p e.1 e.2, t.ascending.filter _⟩

/-- Changes every item. -/
def map (t : Keyed α) (f : α → β) : Keyed β :=
  ⟨t.entries.map fun e => (e.1, f e.2), by
    rw [List.pairwise_map]
    exact t.ascending⟩

/-- The table of some entries; of entries with one key the last counts. -/
def ofList (es : List (String × α)) : Keyed α := es.foldl (fun t e => t.insert e.1 e.2) empty

/-- The keys, in ascending order. -/
def keys (t : Keyed α) : List String := t.entries.map (·.1)

/-- The items, in ascending order of their keys. -/
def values (t : Keyed α) : List α := t.entries.map (·.2)

/-- Whether a key has an item. -/
def contains (t : Keyed α) (key : String) : Bool := (t.get? key).isSome

/-- The number of items. -/
def size (t : Keyed α) : Nat := t.entries.length

/-- Whether there is no item. -/
def isEmpty (t : Keyed α) : Bool := t.entries.isEmpty

/-- Changes the item of a key, if there is one. -/
def modify (t : Keyed α) (key : String) (f : α → α) : Keyed α :=
  match t.get? key with
  | some a => t.insert key (f a)
  | none => t

/-! ## Lookups -/

@[simp] theorem get?_empty (k : String) : (empty : Keyed α).get? k = none := rfl

/-- **A lookup after an insertion** finds the new item under its key and the old ones elsewhere. -/
@[simp] theorem get?_insert (t : Keyed α) (key k : String) (a : α) :
    (t.insert key a).get? k = if k = key then some a else t.get? k :=
  lookup_insertEntry key a k t.entries

/-- A lookup in a list without a key's entries. -/
theorem lookup_filter_ne (key k : String) (es : List (String × α)) :
    lookup k (es.filter fun e => e.1 ≠ key) = if k = key then none else lookup k es := by
  induction es with
  | nil => simp [lookup]
  | cons x xs ih =>
    obtain ⟨n, b⟩ := x
    by_cases hn : n = key
    · subst hn
      simp only [ne_eq, not_true_eq_false, decide_false, Bool.false_eq_true, not_false_eq_true,
        List.filter_cons_of_neg]
      by_cases hk : k = n
      · simpa [hk] using ih
      · simpa [hk, lookup] using ih
    · have hf : List.filter (fun e => decide (e.1 ≠ key)) ((n, b) :: xs)
          = (n, b) :: List.filter (fun e => decide (e.1 ≠ key)) xs := by simp [hn]
      rw [hf]
      by_cases hk : k = n
      · subst hk
        simp [lookup, hn]
      · simp only [lookup, hk, if_false]
        exact ih

/-- **A lookup after a removal** finds nothing under the key and the old items elsewhere. -/
@[simp] theorem get?_erase (t : Keyed α) (key k : String) :
    (t.erase key).get? k = if k = key then none else t.get? k :=
  lookup_filter_ne key k t.entries

/-- A lookup finds exactly the entries. -/
theorem lookup_eq_some_iff {k : String} {a : α} {es : List (String × α)}
    (h : es.Pairwise (·.1 < ·.1)) : lookup k es = some a ↔ (k, a) ∈ es := by
  induction es with
  | nil => simp [lookup]
  | cons x xs ih =>
    obtain ⟨n, b⟩ := x
    rw [List.pairwise_cons] at h
    by_cases hk : k = n
    · subst hk
      constructor
      · intro hl
        simp [lookup] at hl
        simp [hl]
      · intro hm
        rcases List.mem_cons.1 hm with he | he
        · simp [lookup, (Prod.mk.inj he).2]
        · exact absurd (h.1 _ he) (Std.lt_irrefl)
    · simp [lookup, hk, ih h.2]

/-- **Lookups and entries agree.** -/
theorem get?_eq_some_iff {t : Keyed α} {k : String} {a : α} :
    t.get? k = some a ↔ (k, a) ∈ t.entries := lookup_eq_some_iff t.ascending

/-- A key is listed exactly when it is found. -/
theorem mem_keys_iff {t : Keyed α} {k : String} : k ∈ t.keys ↔ t.contains k = true := by
  simp only [keys, contains, List.mem_map, Option.isSome_iff_exists]
  constructor
  · rintro ⟨e, he, rfl⟩
    exact ⟨e.2, get?_eq_some_iff.2 he⟩
  · rintro ⟨a, ha⟩
    exact ⟨(k, a), get?_eq_some_iff.1 ha, rfl⟩

/-- No key is listed twice. -/
theorem keys_nodup (t : Keyed α) : t.keys.Nodup := by
  refine List.pairwise_map.mpr (t.ascending.imp fun {e f} hlt => ?_)
  exact fun heq => Std.lt_irrefl (show f.1 < f.1 from heq ▸ hlt)

/-- Ascending lists with the same entries are equal. -/
theorem eq_of_mem_iff {es fs : List (String × α)} (he : es.Pairwise (·.1 < ·.1))
    (hf : fs.Pairwise (·.1 < ·.1)) (h : ∀ e, e ∈ es ↔ e ∈ fs) : es = fs := by
  induction es generalizing fs with
  | nil =>
    cases fs with
    | nil => rfl
    | cons f fs => exact absurd ((h f).2 (by simp)) (by simp)
  | cons e es ih =>
    cases fs with
    | nil => exact absurd ((h e).1 (by simp)) (by simp)
    | cons f fs =>
      rw [List.pairwise_cons] at he hf
      have hef : e = f := by
        rcases List.mem_cons.1 ((h e).1 (by simp)) with h1 | h1
        · exact h1
        · rcases List.mem_cons.1 ((h f).2 (by simp)) with h2 | h2
          · exact h2.symm
          · exact absurd (Std.lt_trans (hf.1 e h1) (he.1 f h2)) Std.lt_irrefl
      subst hef
      congr 1
      refine ih he.2 hf.2 fun x => ?_
      have hx := h x
      simp only [List.mem_cons] at hx
      constructor
      · intro hm
        rcases hx.1 (.inr hm) with h1 | h1
        · exact absurd (h1 ▸ he.1 x hm) Std.lt_irrefl
        · exact h1
      · intro hm
        rcases hx.2 (.inr hm) with h1 | h1
        · exact absurd (h1 ▸ hf.1 x hm) Std.lt_irrefl
        · exact h1

/-- **Tables that answer every lookup alike are equal.** -/
theorem ext_get? {s t : Keyed α} (h : ∀ k, s.get? k = t.get? k) : s = t := by
  have : s.entries = t.entries := by
    refine eq_of_mem_iff s.ascending t.ascending fun e => ?_
    rw [← get?_eq_some_iff (t := s), ← get?_eq_some_iff (t := t), h]
  cases s
  cases t
  simp_all

end Keyed

end FederatedStorage
