import FederatedStorage.Proofs.Ownership
import Mathlib.Data.List.Induction

/-!
# Owners as they were written

A registry that starts empty is written to in three ways: one record, many records, or a record is
dropped. Each of them makes entries about single resources, in their order. Whatever was written, the
record that a lookup finds is that of the last entry about the resource, and there is none if the
resource was dropped then, or never written.

## Main definitions

* `Write`, `after`: what is written, and the registry then.
* `Stands`: the last entry about a resource is a record.

## Main statements

* `record?_after`: what a lookup finds after any writes.
* `replaceAll_eq`: many records at once, and their number.
-/

namespace FederatedStorage.Ownership

/-- **A write**: one record, many records, or a record that is dropped. -/
inductive Write
  | map (r : Resource)
  | mapAll (rs : List Resource)
  | unmap (id : String)

namespace Write

/-- What a write is answered: the record that it replaces or drops, or how many it was given. -/
abbrev Answer : Write → Type
  | map _ => Option Resource
  | mapAll _ => Nat
  | unmap _ => Option Resource

/-- The registry after a write, and the answer. -/
def apply (o : Ownership) : (w : Write) → Ownership × w.Answer
  | map r => o.replace r
  | mapAll rs => o.replaceAll rs
  | unmap id => o.withdraw id

end Write

/-- **The registry after some writes.** -/
def after (ws : List Write) : Ownership := ws.foldl (fun o w => (w.apply o).1) .empty

/-! ## Entries -/

/-- What is written about a single resource. -/
inductive Entry
  | wrote (r : Resource)
  | dropped (id : String)

/-- The resource that an entry is about. -/
def Entry.id : Entry → String
  | wrote r => r.id
  | dropped id => id

/-- The entries that a write makes. -/
def Write.entries : Write → List Entry
  | map r => [.wrote r]
  | mapAll rs => rs.map .wrote
  | unmap id => [.dropped id]

/-- All entries of some writes. -/
def entries (ws : List Write) : List Entry := ws.flatMap Write.entries

/-- **A record stands**: it was written, and nothing about the resource since. -/
def Stands (es : List Entry) (r : Resource) : Prop :=
  ∃ before since, es = before ++ .wrote r :: since ∧ ∀ e ∈ since, e.id ≠ r.id

/-- After one more entry, what it wrote stands, and what stood before if it is about another. -/
theorem stands_concat {es : List Entry} {e : Entry} {r : Resource} :
    Stands (es ++ [e]) r ↔ e = .wrote r ∨ e.id ≠ r.id ∧ Stands es r := by
  constructor
  · rintro ⟨before, since, hes, hsince⟩
    rcases List.eq_nil_or_concat since with rfl | ⟨since, last, rfl⟩
    · obtain ⟨-, he⟩ := List.append_inj' hes rfl
      exact Or.inl (List.singleton_inj.mp he)
    · have hsplit : es ++ [e] = (before ++ .wrote r :: since) ++ [last] := by
        rw [hes]
        simp
      obtain ⟨hbefore, he⟩ := List.append_inj' hsplit rfl
      have he := List.singleton_inj.mp he
      subst he
      refine Or.inr ⟨hsince e (by simp), before, since, hbefore, fun x hx => hsince x ?_⟩
      simp [hx]
  · rintro (rfl | ⟨hne, before, since, rfl, hsince⟩)
    · exact ⟨es, [], rfl, fun _ h => absurd h List.not_mem_nil⟩
    · refine ⟨before, since ++ [e], by simp, fun x hx => ?_⟩
      rcases List.mem_append.mp hx with hx | hx
      · exact hsince x hx
      · rw [List.mem_singleton.mp hx]
        exact hne

/-- What an entry does. -/
def enter (o : Ownership) : Entry → Ownership
  | .wrote r => o.map r
  | .dropped id => o.unmap id

/-- A lookup after one entry. -/
theorem record?_enter (o : Ownership) (e : Entry) (id : String) (r : Resource) :
    (o.enter e).record? id = some r ↔
      e = .wrote r ∧ r.id = id ∨ e.id ≠ id ∧ o.record? id = some r := by
  cases e with
  | wrote q =>
    show (o.map q).record? id = some r ↔ _
    rw [record?_map]
    by_cases hid : id = q.id
    · subst hid
      rw [if_pos rfl]
      constructor
      · intro h
        cases h
        exact Or.inl ⟨rfl, rfl⟩
      · rintro (⟨h, -⟩ | ⟨hne, -⟩)
        · cases h
          rfl
        · exact absurd rfl hne
    · rw [if_neg hid]
      constructor
      · exact fun h => Or.inr ⟨fun heq => hid heq.symm, h⟩
      · rintro (⟨h, hr⟩ | ⟨-, h⟩)
        · cases h
          exact absurd hr.symm hid
        · exact h
  | dropped q =>
    show (o.unmap q).record? id = some r ↔ _
    rw [record?_unmap]
    by_cases hid : id = q
    · simp [hid, Entry.id]
    · simp [hid, Entry.id, Ne.symm hid]

/-- **A lookup after any entries** finds the record that stands. -/
theorem record?_enter_all (es : List Entry) (id : String) (r : Resource) :
    (es.foldl enter empty).record? id = some r ↔ r.id = id ∧ Stands es r := by
  induction es using List.reverseRecOn generalizing r with
  | nil =>
    constructor
    · intro h
      cases h
    · rintro ⟨-, before, since, hes, -⟩
      cases before <;> cases hes
  | append_singleton es e ih =>
    rw [List.foldl_append, List.foldl_cons, List.foldl_nil, record?_enter, ih, stands_concat]
    constructor
    · rintro (⟨he, hid⟩ | ⟨hne, hid, hstands⟩)
      · exact ⟨hid, Or.inl he⟩
      · exact ⟨hid, Or.inr ⟨hid ▸ hne, hstands⟩⟩
    · rintro ⟨hid, he | ⟨hne, hstands⟩⟩
      · exact Or.inl ⟨he, hid⟩
      · exact Or.inr ⟨hid ▸ hne, hid, hstands⟩

/-! ## Writes -/

/-- **Many records at once** are recorded one after the other, and counted with repetitions. -/
theorem replaceAll_eq (o : Ownership) (rs : List Resource) :
    o.replaceAll rs = (o.mapAll rs, rs.length) := by
  have hfold : ∀ (rs : List Resource) (o : Ownership) (n : Nat),
      rs.foldl (fun (p : Ownership × Nat) r => (p.1.map r, p.2 + 1)) (o, n) =
        (o.mapAll rs, n + rs.length) := by
    intro rs
    induction rs with
    | nil => exact fun o n => rfl
    | cons r rs ih =>
      intro o n
      rw [List.foldl_cons, ih, List.length_cons, Nat.add_assoc, Nat.add_comm 1]
      rfl
  exact (hfold rs o 0).trans (by rw [Nat.zero_add])

/-- A write makes its entries. -/
theorem apply_eq (o : Ownership) (w : Write) : (w.apply o).1 = w.entries.foldl enter o := by
  cases w with
  | map r => rfl
  | mapAll rs =>
    show (o.replaceAll rs).1 = (rs.map Entry.wrote).foldl enter o
    rw [replaceAll_eq, List.foldl_map]
    rfl
  | unmap id => rfl

theorem after_eq (ws : List Write) : after ws = (entries ws).foldl enter empty := by
  unfold after entries
  rw [List.foldl_flatMap]
  exact congrArg (fun f => ws.foldl f empty) (funext fun o => funext fun w => apply_eq o w)

/-- **A lookup after any writes** finds the record that stands. -/
theorem record?_after (ws : List Write) (id : String) (r : Resource) :
    (after ws).record? id = some r ↔ r.id = id ∧ Stands (entries ws) r := by
  rw [after_eq]
  exact record?_enter_all (entries ws) id r

/-- **Asking for a record** gives the one that stands. -/
theorem find_after_ok (ws : List Write) (id : String) (r : Resource) :
    (after ws).find id = .ok r ↔ r.id = id ∧ Stands (entries ws) r := by
  rw [← record?_after]
  unfold find
  cases (after ws).record? id with
  | none => simp
  | some q => simp

/-- It fails exactly where none stands. -/
theorem find_after_error (ws : List Write) (id : String) (failure : Failure) :
    (after ws).find id = .error failure ↔
      failure = .resourceUnmapped id ∧ ∀ r, r.id = id → ¬ Stands (entries ws) r := by
  have hnone : (∀ r, r.id = id → ¬ Stands (entries ws) r) ↔ (after ws).record? id = none := by
    rw [Option.eq_none_iff_forall_ne_some]
    exact forall_congr' fun r => by rw [Ne, record?_after, not_and]
  rw [hnone]
  unfold find
  cases (after ws).record? id with
  | none => simp [eq_comm]
  | some q => simp

end FederatedStorage.Ownership
