import FederatedStorage.Keyed

/-!
# Labels and requirements

Clusters carry labels, and a new volume names the labels it requires. A cluster qualifies if it
carries every required label with the required value.
-/

namespace FederatedStorage

/-- Labels: names with values. -/
abbrev Tags := Keyed String

namespace Tags

/-- **Whether every required label is carried** with its value. -/
def satisfiedBy (required available : Tags) : Bool :=
  required.entries.all fun e => available.get? e.1 == some e.2

/-- Labels for a message: name and value of each, or a pair of braces if there is none. -/
def describe (tags : Tags) : String :=
  if tags.isEmpty then "\x7b\x7d"
  else ",".intercalate (tags.entries.map fun e => e.1 ++ "=" ++ e.2)

/-- Requirements are met exactly if every required value is found. -/
theorem satisfiedBy_iff {required available : Tags} :
    required.satisfiedBy available = true
      ↔ ∀ k v, required.get? k = some v → available.get? k = some v := by
  simp only [satisfiedBy, List.all_eq_true, beq_iff_eq]
  constructor
  · intro h k v hk
    exact h (k, v) (Keyed.get?_eq_some_iff.1 hk)
  · rintro h ⟨k, v⟩ he
    exact h k v (Keyed.get?_eq_some_iff.2 he)

/-- **Nothing is required of a cluster by no labels.** -/
theorem empty_satisfiedBy (available : Tags) : Tags.satisfiedBy .empty available = true := rfl

end Tags

end FederatedStorage
