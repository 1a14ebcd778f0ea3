import FederatedStorage.Json.Codec

/-!
# Records

A record stands in JSON as an object with one member per field, or as an array of its fields in
order. Objects may name the fields in any order and may have members of other names, which are
skipped; a field named twice does not fit. A field that is missing takes its fallback, if it has
one.

## Main definitions

* `Field`, `Row`: the fields of a record and their contents.
* `Record.codec`: the codec of a type that is a record.
-/

namespace FederatedStorage.Json

/-- A field of a record. -/
structure Field where
  name : String
  Content : Type
  codec : Codec Content
  /-- What a missing field stands for; none if the field is required. -/
  fallback : Option Content
  /-- Whether a content is left out when written. -/
  hides : Content → Bool

namespace Field

/-- A field that must be there. -/
def required {α : Type} (name : String) (codec : Codec α) : Field :=
  ⟨name, α, codec, none, fun _ => false⟩

/-- A field that may be missing, and is always written. -/
def defaulted {α : Type} (name : String) (codec : Codec α) (value : α) : Field :=
  ⟨name, α, codec, some value, fun _ => false⟩

/-- A field that may be missing or `null`, and is always written. -/
def optional {α : Type} (name : String) (codec : Codec α) : Field :=
  ⟨name, Option α, codec.optional, some none, fun _ => false⟩

/-- A field that may be missing or `null`, and is left out where it has no content. -/
def sparse {α : Type} (name : String) (codec : Codec α) : Field :=
  ⟨name, Option α, codec.optional, some none, Option.isNone⟩

end Field

/-- The contents of fields. -/
def Row : List Field → Type
  | [] => Unit
  | f :: fs => f.Content × Row fs

/-- The contents found so far. -/
def Slots : List Field → Type
  | [] => Unit
  | f :: fs => Option f.Content × Slots fs

namespace Slots

/-- Nothing found yet. -/
def empty : (fs : List Field) → Slots fs
  | [] => ()
  | _ :: fs => (none, empty fs)

/-- Puts the member of a name into its slot. A second member of the name does not fit, whatever its
value; a member that no field has is skipped. -/
def put (depth : Nat) (name : String) (o : Outline) :
    (fs : List Field) → Slots fs → Except Fault (Slots fs)
  | [], () => do
    o.skip
    return ()
  | f :: fs, (slot, slots) =>
    if f.name == name then
      match slot with
      | some _ => .error .mismatch
      | none => do return (some (← f.codec.read depth o), slots)
    else do return (slot, ← put depth name o fs slots)

/-- Puts all members, in the order of the text. -/
def putAll (depth : Nat) (fs : List Field) (slots : Slots fs) :
    List (Outline × Outline) → Except Fault (Slots fs)
  | [] => .ok slots
  | (k, v) :: rest => do
    let name ← k.readText.mapError fun _ => .malformed
    putAll depth fs (← put depth name v fs slots) rest

/-- The contents, with fallbacks for what was not found. -/
def fill : (fs : List Field) → Slots fs → Except Fault (Row fs)
  | [], () => .ok ()
  | f :: fs, (slot, slots) =>
    match slot.or f.fallback with
    | some a => do return (a, ← fill fs slots)
    | none => .error .mismatch

end Slots

/-- The fallbacks of fields that an array ends before. -/
def Row.fallbacks (fs : List Field) : Except Fault (Row fs) := Slots.fill fs (Slots.empty fs)

/-- The contents of an array, field by field. The array may end where all further fields have
fallbacks, and must not go on behind the last. -/
def Row.ofItems (depth : Nat) (closed : Bool) :
    (fs : List Field) → List Outline → Except Fault (Row fs)
  | [], [] => if closed then .ok () else .error .malformed
  | [], _ :: _ => .error .malformed
  | f :: fs, [] => if closed then fallbacks (f :: fs) else .error .malformed
  | f :: fs, o :: os => do
    let a ← f.codec.read depth o
    let row ← ofItems depth closed fs os
    return (a, row)

/-- Reads the contents of fields. -/
def Row.read (fs : List Field) (depth : Nat) : Outline → Except Fault (Row fs)
  | .object members closed => do
    let slots ← Slots.putAll (depth - 1) fs (Slots.empty fs) members
    if closed then slots.fill fs else .error .malformed
  | .array items closed => Row.ofItems (depth - 1) closed fs items
  | o => .error o.refusal

/-- The members of the contents of fields, in the order of the fields. -/
def Row.members : (fs : List Field) → Row fs → List (String × Value)
  | [], () => []
  | f :: fs, (a, row) =>
    if f.hides a then members fs row else (f.name, f.codec.write a) :: members fs row

/-- A type that is a record: its fields, and how it is put together and taken apart. -/
structure Record (α : Type) where
  fields : List Field
  ofRow : Row fields → α
  toRow : α → Row fields
  ofRow_toRow : ∀ a, ofRow (toRow a) = a := by intro a; rfl

/-- **The codec of a record.** -/
def Record.codec {α : Type} (r : Record α) : Codec α where
  read depth o := r.ofRow <$> Row.read r.fields depth o
  write a := .object (Row.members r.fields (r.toRow a))

end FederatedStorage.Json
