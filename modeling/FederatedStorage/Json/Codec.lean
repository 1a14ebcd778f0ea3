import FederatedStorage.Json.Outline
import FederatedStorage.Json.Printer

/-!
# Reading and writing typed values

A codec reads a type from an outline and writes it as a value. Reading goes through an outline from
left to right and stops at the first problem; its depth says how many containers may still be opened
where a value is kept.

## Main statements

* `Codec.text_keeps`, `Codec.flag_keeps`, `Codec.size_keeps`: texts, flags and sizes read back as
  they were written.
-/

namespace FederatedStorage.Json

/-- How a type stands in JSON. -/
structure Codec (α : Type) where
  read : Nat → Outline → Except Fault α
  write : α → Value

namespace Codec

/-- Goes through a list and stops at the first fault. -/
def readAll {α : Type} (f : Outline → Except Fault α) : List Outline → Except Fault (List α)
  | [] => .ok []
  | o :: os => do
    let a ← f o
    let as ← readAll f os
    return a :: as

/-- A text. -/
def text : Codec String where
  read _ o := o.readText
  write s := .string s

/-- A yes or no. -/
def flag : Codec Bool where
  read
    | _, .bool b => .ok b
    | _, o => .error o.refusal
  write b := .bool b

/-- The natural number of an outline, below a bound. -/
def readNatural (bound : Nat) : Outline → Except Fault Nat
  | .number (some (.integer n)) =>
    if 0 ≤ n && n < bound then .ok n.toNat else .error .mismatch
  | o => .error o.refusal

/-- A natural number of 64 bits. -/
def size : Codec UInt64 where
  read _ o := UInt64.ofNat <$> readNatural UInt64.size o
  write n := .natural n.toNat

/-- A natural number of 32 bits. -/
def shortCount : Codec UInt32 where
  read _ o := UInt32.ofNat <$> readNatural UInt32.size o
  write n := .natural n.toNat

/-- Any value. -/
def any : Codec Value where
  read depth o := o.toValue depth
  write v := v

/-- A list of items of one kind. -/
def list {α : Type} (item : Codec α) : Codec (List α) where
  read
    | depth, .array items closed => do
      let as ← readAll (item.read (depth - 1)) items
      if closed then return as else .error .malformed
    | _, o => .error o.refusal
  write as := .array (as.map item.write)

/-- Reads the entries of a table; the later of two of one name counts. -/
def readEntries {α : Type} (entry : Codec α) (depth : Nat) (sofar : Keyed α) :
    List (Outline × Outline) → Except Fault (Keyed α)
  | [] => .ok sofar
  | (k, v) :: rest => do
    let name ← k.readText.mapError fun _ => .malformed
    let a ← entry.read depth v
    readEntries entry depth (sofar.insert name a) rest

/-- A table with text keys. -/
def table {α : Type} (entry : Codec α) : Codec (Keyed α) where
  read
    | depth, .object members closed => do
      let entries ← readEntries entry (depth - 1) .empty members
      if closed then return entries else .error .malformed
    | _, o => .error o.refusal
  write t := .object (t.entries.map fun e => (e.1, entry.write e.2))

/-- A value that may be `null`. -/
def optional {α : Type} (codec : Codec α) : Codec (Option α) where
  read
    | _, .null => .ok none
    | depth, o => some <$> codec.read depth o
  write
    | none => .null
    | some a => codec.write a

/-- A text of a special form. A text of another form does not fit. -/
def ofText {α : Type} (parse? : String → Option α) (render : α → String) : Codec α where
  read _ o := do
    match parse? (← o.readText) with
    | some a => .ok a
    | none => .error .mismatch
  write a := .string (render a)

/-- Reads a whole text, with nothing but blanks behind the value. -/
def ofDocument {α : Type} (codec : Codec α) (document : String) : Except Fault α := do
  let (outline, rest) := Outline.ofTokens (tokens document)
  let a ← codec.read Outline.depthLimit outline
  if rest.isEmpty then .ok a else .error .malformed

/-- Reads the first value of a text and ignores what follows it. -/
def ofLeading {α : Type} (codec : Codec α) (document : String) : Except Fault α :=
  codec.read Outline.depthLimit (Outline.ofTokens (tokens document)).1

/-- Reads a value that is already known. -/
def ofValue? {α : Type} (codec : Codec α) (v : Value) : Option α :=
  (codec.read Outline.depthLimit (.ofValue v)).toOption

/-- The JSON text of a typed value. -/
def render {α : Type} (codec : Codec α) (a : α) : String := (codec.write a).render

/-! ## Reading what was written -/

/-- A codec keeps a value if it reads back what it wrote, at any depth. -/
def Keeps {α : Type} (codec : Codec α) (a : α) : Prop :=
  ∀ depth, codec.read depth (.ofValue (codec.write a)) = .ok a

/-- **Texts are kept.** -/
theorem text_keeps (s : String) : text.Keeps s := fun _ => rfl

/-- **Flags are kept.** -/
theorem flag_keeps (b : Bool) : flag.Keeps b := fun _ => rfl

/-- A natural number within the bound reads back. -/
theorem readNatural_natural {n bound : Nat} (h : n < bound) :
    readNatural bound (.ofValue (.natural n)) = .ok n := by
  have h1 : (0 : Int) ≤ (n : Int) := Int.natCast_nonneg n
  have h2 : (n : Int) < (bound : Int) := Int.ofNat_lt.2 h
  simp [Value.natural, Outline.ofValue, readNatural, h1, h2]

/-- **Sizes are kept**, up to the largest of 64 bits. -/
theorem size_keeps (n : UInt64) : size.Keeps n := by
  intro depth
  change UInt64.ofNat <$> readNatural UInt64.size (.ofValue (.natural n.toNat)) = .ok n
  rw [readNatural_natural n.toNat_lt_size]
  simp [Functor.map, Except.map]

end Codec

end FederatedStorage.Json
