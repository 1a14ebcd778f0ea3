import FederatedStorage.Json.Value
import FederatedStorage.Keyed
import FederatedStorage.Yaml.Node

/-!
# The values of YAML nodes

What a node stands for where any value may stand. A plain scalar is nothing, a truth value, a number
or a text, as its characters say; a scalar of another style is a text. A tag of the standard's own
says what a scalar is; a tag of the document's own is refused.

References are followed, but only so often in a document, and only so many collections may be open
within each other; so a small document cannot stand for a huge value.

## Main definitions

* `plainValue?`: the value of a plain scalar.
* `Document.value`: the value of a node.
-/

namespace FederatedStorage.Yaml

open Decimal Json Text

/-! ## Numbers -/

/-- A sign of a number. -/
def isSign (c : Char) : Bool := c == '+' || c == '-'

/-- Whether a sign comes first. -/
def beginsSigned (cs : List Char) : Bool := (cs.head?.map isSign).getD false

/-- Cuts a plus sign off. -/
def dropPlus : List Char → List Char
  | '+' :: cs => cs
  | cs => cs

/-- The value of a digit to a base. -/
def digit? (base : Nat) (c : Char) : Option Nat := (hexValue? c).filter fun d => d < base

/-- The number that digits stand for. -/
def digits? (base : Nat) (cs : List Char) : Option Nat :=
  if cs.isEmpty then none
  else cs.foldlM (fun n c => (digit? base c).map fun d => base * n + d) 0

/-- Whether digits are a text because zeros come first. -/
def isZeroPadded (cs : List Char) : Bool :=
  let cs := if beginsSigned cs then cs.drop 1 else cs
  cs.length ≥ 2 && cs.head? == some '0' && cs.all Char.isDigit

/-- Digits with the base in front, or decimal ones. -/
def magnitude? : List Char → Option Nat
  | '0' :: 'x' :: cs => digits? 16 cs
  | '0' :: 'o' :: cs => digits? 8 cs
  | '0' :: 'b' :: cs => digits? 2 cs
  | cs => digits? 10 cs

/-- How a text stands to the integers. -/
inductive Whole
  | notWhole
  | tooLarge
  | value (n : Int)

/-- A number with a sign, if it lies within bounds. Far beyond them it is taken for a real. -/
def Whole.ofBounds (negative : Bool) (n kept refused : Nat) : Whole :=
  if n ≤ kept then .value (if negative then -(n : Int) else n)
  else if n ≤ refused then .tooLarge
  else .notWhole

/-- **The integer of a text.** It has 64 bits, signed or unsigned. -/
def whole (cs : List Char) : Whole :=
  if isZeroPadded cs then .notWhole
  else
    match cs with
    | '-' :: rest =>
      match magnitude? rest with
      | some n => .ofBounds true n (Nat.pow 2 63) (Nat.pow 2 127)
      | none => .notWhole
    | _ =>
      match magnitude? (dropPlus cs) with
      | some n => .ofBounds false n (Nat.pow 2 64 - 1) (Nat.pow 2 128 - 1)
      | none => .notWhole

/-- The parts of a real as written: digits before and behind the point, and an exponent. -/
structure RealText where
  whole : List Char
  fraction : List Char
  exponent : Int

/-- An exponent. -/
def exponent? : List Char → Option Int
  | [] => some 0
  | e :: cs =>
    if e == 'e' || e == 'E' then
      match cs with
      | '-' :: ds => (digits? 10 ds).map fun n => -(n : Int)
      | ds => (digits? 10 (dropPlus ds)).map fun n => (n : Int)
    else none

/-- The parts of a real without a sign. -/
def RealText.ofText? (cs : List Char) : Option RealText := do
  let whole := cs.takeWhile Char.isDigit
  let rest := cs.dropWhile Char.isDigit
  let (fraction, rest) := match rest with
    | '.' :: more => (more.takeWhile Char.isDigit, more.dropWhile Char.isDigit)
    | rest => ([], rest)
  if whole.isEmpty && fraction.isEmpty then none
  return ⟨whole, fraction, ← exponent? rest⟩

/-- The magnitude of a real; none beyond the binary format. -/
def RealText.magnitude? (r : RealText) : Option Binary64 := do
  let n ← digits? 10 (r.whole ++ r.fraction)
  let e := r.exponent - r.fraction.length
  let size := e + (Nat.toDigits 10 n).length
  if n == 0 || size < -400 then return .zero
  else if 400 < size then none
  else if 0 ≤ e then Binary64.ofRatio? (n * Nat.pow 10 e.toNat) 1
  else Binary64.ofRatio? n (Nat.pow 10 (-e).toNat)

/-- The names of what is no finite real, without a sign. -/
def infinityNames : List String := [".inf", ".Inf", ".INF"]

/-- The names of no real at all. -/
def nanNames : List String := [".nan", ".NaN", ".NAN"]

/-- A finite real. -/
def finite? (negative : Bool) (cs : List Char) : Option Value := do
  return .number (.real negative (← (← RealText.ofText? cs).magnitude?))

/-- **The real of a text.** One that is not finite has no value. -/
def real? (cs : List Char) : Option Value :=
  if nanNames.contains (String.ofList cs) then some .null
  else
    match cs with
    | '-' :: rest =>
      if infinityNames.contains (String.ofList rest) then some .null else finite? true rest
    | _ =>
      let rest := dropPlus cs
      if infinityNames.contains (String.ofList rest) then some .null else finite? false rest

/-! ## Scalars -/

/-- Whether a word stands for nothing. -/
def isNullWord (s : String) : Bool := ["null", "Null", "NULL", "~"].contains s

/-- The truth value that a word stands for. -/
def truth? (s : String) : Option Bool :=
  if ["true", "True", "TRUE"].contains s then some true
  else if ["false", "False", "FALSE"].contains s then some false
  else none

/-- **The value of a plain scalar.** An integer that is too large has none. -/
def plainValue? (s : String) : Option Value :=
  if s.isEmpty || isNullWord s then some .null
  else
    match truth? s with
    | some b => some (.bool b)
    | none =>
      match whole s.toList with
      | .value n => some (.number (.integer n))
      | .tooLarge => none
      | .notWhole =>
        let real := if isZeroPadded s.toList then none else real? s.toList
        some (real.getD (.string s))

namespace Tag

/-- A tag of the standard's own. -/
def standard (name : String) : Tag := ⟨Utf8.write ("tag:yaml.org,2002:" ++ name)⟩

/-- Whether a tag begins with an exclamation mark. -/
def isMarked (t : Tag) : Bool := t.bytes.head? == some 0x21

/-- Whether a tag is of the document's own. -/
def isLocal (t : Tag) : Bool := t.isMarked && (Utf8.read? t.bytes).isSome

end Tag

/-- The value of a scalar of a tag. -/
def taggedValue? (t : Tag) (s : String) (isPlain : Bool) : Option Value :=
  if t.isLocal then none
  else if t == .standard "bool" then (truth? s).map .bool
  else if t == .standard "int" then
    match whole s.toList with
    | .value n => some (.number (.integer n))
    | _ => none
  else if t == .standard "float" then real? s.toList
  else if t == .standard "null" then if isNullWord s then some .null else none
  else if t.isMarked && isPlain then plainValue? s
  else some (.string s)

/-- **The value of a scalar.** -/
def scalarValue? (tag : Option Tag) (s : String) (isPlain : Bool) : Option Value :=
  match tag with
  | some t => taggedValue? t s isPlain
  | none => if isPlain then plainValue? s else some (.string s)

/-! ## Nodes -/

/-- Reading that counts the references it follows. -/
abbrev Following (α : Type) := StateT Nat Option α

namespace Document

/-- How many references may be followed for each node that begins or ends. -/
def followLimit : Nat := 100

/-- The node itself, or the one it refers to. -/
def follow (d : Document) : Node → Following Node
  | .reference number => do
    let followed := (← get) + 1
    if d.events * followLimit < followed then failure
    set followed
    liftM (d.node? number)
  | n => return n

/-- The text of a scalar, whatever its style. -/
def text (d : Document) (n : Node) : Following String := do
  match ← d.follow n with
  | .scalar _ s _ => return s
  | _ => failure

/-- Whether a collection's tag is of the document's own. -/
def isRefused (tag : Option Tag) : Bool := (tag.map Tag.isLocal).getD false

/-- The value of a node, with a reader for what is in it, if anything may be. -/
def valueWith (d : Document) (inner? : Option (Node → Following Value)) (n : Node) :
    Following Value := do
  match ← d.follow n with
  | .scalar tag s isPlain => liftM (scalarValue? tag s isPlain)
  | .sequence tag items =>
    match inner? with
    | some inner => if isRefused tag then failure else return .array (← items.mapM inner)
    | none => failure
  | .mapping tag entries =>
    match inner? with
    | some inner =>
      if isRefused tag then failure
      else
        let entries ← entries.mapM fun e => do return (← d.text e.1, ← inner e.2)
        return .object (Keyed.ofList entries).entries
    | none => failure
  | .reference _ => failure

/-- **The value of a node**, in which at most `depth` collections are open at once. -/
def value (d : Document) : Nat → Node → Following Value
  | 0 => d.valueWith none
  | depth + 1 => d.valueWith (some (d.value depth))

/-- Whether a node is a scalar of which nothing is written. -/
def isAbsent : Node → Bool
  | .scalar _ s isPlain => isPlain && s.isEmpty
  | _ => false

/-- The items of a sequence; nothing written is no items. -/
def items (d : Document) (n : Node) : Following (List Node) := do
  match ← d.follow n with
  | .sequence _ items => return items
  | n => if isAbsent n then return [] else failure

/-- The entries of a mapping; nothing written is no entries. -/
def entries (d : Document) (n : Node) : Following (List (Node × Node)) := do
  match ← d.follow n with
  | .mapping _ entries => return entries
  | n => if isAbsent n then return [] else failure

/-- A table of texts. Of two entries of one name the later counts. -/
def textTable (d : Document) (n : Node) : Following (Keyed String) := do
  let entries ← (← d.entries n).mapM fun e => do return (← d.text e.1, ← d.text e.2)
  return Keyed.ofList entries

/-- The entries of a mapping that have one of these names. No name may be given twice. -/
def fields (d : Document) (names : List String) (n : Node) : Following (List (String × Node)) := do
  let entries ← (← d.entries n).mapM fun e => do return (← d.text e.1, e.2)
  let known := entries.filter fun e => names.contains e.1
  if (known.map Prod.fst).eraseDups.length == known.length then return known else failure

end Document

end FederatedStorage.Yaml
