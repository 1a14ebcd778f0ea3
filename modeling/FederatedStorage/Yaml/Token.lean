import FederatedStorage.Text.Utf8
import FederatedStorage.Yaml.Scalar

/-!
# YAML tokens

The words of a YAML document. Blocks of lines have no brackets of their own, so that their layout
puts tokens around them. Tags are kept as bytes, because their escapes stand for bytes.

## Main definitions

* `Token`: the tokens.
* `name?`, `tag?`, `directive?`: the tokens that need reading of their own.
-/

namespace FederatedStorage.Yaml

/-- A word of a document, or a mark that its layout puts there. -/
inductive Token
  | version (major minor : Nat)
  | tagHandle (handle : String) (start : List UInt8)
  | documentStart
  | documentEnd
  | blockSequence
  | blockMapping
  | blockEnd
  | flowSequence
  | flowSequenceEnd
  | flowMapping
  | flowMappingEnd
  | blockEntry
  | flowEntry
  | key
  | value
  | alias (name : String)
  | anchor (name : String)
  /-- A tag as it is written; without a handle, the whole tag is in its ending. -/
  | tag (handle : String) (ending : List UInt8)
  | scalar (text : String) (isPlain : Bool)
  | streamEnd
deriving DecidableEq, Inhabited

/-! ## Names -/

/-- What may follow a name directly. -/
def endsName (next : Option Char) : Bool :=
  endsWord next
    || (next.map fun c => ['?', ':', ',', ']', '\x7d', '%', '@', '\x60'].contains c).getD false

/-- **The name of an anchor or an alias**, of which the mark is next. -/
def name? (c : Cursor) : Option (String × Cursor) :=
  let (name, after) := c.advance.span isNameChar
  if name.isEmpty || !endsName after.peek? then none else some (String.ofList name, after)

/-! ## Tags -/

/-- A character of a tag that stands for itself. -/
def isTagChar (isVerbatim : Bool) (c : Char) : Bool :=
  isNameChar c
    || [';', '/', '?', ':', '@', '&', '=', '+', '$', '.', '!', '~', '*', '\'', '(', ')'].contains c
    || (isVerbatim && [',', '[', ']'].contains c)

/-- How many bytes a first byte announces, with its own. -/
def announced? (b : Nat) : Option Nat :=
  if b < 0x80 then some 1
  else if b < 0xC0 then none
  else if b < 0xE0 then some 2
  else if b < 0xF0 then some 3
  else if b < 0xF8 then some 4
  else none

/-- The byte of an escape. -/
def escapedByte? : List Char → Option Nat
  | '%' :: h :: l :: _ => do return 16 * (← hexValue? h) + (← hexValue? l)
  | _ => none

/-- The bytes that follow a first one. -/
def followingBytes? : Nat → List Char → Option (List UInt8)
  | 0, _ => some []
  | n + 1, cs => do
    let b ← escapedByte? cs
    if b < 0x80 || 0xC0 ≤ b then none
    else return UInt8.ofNat b :: (← followingBytes? n (cs.drop 3))

/-- The bytes of an escaped character, and how many characters write it. -/
def escapedBytes? (cs : List Char) : Option (List UInt8 × Nat) := do
  let b ← escapedByte? cs
  let n ← announced? b
  return (UInt8.ofNat b :: (← followingBytes? (n - 1) (cs.drop 3)), 3 * n)

/-- The bytes of the characters of a tag, and the place behind them. -/
def tagBytes? (isVerbatim : Bool) (sofar : List UInt8) (c : Cursor) :
    Nat → Option (List UInt8 × Cursor)
  | 0 => none
  | fuel + 1 =>
    match c.peek? with
    | none => some (sofar, c)
    | some x =>
      if x == '%' then do
        let (bytes, width) ← escapedBytes? c.rest
        tagBytes? isVerbatim (sofar ++ bytes) (c.skip width) fuel
      else if isTagChar isVerbatim x then
        tagBytes? isVerbatim (sofar ++ Text.Utf8.write x.toString) c.advance fuel
      else some (sofar, c)

/-- What a tag ends in; it may be empty only behind a handle of one character. What an escaped zero
cuts off does not count. -/
def tagEnding? (isVerbatim : Bool) (handle : List Char) (c : Cursor) :
    Option (List UInt8 × Cursor) := do
  let start := Text.Utf8.write (String.ofList (handle.drop 1))
  let (bytes, after) ← tagBytes? isVerbatim start c c.fuel
  if bytes.isEmpty && handle.isEmpty then none else return (bytes.takeWhile (· != 0), after)

/-- An exclamation mark, a name and perhaps another exclamation mark. -/
def handle (c : Cursor) : List Char × Cursor :=
  let (name, after) := c.advance.span isNameChar
  if after.isAt '!' then ('!' :: name ++ ['!'], after.advance) else ('!' :: name, after)

/-- Whether a handle is closed by an exclamation mark of its own. -/
def isClosed (handle : List Char) : Bool := 2 ≤ handle.length && handle.getLast? == some '!'

/-- A tag up to its end. -/
def tagWord? (c : Cursor) : Option (Token × Cursor) :=
  if (c.rest.drop 1).head? == some '<' then do
    let (ending, after) ← tagEnding? true [] (c.skip 2)
    if after.isAt '>' then return (.tag "" ending, after.advance) else none
  else do
    let (h, after) := handle c
    if isClosed h then
      let (ending, after) ← tagEnding? false [] after
      return (.tag (String.ofList h) ending, after)
    else
      let (ending, after) ← tagEnding? false h after
      if ending.isEmpty then return (.tag "" (Text.Utf8.write "!"), after)
      else return (.tag "!" ending, after)

/-- **A tag**, of which the exclamation mark is next. -/
def tag? (inFlow : Bool) (c : Cursor) : Option (Token × Cursor) := do
  let (t, after) ← tagWord? c
  if endsWord after.peek? || (inFlow && after.isAt ',') then return (t, after) else none

/-! ## Directives -/

/-- A part of a version: a number of nine digits at most. -/
def versionNumber? (c : Cursor) : Option (Nat × Cursor) :=
  let (digits, after) := c.span Char.isDigit
  if digits.isEmpty || 9 < digits.length then none
  else some (digits.foldl (fun n d => 10 * n + (d.toNat - 0x30)) 0, after)

/-- The version that a document is written in. -/
def versionDirective? (c : Cursor) : Option (Token × Cursor) := do
  let (major, c) ← versionNumber? (c.skipWhile isBlank)
  if !c.isAt '.' then none
  let (minor, c) ← versionNumber? c.advance
  return (.version major minor, c)

/-- What a handle stands for. -/
def tagDirective? (c : Cursor) : Option (Token × Cursor) := do
  let c := c.skipWhile isBlank
  if !c.isAt '!' then none
  let (h, c) := handle c
  if !(isClosed h || h == ['!']) || !c.isAtSome isBlank then none
  let (start, c) ← tagEnding? true [] (c.skipWhile isBlank)
  if endsWord c.peek? then return (.tagHandle (String.ofList h) start, c) else none

/-- **A directive**, of which the percent sign is next, with its line. -/
def directive? (c : Cursor) : Option (Token × Cursor) := do
  let (name, c) := c.advance.span isNameChar
  if !endsWord c.peek? then none
  let (t, c) ←
    match String.ofList name with
    | "YAML" => versionDirective? c
    | "TAG" => tagDirective? c
    | _ => none
  return (t, ← c.endOfLine?)

end FederatedStorage.Yaml
