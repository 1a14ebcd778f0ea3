import FederatedStorage.Yaml.Cursor

/-!
# The texts of scalars

A scalar is written plainly, between quotes, or as a block of lines. Line breaks within plain and
quoted scalars are folded; a block keeps them or folds them, as its header says.

## Main definitions

* `plain?`, `quoted?`, `block?`: scalars that begin at a place.
-/

namespace FederatedStorage.Yaml

/-! ## Plain scalars -/

/-- The characters that end words within flow collections. -/
def isFlowMark (c : Char) : Bool := [',', '[', ']', '\x7b', '\x7d'].contains c

/-- Whether a colon and this character must not stand in a plain scalar of a flow collection. -/
def isBadAfterColon (next : Option Char) : Bool :=
  (next.map fun c => isFlowMark c || c == '?').getD false

/-- **A word of a plain scalar**: everything up to a gap or a mark. -/
def plainWord? (inFlow : Bool) : List Char → Option (List Char)
  | [] => some []
  | c :: cs =>
    if isGap c then some []
    else if c == ':' && inFlow && isBadAfterColon cs.head? then none
    else if c == ':' && endsWord cs.head? then some []
    else if inFlow && isFlowMark c then some []
    else do return c :: (← plainWord? inFlow cs)

/-- Whether a tab stands where a line must be indented, in a gap that begins at `column`. -/
def tabIndents (floor : Nat) (atLineStart : Bool) (column : Nat) : List Char → Bool
  | [] => false
  | c :: cs =>
    if isBreak c then tabIndents floor true 0 cs
    else (atLineStart && column < floor && c == '\t') || tabIndents floor atLineStart (column + 1) cs

/-- What a gap between two words stands for. -/
def gapText (gap : List Char) : List Char :=
  if gap.any isBreak then fold (gap.filter isBreak) else gap

/-- A scalar that has been read. -/
structure Found where
  text : List Char
  after : Cursor
  /-- Whether lines ended behind its last word. -/
  endsLine : Bool

/-- A plain scalar after the text `sofar` and a gap. Its lines are indented up to `floor` at
least. -/
def plainFrom? (inFlow : Bool) (floor : Nat) (sofar gap : List Char) (c : Cursor) :
    Nat → Option Found
  | 0 => none
  | fuel + 1 =>
    let stopped : Found := ⟨sofar, c, gap.any isBreak⟩
    if c.isAtDocumentMark || c.isAt '#' then some stopped
    else do
      let word ← plainWord? inFlow c.rest
      if word.isEmpty then return stopped
      let text := sofar ++ gapText gap ++ word
      let c := c.skip word.length
      let (gap, next) := c.span isGap
      if gap.isEmpty then return ⟨text, c, false⟩
      if tabIndents floor false c.column gap then none
      if !inFlow && next.column < floor then return ⟨text, next, gap.any isBreak⟩
      plainFrom? inFlow floor text gap next fuel

/-- **A plain scalar.** -/
def plain? (inFlow : Bool) (floor : Nat) (c : Cursor) : Option Found :=
  plainFrom? inFlow floor [] [] c c.fuel

/-! ## Quoted scalars -/

/-- The characters that a letter after a backslash stands for. -/
def shortEscapes : List (Char × Nat) :=
  [('0', 0x00), ('a', 0x07), ('b', 0x08), ('t', 0x09), ('\t', 0x09), ('n', 0x0A), ('v', 0x0B),
    ('f', 0x0C), ('r', 0x0D), ('e', 0x1B), (' ', 0x20), ('"', 0x22), ('/', 0x2F), ('\\', 0x5C),
    ('N', 0x85), ('_', 0xA0), ('L', 0x2028), ('P', 0x2029)]

/-- How many hexadecimal digits follow a letter after a backslash. -/
def hexEscapes : List (Char × Nat) := [('x', 2), ('u', 4), ('U', 8)]

/-- The value of a hexadecimal digit. -/
def hexValue? (c : Char) : Option Nat :=
  if c.isDigit then some (c.toNat - 0x30)
  else if 'a' ≤ c && c ≤ 'f' then some (c.toNat - 0x57)
  else if 'A' ≤ c && c ≤ 'F' then some (c.toNat - 0x37)
  else none

/-- The value of hexadecimal digits, of which there must be `count`. -/
def hexNumber? (count : Nat) (cs : List Char) : Option Nat :=
  if cs.length < count then none
  else (cs.take count).foldlM (fun n c => (hexValue? c).map fun d => 16 * n + d) 0

/-- A character by its number, if it has one. -/
def charOf? (n : Nat) : Option Char :=
  if n < 0xD800 || (0xE000 ≤ n && n < 0x110000) then some (Char.ofNat n) else none

/-- What the characters after a backslash stand for, and how many they are. -/
def escape? : List Char → Option (Char × Nat)
  | [] => none
  | c :: cs =>
    match shortEscapes.lookup c with
    | some n => some (Char.ofNat n, 1)
    | none => do
      let count ← hexEscapes.lookup c
      return (← charOf? (← hexNumber? count cs), count + 1)

/-- How a stretch of a quoted scalar without gaps ends. -/
inductive StretchEnd
  | atGap
  | atQuote
  /-- The line ends behind a backslash. -/
  | joined
deriving DecidableEq

/-- A stretch of a quoted scalar without gaps. -/
structure Stretch where
  text : List Char
  length : Nat
  ending : StretchEnd

namespace Stretch

/-- One more character in front, written with so many. -/
def push (s : Stretch) (c : Char) (width : Nat) : Stretch :=
  { s with text := c :: s.text, length := s.length + width }

/-- A stretch between single quotes, where two of them stand for one. -/
def single : List Char → Stretch
  | [] => ⟨[], 0, .atGap⟩
  | '\'' :: '\'' :: cs => (single cs).push '\'' 2
  | c :: cs =>
    if c == '\'' then ⟨[], 0, .atQuote⟩
    else if isGap c then ⟨[], 0, .atGap⟩
    else (single cs).push c 1

/-- A stretch between double quotes, where a backslash begins an escape. -/
def double? : Nat → List Char → Option Stretch
  | 0, _ => none
  | _, [] => some ⟨[], 0, .atGap⟩
  | fuel + 1, c :: cs =>
    if c == '"' then some ⟨[], 0, .atQuote⟩
    else if isGap c then some ⟨[], 0, .atGap⟩
    else if c == '\\' then
      if (cs.head?.map isBreak).getD false then some ⟨[], 2, .joined⟩
      else do
        let (x, width) ← escape? cs
        return (← double? fuel (cs.drop width)).push x (width + 1)
    else do return (← double? fuel cs).push c 1

end Stretch

/-- A quoted scalar after the text `sofar`, up to its closing quote. -/
def quotedFrom? (isSingle : Bool) (sofar : List Char) (c : Cursor) : Nat → Option Found
  | 0 => none
  | fuel + 1 =>
    if c.isAtDocumentMark || c.rest.isEmpty then none
    else do
      let s ← if isSingle then some (Stretch.single c.rest)
        else Stretch.double? c.fuel c.rest
      let text := sofar ++ s.text
      let c := c.skip s.length
      if s.ending == .atQuote then return ⟨text, c.advance, false⟩
      let (gap, next) := c.span isGap
      let gapText := if s.ending == .joined then gap.filter isBreak else gapText gap
      quotedFrom? isSingle (text ++ gapText) next fuel

/-- **A quoted scalar**, of which the opening quote is next. -/
def quoted? (isSingle : Bool) (c : Cursor) : Option Found :=
  quotedFrom? isSingle [] c.advance c.fuel

/-! ## Blocks -/

/-- What becomes of the line breaks at the end of a block. -/
inductive Chomping
  | strip
  | clip
  | keep
deriving DecidableEq

/-- The header of a block. -/
structure BlockHeader where
  chomping : Chomping
  /-- How much the block is indented; found out from its lines where it is not given. -/
  increment : Option Nat

/-- Reads how a block ends. -/
def chomping? (c : Cursor) : Option (Chomping × Cursor) :=
  if c.isAt '+' then some (.keep, c.advance)
  else if c.isAt '-' then some (.strip, c.advance)
  else none

/-- Reads an indentation, which must not be zero. -/
def increment? (c : Cursor) : Option (Option Nat × Cursor) :=
  match c.peek? with
  | some x =>
    if x.isDigit then
      if x == '0' then none else some (some (x.toNat - 0x30), c.advance)
    else some (none, c)
  | none => some (none, c)

/-- Reads the header of a block, whose two parts stand in either order. -/
def blockHeader? (c : Cursor) : Option (BlockHeader × Cursor) :=
  match chomping? c with
  | some (chomping, c) => do
    let (increment, c) ← increment? c
    return (⟨chomping, increment⟩, ← c.endOfLine?)
  | none => do
    let (increment, c) ← increment? c
    match increment, chomping? c with
    | some _, some (chomping, c) => return (⟨chomping, increment⟩, ← c.endOfLine?)
    | _, _ => return (⟨.clip, increment⟩, ← c.endOfLine?)

/-- The empty lines before the next line of a block. -/
structure Emptiness where
  breaks : List Char
  /-- The column of the deepest of them. -/
  deepest : Nat
  after : Cursor

/-- Skips empty lines, and the indentation of the line behind them. Tabs do not indent. -/
def skipEmpty? (indent : Option Nat) (found : Emptiness) : Nat → Option Emptiness
  | 0 => none
  | fuel + 1 =>
    let indents (column : Nat) : Bool := (indent.map fun i => decide (column < i)).getD true
    let spaces := found.after.rest.takeWhile (· == ' ')
    let width := match indent with
      | some i => min spaces.length (i - found.after.column)
      | none => spaces.length
    let c := found.after.skip width
    let deepest := max found.deepest c.column
    if indents c.column && c.isAt '\t' then none
    else
      match c.peek? with
      | some x =>
        if isBreak x then skipEmpty? indent ⟨found.breaks ++ [x], deepest, c.advance⟩ fuel
        else some ⟨found.breaks, deepest, c⟩
      | none => some ⟨found.breaks, deepest, c⟩

/-- A block that is being read. -/
structure BlockText where
  text : List Char
  /-- The break that ended the last line. -/
  lastBreak : List Char
  /-- The breaks of the empty lines behind it. -/
  emptyBreaks : List Char
  /-- Whether the last line began with a blank. -/
  beganBlank : Bool

namespace BlockText

/-- One more line. Two lines are folded unless one of them begins with a blank. -/
def addLine (b : BlockText) (isFolded : Bool) (line ending : List Char) : BlockText :=
  let beginsBlank := (line.head?.map isBlank).getD false
  let join :=
    if isFolded && b.lastBreak == ['\n'] && !b.beganBlank && !beginsBlank then
      if b.emptyBreaks.isEmpty then [' '] else []
    else b.lastBreak
  ⟨b.text ++ join ++ b.emptyBreaks ++ line, ending, [], beginsBlank⟩

/-- The whole text. -/
def finish (b : BlockText) : Chomping → List Char
  | .strip => b.text
  | .clip => b.text ++ b.lastBreak
  | .keep => b.text ++ b.lastBreak ++ b.emptyBreaks

end BlockText

/-- The lines of a block. -/
def blockLines? (isFolded : Bool) (indent : Nat) (b : BlockText) (c : Cursor) :
    Nat → Option (BlockText × Cursor)
  | 0 => none
  | fuel + 1 =>
    if c.column != indent || c.rest.isEmpty then some (b, c)
    else do
      let (line, c) := c.span fun x => !isBreak x
      let b := b.addLine isFolded line (c.rest.take 1)
      let empty ← skipEmpty? (some indent) ⟨[], 0, c.advance⟩ c.fuel
      blockLines? isFolded indent { b with emptyBreaks := empty.breaks } empty.after fuel

/-- **A block**, of which the mark is next. It is indented by `base` at least, and at `floor` if its
lines do not show more. -/
def block? (isFolded : Bool) (base floor : Nat) (c : Cursor) : Option Found := do
  let (header, c) ← blockHeader? c.advance
  let given := header.increment.map fun n => base + n
  let empty ← skipEmpty? given ⟨[], 0, c⟩ c.fuel
  let indent := given.getD (max empty.deepest (max floor 1))
  let (b, c) ← blockLines? isFolded indent ⟨[], [], empty.breaks, false⟩ empty.after c.fuel
  return ⟨b.finish header.chomping, c, true⟩

end FederatedStorage.Yaml
