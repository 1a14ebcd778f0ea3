import FederatedStorage.Yaml.Token

/-!
# The layout of a document

Blocks are laid out by indentation: a word further to the right than the current block may open a
block, and one further to the left closes blocks. Only a colon shows that a word before it was a
key, and perhaps the first one of a mapping; so words are kept together with what later turns out to
begin at them.

A word may be a key if a key may stand at its place, if it and its colon stand on one line, and if
they are at most `keyReach` characters apart. The first word of a line of a mapping must be a key.

## Main definitions

* `Layout.fetch?`: the next word.
* `tokens?`: the tokens of a document, if it is well laid out.
-/

namespace FederatedStorage.Yaml

/-- A token, and what turned out to begin at it. -/
structure Word where
  token : Token
  /-- The marks that go before the token. -/
  opened : List Token := []

/-- A word that may turn out to be a key. -/
structure Candidate where
  /-- The number of the word. -/
  number : Nat
  isRequired : Bool
  place : Cursor

/-- **How far a document has been laid out.** -/
structure Layout where
  cursor : Cursor
  words : Array Word
  /-- The columns of the open blocks, innermost first. -/
  indents : List Nat
  candidate : Option Candidate
  /-- The candidates around the open flow collections, innermost first. -/
  outer : List (Option Candidate)
  /-- Whether a key may stand here. -/
  allowsKey : Bool

namespace Layout

/-- Before the first word. -/
def start (document : List Char) : Layout := ⟨.start document, #[], [], none, [], true⟩

/-- Whether a flow collection is open. -/
def inFlow (l : Layout) : Bool := !l.outer.isEmpty

/-- The least column of a line that continues a scalar. -/
def floor (l : Layout) : Nat := (l.indents.head?.map (· + 1)).getD 0

/-- One more token. -/
def push (l : Layout) (t : Token) : Layout := { l with words := l.words.push { token := t } }

/-- One more token, which ends at a place. -/
def pushTo (l : Layout) (t : Token) (after : Cursor) : Layout := { l.push t with cursor := after }

/-- One more token of some characters. -/
def pushSkip (l : Layout) (t : Token) (width : Nat) : Layout := l.pushTo t (l.cursor.skip width)

/-! ## Keys -/

/-- How far a key's colon may be from its beginning. -/
def keyReach : Nat := 1024

/-- Whether a candidate is too far back to be a key. -/
def isStale (c : Cursor) (k : Candidate) : Bool :=
  k.place.line < c.line || k.place.offset + keyReach < c.offset

/-- Drops a candidate that is too far back. One that must be a key cannot be dropped. -/
def keepFresh? (c : Cursor) : Option Candidate → Option (Option Candidate)
  | none => some none
  | some k =>
    if isStale c k then
      if k.isRequired then none else some none
    else some (some k)

/-- Drops all candidates that are too far back. -/
def dropStale? (l : Layout) : Option Layout := do
  return { l with
    candidate := ← keepFresh? l.cursor l.candidate
    outer := ← l.outer.mapM (keepFresh? l.cursor) }

/-- Drops the candidate, which must not be required. -/
def dropCandidate? (l : Layout) : Option Layout :=
  if (l.candidate.map Candidate.isRequired).getD false then none
  else some { l with candidate := none }

/-- Makes the next word a candidate, where a key may stand. -/
def saveCandidate? (l : Layout) : Option Layout :=
  if l.allowsKey then do
    let isRequired := !l.inFlow && l.indents.head? == some l.cursor.column
    let l ← l.dropCandidate?
    return { l with candidate := some ⟨l.words.size, isRequired, l.cursor⟩ }
  else some l

/-! ## Blocks -/

/-- Whether a column lies to the right of the innermost block. -/
def isBeyond (l : Layout) (column : Nat) : Bool :=
  (l.indents.head?.map fun i => decide (i < column)).getD true

/-- Opens a block here, if it lies to the right of the innermost one. -/
def openBlock (l : Layout) (t : Token) : Layout :=
  if !l.inFlow && l.isBeyond l.cursor.column then
    { l.push t with indents := l.cursor.column :: l.indents }
  else l

/-- Closes the blocks to the right of a column, of those whose columns are given. -/
def closeFrom (column : Nat) (words : Array Word) : List Nat → Array Word × List Nat
  | [] => (words, [])
  | i :: is =>
    if column < i then closeFrom column (words.push { token := .blockEnd }) is
    else (words, i :: is)

/-- Closes the blocks to the right of the current column. -/
def closeBlocks (l : Layout) : Layout :=
  if l.inFlow then l
  else
    let (words, indents) := closeFrom l.cursor.column l.words l.indents
    { l with words := words, indents := indents }

/-- Closes all blocks. -/
def closeAll (l : Layout) : Layout :=
  if l.inFlow then l
  else
    { l with
      words := l.indents.foldl (fun ws _ => ws.push { token := .blockEnd }) l.words
      indents := [] }

/-! ## Words -/

/-- A mark that stands between documents, or a directive. -/
def betweenDocuments? (l : Layout) (t : Token) (after : Cursor) : Option Layout := do
  let l ← l.closeAll.dropCandidate?
  return { l.pushTo t after with allowsKey := false }

/-- Opens a flow collection. -/
def openFlow? (l : Layout) (t : Token) : Option Layout := do
  let l ← l.saveCandidate?
  return { l.pushSkip t 1 with
    candidate := none, outer := l.candidate :: l.outer, allowsKey := true }

/-- Closes a flow collection. -/
def closeFlow? (l : Layout) (t : Token) : Option Layout := do
  let l ← l.dropCandidate?
  let l := { l.pushSkip t 1 with allowsKey := false }
  match l.outer with
  | [] => return l
  | candidate :: outer => return { l with candidate := candidate, outer := outer }

/-- A comma between the items of a flow collection. -/
def flowEntry? (l : Layout) : Option Layout := do
  let l ← l.dropCandidate?
  return { l.pushSkip .flowEntry 1 with allowsKey := true }

/-- A hyphen before an item of a block. -/
def blockEntry? (l : Layout) : Option Layout := do
  if !l.inFlow && !l.allowsKey then none
  let l ← (l.openBlock .blockSequence).dropCandidate?
  return { l.pushSkip .blockEntry 1 with allowsKey := true }

/-- A question mark before a key. -/
def key? (l : Layout) : Option Layout := do
  if !l.inFlow && !l.allowsKey then none
  let l ← (l.openBlock .blockMapping).dropCandidate?
  return { l.pushSkip .key 1 with allowsKey := !l.inFlow }

/-- Makes a candidate a key, and perhaps the first one of a mapping. -/
def resolve (l : Layout) (k : Candidate) : Layout :=
  let opensBlock := !l.inFlow && l.isBeyond k.place.column
  let opened := if opensBlock then [.blockMapping, .key] else [.key]
  { l with
    words := l.words.modify k.number fun w => { w with opened := opened }
    indents := if opensBlock then k.place.column :: l.indents else l.indents
    candidate := none
    allowsKey := false }

/-- A colon before a value. -/
def value? (l : Layout) : Option Layout := do
  match l.candidate with
  | some k => return (l.resolve k).pushSkip .value 1
  | none =>
    if !l.inFlow && !l.allowsKey then none
    return { (l.openBlock .blockMapping).pushSkip .value 1 with allowsKey := !l.inFlow }

/-- A word that may be a key, or stands before one. -/
def content? (l : Layout) (read : Cursor → Option (Token × Cursor)) : Option Layout := do
  let l ← l.saveCandidate?
  let (t, after) ← read l.cursor
  return { l.pushTo t after with allowsKey := false }

/-- A plain scalar. Where it ends with a line, a key may follow. -/
def plainWord? (l : Layout) : Option Layout := do
  let l ← l.saveCandidate?
  let found ← plain? l.inFlow l.floor l.cursor
  return { l.pushTo (.scalar (String.ofList found.text) true) found.after with
    allowsKey := found.endsLine }

/-- A quoted scalar. -/
def quotedWord? (l : Layout) (isSingle : Bool) : Option Layout :=
  l.content? fun c => do
    let found ← quoted? isSingle c
    return (.scalar (String.ofList found.text) false, found.after)

/-- A block of lines. -/
def blockWord? (l : Layout) (isFolded : Bool) : Option Layout := do
  let l ← l.dropCandidate?
  let found ← block? isFolded (l.indents.head?.getD 0) l.floor l.cursor
  return { l.pushTo (.scalar (String.ofList found.text) false) found.after with allowsKey := true }

/-- The characters that begin no plain scalar, unless as said in `beginsPlain`. -/
def indicators : List Char :=
  ['-', '?', ':', ',', '[', ']', '\x7b', '\x7d', '#', '&', '*', '!', '|', '>', '\'', '"', '%', '@',
    '\x60']

/-- Whether a plain scalar begins with a character before another. -/
def beginsPlain (inFlow : Bool) (c : Char) (next : Option Char) : Bool :=
  (!isGap c && !indicators.contains c)
    || (c == '-' && !(next.map isBlank).getD false)
    || (!inFlow && (c == '?' || c == ':') && !endsWord next)

/-- **The next word**, of which this character is the first. -/
def fetch? (l : Layout) (c : Char) : Option Layout :=
  let next := (l.cursor.rest.drop 1).head?
  if l.cursor.column == 0 && c == '%' then do
    let (t, after) ← directive? l.cursor
    l.betweenDocuments? t after
  else if l.cursor.isAtDocumentMark then
    l.betweenDocuments? (if c == '-' then .documentStart else .documentEnd) (l.cursor.skip 3)
  else if c == '[' then l.openFlow? .flowSequence
  else if c == '\x7b' then l.openFlow? .flowMapping
  else if c == ']' then l.closeFlow? .flowSequenceEnd
  else if c == '\x7d' then l.closeFlow? .flowMappingEnd
  else if c == ',' then l.flowEntry?
  else if c == '-' && endsWord next then l.blockEntry?
  else if c == '?' && (l.inFlow || endsWord next) then l.key?
  else if c == ':' && (l.inFlow || endsWord next) then l.value?
  else if c == '*' then l.content? fun c => (name? c).map fun r => (.alias r.1, r.2)
  else if c == '&' then l.content? fun c => (name? c).map fun r => (.anchor r.1, r.2)
  else if c == '!' then l.content? (tag? l.inFlow)
  else if c == '|' && !l.inFlow then l.blockWord? false
  else if c == '>' && !l.inFlow then l.blockWord? true
  else if c == '\'' then l.quotedWord? true
  else if c == '"' then l.quotedWord? false
  else if beginsPlain l.inFlow c next then l.plainWord?
  else none

/-! ## Whole documents -/

/-- Skips what stands before the next word. A key may stand on a new line, but not behind tabs. -/
def skipGap (l : Layout) : Nat → Layout
  | 0 => l
  | fuel + 1 =>
    let c := l.cursor
    let c := if c.column == 0 && c.isAt byteOrderMark then c.advance else c
    let takesTabs := l.inFlow || !l.allowsKey
    let c := (c.skipWhile fun x => x == ' ' || (takesTabs && x == '\t')).skipComment
    if c.isAtSome isBreak then
      { l with cursor := c.advance, allowsKey := l.allowsKey || !l.inFlow }.skipGap fuel
    else { l with cursor := c }

/-- What is left to do at the end. -/
def finish? (l : Layout) : Option Layout := do
  let l ← l.closeAll.dropCandidate?
  return l.push .streamEnd

/-- Lays the rest of a document out. -/
def run? (l : Layout) : Nat → Option Layout
  | 0 => none
  | fuel + 1 => do
    let l ← (l.skipGap l.cursor.fuel).dropStale?
    let l := l.closeBlocks
    match l.cursor.rest with
    | [] => l.finish?
    | c :: _ => (← l.fetch? c).run? fuel

/-- The tokens so far, each behind what begins at it. -/
def tokens (l : Layout) : List Token := l.words.toList.flatMap fun w => w.opened ++ [w.token]

end Layout

/-- **The tokens of a document**, if all its characters are allowed and it is well laid out. -/
def tokens? (document : List Char) : Option (List Token) :=
  if document.all isAllowed then
    let l := Layout.start (evenBreaks document)
    (l.run? l.cursor.fuel).map Layout.tokens
  else none

end FederatedStorage.Yaml
