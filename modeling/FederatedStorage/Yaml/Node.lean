import FederatedStorage.Yaml.Layout

/-!
# YAML nodes

The structure of a document: scalars, sequences and mappings, and references to nodes that have been
named before. A reference holds a number: how many different names there were when its name was last
given. The numbers stay when a name is given anew, so that two names can come to share a number;
then the node that was numbered last counts.

## Main definitions

* `Node`: the nodes.
* `Document.read?`: the only document of a text.
-/

namespace FederatedStorage.Yaml

open Text

/-- A tag, with its handle resolved. -/
structure Tag where
  bytes : List UInt8
deriving DecidableEq

/-- **A node.** -/
inductive Node
  | scalar (tag : Option Tag) (text : String) (isPlain : Bool)
  | sequence (tag : Option Tag) (items : List Node)
  | mapping (tag : Option Tag) (entries : List (Node × Node))
  | reference (number : Nat)
deriving Inhabited

/-- A node of which nothing is written. -/
def Node.absent : Node := .scalar none "" true

/-- What stands before a node. -/
structure Properties where
  anchor : Option String
  tag : Option Tag

/-- **What is known while a document is read.** -/
structure Reading where
  tokens : List Token
  /-- What the handles of tags stand for. -/
  handles : List (String × List UInt8)
  /-- The numbers of names. -/
  numbers : List (String × Nat)
  /-- Which of all named nodes has a number now, the last first. -/
  holders : List (Nat × Nat)
  /-- The named nodes that are complete, by their order. -/
  named : List (Nat × Node)
  /-- How many nodes were begun or ended. -/
  events : Nat

namespace Reading

/-- Before the first token. -/
def start (tokens : List Token) : Reading := ⟨tokens, [], [], [], [], 0⟩

/-- The next token. -/
def next (r : Reading) : Token := r.tokens.head?.getD .streamEnd

/-- Behind the next token. -/
def skip (r : Reading) : Reading := { r with tokens := r.tokens.drop 1 }

/-- Counts what begins or ends. -/
def count (r : Reading) (n : Nat) : Reading := { r with events := r.events + n }

/-- Gives a name its number, and says which node in order is named. -/
def giveName (r : Reading) (name : String) : Nat × Reading :=
  let number := r.numbers.length
  let order := r.holders.length
  (order, { r with
    numbers := (name, number) :: r.numbers.filter fun n => n.1 != name
    holders := (number, order) :: r.holders })

/-- Keeps a complete node under its order. -/
def keep (r : Reading) (order : Nat) (n : Node) : Reading :=
  { r with named := (order, n) :: r.named }

/-- What a tag stands for. -/
def resolveTag? (r : Reading) (handle : String) (ending : List UInt8) : Option Tag :=
  if handle.isEmpty then some ⟨ending⟩
  else (r.handles.lookup handle).map fun start => ⟨start ++ ending⟩

/-- The anchor and the tag before a node, in either order. -/
def properties? (r : Reading) : Option (Properties × Reading) :=
  match r.next with
  | .anchor name =>
    let r := r.skip
    match r.next with
    | .tag handle ending => do return (⟨some name, some (← r.resolveTag? handle ending)⟩, r.skip)
    | _ => some (⟨some name, none⟩, r)
  | .tag handle ending =>
    let r := r.skip
    match r.next with
    | .anchor name => do return (⟨some name, some (← r.resolveTag? handle ending)⟩, r.skip)
    | _ => do return (⟨none, some (← r.resolveTag? handle ending)⟩, r)
  | _ => some (⟨none, none⟩, r)

/-- Names the node that a reading ends with, if it has an anchor. -/
def naming (anchor : Option String) (r : Reading) (read : Reading → Option (Node × Reading)) :
    Option (Node × Reading) :=
  match anchor with
  | none => read r
  | some name => do
    let (order, r) := r.giveName name
    let (n, r) ← read r
    return (n, r.keep order n)

/-- Whether no item follows a hyphen. -/
def endsItem (isIndentless : Bool) : Token → Bool
  | .blockEntry | .blockEnd => true
  | .key | .value => isIndentless
  | _ => false

/-- Whether nothing follows the mark of a key or a value in a block. -/
def endsPair : Token → Bool
  | .key | .value | .blockEnd => true
  | _ => false

/-- A node of which only the properties are written. -/
def absent? (p : Properties) (r : Reading) : Option (Node × Reading) :=
  if p.anchor.isNone && p.tag.isNone then none
  else some (.scalar p.tag "" true, r.count 1)

mutual

/-- A node. Blocks may begin only within blocks; a sequence that is not indented further only as a
key or a value. -/
def node? (inBlock mayBeIndentless : Bool) (r : Reading) : Nat → Option (Node × Reading)
  | 0 => none
  | fuel + 1 =>
    match r.next with
    | .alias name => do
      let number ← r.numbers.lookup name
      return (.reference number, (r.skip.count 1))
    | _ => do
      let (p, r) ← r.properties?
      naming p.anchor r fun r =>
        match r.next with
        | .blockEntry =>
          if mayBeIndentless then do
            let (items, r) ← blockItems? true r fuel
            return (.sequence p.tag items, r.count 2)
          else absent? p r
        | .scalar text isPlain => some (.scalar p.tag text isPlain, r.skip.count 1)
        | .flowSequence => do
          let (items, r) ← flowItems? true r.skip fuel
          return (.sequence p.tag items, r.count 2)
        | .flowMapping => do
          let (entries, r) ← flowPairs? true r.skip fuel
          return (.mapping p.tag entries, r.count 2)
        | .blockSequence =>
          if inBlock then do
            let (items, r) ← blockItems? false r.skip fuel
            return (.sequence p.tag items, r.count 2)
          else absent? p r
        | .blockMapping =>
          if inBlock then do
            let (entries, r) ← blockPairs? r.skip fuel
            return (.mapping p.tag entries, r.count 2)
          else absent? p r
        | _ => absent? p r

/-- The items of a block, up to its end. A sequence that is not indented further has no end of its
own. -/
def blockItems? (isIndentless : Bool) (r : Reading) : Nat → Option (List Node × Reading)
  | 0 => none
  | fuel + 1 =>
    match r.next with
    | .blockEntry => do
      let r := r.skip
      let (item, r) ←
        if endsItem isIndentless r.next then some (Node.absent, r.count 1)
        else node? true false r fuel
      let (items, r) ← blockItems? isIndentless r fuel
      return (item :: items, r)
    | .blockEnd => some ([], if isIndentless then r else r.skip)
    | _ => if isIndentless then some ([], r) else none

/-- What follows the mark of a key or a value in a block. -/
def blockPart? (r : Reading) : Nat → Option (Node × Reading)
  | 0 => none
  | fuel + 1 => if endsPair r.next then some (Node.absent, r.count 1) else node? true true r fuel

/-- The entries of a block, up to its end. -/
def blockPairs? (r : Reading) : Nat → Option (List (Node × Node) × Reading)
  | 0 => none
  | fuel + 1 =>
    match r.next with
    | .key => do
      let (k, r) ← blockPart? r.skip fuel
      let (v, r) ←
        if r.next == .value then blockPart? r.skip fuel else some (Node.absent, r.count 1)
      let (entries, r) ← blockPairs? r fuel
      return ((k, v) :: entries, r)
    | .blockEnd => some ([], r.skip)
    | _ => none

/-- The items of a flow sequence, up to its end. An item with a key is a mapping of its own. -/
def flowItems? (isFirst : Bool) (r : Reading) : Nat → Option (List Node × Reading)
  | 0 => none
  | fuel + 1 => do
    if r.next == .flowSequenceEnd then return ([], r.skip)
    let r ← if isFirst then some r else if r.next == .flowEntry then some r.skip else none
    match r.next with
    | .flowSequenceEnd => return ([], r.skip)
    | .key =>
      let (k, r) ← flowItemKey? r.skip fuel
      let (v, r) ← flowItemValue? r fuel
      let (items, r) ← flowItems? false (r.count 2) fuel
      return (.mapping none [(k, v)] :: items, r)
    | _ =>
      let (item, r) ← node? false false r fuel
      let (items, r) ← flowItems? false r fuel
      return (item :: items, r)

/-- The key of an item of a flow sequence. Where there is none, the mark behind it is skipped. -/
def flowItemKey? (r : Reading) : Nat → Option (Node × Reading)
  | 0 => none
  | fuel + 1 =>
    match r.next with
    | .value | .flowEntry | .flowSequenceEnd => some (Node.absent, r.skip.count 1)
    | _ => node? false false r fuel

/-- The value of an item of a flow sequence. -/
def flowItemValue? (r : Reading) : Nat → Option (Node × Reading)
  | 0 => none
  | fuel + 1 =>
    if r.next == .value then
      let r := r.skip
      match r.next with
      | .flowEntry | .flowSequenceEnd => some (Node.absent, r.count 1)
      | _ => node? false false r fuel
    else some (Node.absent, r.count 1)

/-- The entries of a flow mapping, up to its end. -/
def flowPairs? (isFirst : Bool) (r : Reading) : Nat → Option (List (Node × Node) × Reading)
  | 0 => none
  | fuel + 1 => do
    if r.next == .flowMappingEnd then return ([], r.skip)
    let r ← if isFirst then some r else if r.next == .flowEntry then some r.skip else none
    match r.next with
    | .flowMappingEnd => return ([], r.skip)
    | .key =>
      let (k, r) ← flowPart? r.skip fuel
      let (v, r) ← flowPairValue? r fuel
      let (entries, r) ← flowPairs? false r fuel
      return ((k, v) :: entries, r)
    | _ =>
      let (k, r) ← node? false false r fuel
      let (entries, r) ← flowPairs? false (r.count 1) fuel
      return ((k, Node.absent) :: entries, r)

/-- The key of an entry of a flow mapping. -/
def flowPart? (r : Reading) : Nat → Option (Node × Reading)
  | 0 => none
  | fuel + 1 =>
    match r.next with
    | .value | .flowEntry | .flowMappingEnd => some (Node.absent, r.count 1)
    | _ => node? false false r fuel

/-- The value of an entry of a flow mapping. -/
def flowPairValue? (r : Reading) : Nat → Option (Node × Reading)
  | 0 => none
  | fuel + 1 =>
    if r.next == .value then
      let r := r.skip
      match r.next with
      | .flowEntry | .flowMappingEnd => some (Node.absent, r.count 1)
      | _ => node? false false r fuel
    else some (Node.absent, r.count 1)

end

/-! ## Documents -/

/-- The handles that every document knows, unless its directives say otherwise. -/
def standardHandles : List (String × List UInt8) :=
  [("!", Utf8.write "!"), ("!!", Utf8.write "tag:yaml.org,2002:")]

/-- The directives before a document: at most one version, which must be 1.1 or 1.2, and no handle
twice. -/
def directives? (sawVersion : Bool) (handles : List (String × List UInt8)) :
    List Token → Option (List (String × List UInt8) × List Token)
  | .version major minor :: rest =>
    if sawVersion || major != 1 || !(minor == 1 || minor == 2) then none
    else directives? true handles rest
  | .tagHandle handle start :: rest =>
    if (handles.lookup handle).isSome then none
    else directives? sawVersion (handles ++ [(handle, start)]) rest
  | rest => some (handles, rest)

/-- Whether a token begins a document with directives or a mark. -/
def isExplicit : Token → Bool
  | .version .. | .tagHandle .. | .documentStart => true
  | _ => false

/-- The root of a document that begins with directives or a mark. -/
def explicitRoot? (r : Reading) (fuel : Nat) : Option (Node × Reading) := do
  let (handles, rest) ← directives? false [] r.tokens
  let r := { r with handles := handles ++ standardHandles, tokens := rest }
  if r.next != .documentStart then none
  let r := r.skip
  match r.next with
  | .version .. | .tagHandle .. | .documentStart | .documentEnd | .streamEnd =>
    return (Node.absent, r.count 1)
  | _ => node? true false r fuel

/-- The root of a document. -/
def root? (r : Reading) (fuel : Nat) : Option (Node × Reading) :=
  if isExplicit r.next then explicitRoot? r fuel
  else node? true false { r with handles := standardHandles } fuel

/-- Whether nothing follows a document but marks of its end. -/
def isOver (r : Reading) : Bool :=
  match r.tokens.dropWhile (· == .documentEnd) with
  | [.streamEnd] => true
  | _ => false

end Reading

/-- **A document.** One without content has no root. -/
structure Document where
  root : Option Node
  /-- Which of all named nodes has a number, the last first. -/
  holders : List (Nat × Nat)
  named : List (Nat × Node)
  events : Nat

namespace Document

/-- A document without content. -/
def empty : Document := ⟨none, [], [], 0⟩

/-- The node of a number. -/
def node? (d : Document) (number : Nat) : Option Node := do
  d.named.lookup (← d.holders.lookup number)

/-- The only document of tokens. -/
def ofTokens? (tokens : List Token) : Option Document := do
  let r := Reading.start tokens
  if r.next == .streamEnd then return empty
  let (root, r) ← r.root? (4 * tokens.length + 8)
  if r.isOver then return ⟨some root, r.holders, r.named, r.events⟩ else none

/-- **The only document of a text.** -/
def read? (text : String) : Option Document := do ofTokens? (← tokens? text.toList)

end Document

end FederatedStorage.Yaml
