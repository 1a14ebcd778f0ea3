/-!
# Places in a YAML document

A document is a list of characters. Every line break is a line feed or one of the two Unicode
separators, once the other breaks have been made line feeds. A cursor is a place in the document,
and knows its line, its column and its offset: a column counts characters, an offset the bytes of
their UTF-8.
-/

namespace FederatedStorage.Yaml

/-! ## Characters -/

/-- Whether a document may hold a character. -/
def isAllowed (c : Char) : Bool :=
  let n := c.toNat
  n == 0x09 || n == 0x0A || n == 0x0D || (0x20 ≤ n && n ≤ 0x7E) || n == 0x85
    || (0xA0 ≤ n && n ≤ 0xFFFD) || 0x10000 ≤ n

/-- Whether a character ends a line, once breaks are even. -/
def isBreak (c : Char) : Bool := c == '\n' || c.toNat == 0x2028 || c.toNat == 0x2029

/-- A space or a tab. -/
def isBlank (c : Char) : Bool := c == ' ' || c == '\t'

/-- Whether a character separates words. -/
def isGap (c : Char) : Bool := isBlank c || isBreak c

/-- Whether a word ends before this character, or at the end of the document. -/
def endsWord (next : Option Char) : Bool := (next.map isGap).getD true

/-- A character of a name. -/
def isNameChar (c : Char) : Bool := c.isAlphanum || c == '_' || c == '-'

/-- The mark that may stand at the start of a line. -/
def byteOrderMark : Char := Char.ofNat 0xFEFF

/-- Makes carriage returns, alone or before a line feed, and next lines into line feeds. -/
def evenBreaks : List Char → List Char
  | [] => []
  | '\r' :: '\n' :: cs => '\n' :: evenBreaks cs
  | c :: cs => (if c == '\r' || c.toNat == 0x85 then '\n' else c) :: evenBreaks cs

/-- **What breaks folding leaves**: one line feed becomes a space, more lose their first. -/
def fold : List Char → List Char
  | ['\n'] => [' ']
  | '\n' :: more => more
  | breaks => breaks

/-! ## Cursors -/

/-- A place in a document: what follows it, and where it is. -/
structure Cursor where
  rest : List Char
  line : Nat
  column : Nat
  offset : Nat
  /-- How many characters the whole document has. -/
  size : Nat

namespace Cursor

/-- The start of a document. -/
def start (document : List Char) : Cursor := ⟨document, 0, 0, 0, document.length⟩

/-- More steps than any reading from here on takes. -/
def fuel (c : Cursor) : Nat := c.size + 2

/-- One character further. -/
def advance (c : Cursor) : Cursor :=
  match c.rest with
  | [] => c
  | x :: rest =>
    let offset := c.offset + x.utf8Size
    if isBreak x then ⟨rest, c.line + 1, 0, offset, c.size⟩
    else ⟨rest, c.line, c.column + 1, offset, c.size⟩

/-- Some characters further. -/
def skip (c : Cursor) : Nat → Cursor
  | 0 => c
  | n + 1 => c.advance.skip n

/-- The next character. -/
def peek? (c : Cursor) : Option Char := c.rest.head?

/-- Whether the next character is this one. -/
def isAt (c : Cursor) (x : Char) : Bool := c.peek? == some x

/-- Whether the next character is of a kind. -/
def isAtSome (c : Cursor) (p : Char → Bool) : Bool := (c.peek?.map p).getD false

/-- The longest stretch of characters of a kind, and the place behind it. -/
def span (c : Cursor) (p : Char → Bool) : List Char × Cursor :=
  let cs := c.rest.takeWhile p
  (cs, c.skip cs.length)

/-- The place behind the longest stretch of characters of a kind. -/
def skipWhile (c : Cursor) (p : Char → Bool) : Cursor := (c.span p).2

/-- The place behind a comment, if one begins here. -/
def skipComment (c : Cursor) : Cursor :=
  if c.isAt '#' then c.skipWhile fun x => !isBreak x else c

/-- Whether a mark between documents stands here. -/
def isAtDocumentMark (c : Cursor) : Bool :=
  c.column == 0 && (c.rest.take 3 == ['-', '-', '-'] || c.rest.take 3 == ['.', '.', '.'])
    && endsWord (c.rest.drop 3).head?

/-- The end of a line of which nothing is left but blanks and a comment. -/
def endOfLine? (c : Cursor) : Option Cursor :=
  let c := (c.skipWhile isBlank).skipComment
  if c.rest.isEmpty then some c else if c.isAtSome isBreak then some c.advance else none

end Cursor

end FederatedStorage.Yaml
