import FederatedStorage.Json.Value

/-!
# JSON tokens

The words of a JSON text. A text that stops being JSON ends in the token `bad`, so that a reader
knows everything that stood before that place.

A string token has no text if it holds half of a surrogate pair, and a number token has no value if
it lies beyond the binary format: such words are harmless where they are skipped, but not where they
are kept.

## Main definitions

* `Numeral.value?`: the value of a numeral. Up to 64 bits of its digits are kept exactly; a real is
  then found by one multiplication or division by a power of ten.
* `tokens`: the tokens of a text.
-/

namespace FederatedStorage.Json

open FederatedStorage.Decimal

/-- A word of a JSON text. -/
inductive Token
  | null
  | bool (b : Bool)
  | number (value? : Option Number)
  | string (text? : Option String)
  | openArray
  | closeArray
  | openObject
  | closeObject
  | colon
  | comma
  | bad
deriving Repr

/-! ## Numerals -/

/-- The parts of a numeral as written. -/
structure Numeral where
  negative : Bool
  whole : List Char
  fraction : List Char
  exponent : Option (Bool × List Char)
deriving Repr

/-- The value of a decimal digit. -/
def digitValue (c : Char) : Nat := c.toNat - 0x30

/-- The value of decimal digits, after those worth `n`. -/
def digitsValue (n : Nat) (ds : List Char) : Nat := ds.foldl (fun n d => 10 * n + digitValue d) n

/-- Digits beyond this are not kept. -/
def significandBound : Nat := UInt64.size

/-- Takes digits as long as the significand stays below its bound; the rest is left over. -/
def takeDigits (n : Nat) : List Char → Nat × List Char
  | [] => (n, [])
  | d :: ds =>
    let next := 10 * n + digitValue d
    if next < significandBound then takeDigits next ds else (n, d :: ds)

/-- A significand and its power of ten. -/
structure Scaled where
  significand : Nat
  power : Int

/-- What the digits before and behind the point are worth. Digits before the point that are not kept
raise the power; a fraction digit that is kept lowers it, and the first that is not ends the
significand. -/
def Numeral.scaled (n : Numeral) : Scaled :=
  let (whole, left) := takeDigits 0 n.whole
  let (all, unkept) := takeDigits whole n.fraction
  ⟨all, (left.length : Int) - ((n.fraction.length - unkept.length : Nat) : Int)⟩

/-- Powers of ten beyond this are taken in steps. -/
def powerStep : Nat := 308

/-- Divides by powers of ten until nothing is left or the rest is one step. -/
def divideSteps (fuel : Nat) (b : Binary64) (power : Nat) : Option Binary64 :=
  match fuel with
  | 0 => some .zero
  | fuel + 1 =>
    if power ≤ powerStep then b.div? (.tenPow power)
    else if b.isZero then some b
    else do divideSteps fuel (← b.div? (.tenPow powerStep)) (power - powerStep)

/-- The magnitude of a significand times a power of ten; none beyond the range. Zero stays zero. -/
def Scaled.magnitude? (s : Scaled) : Option Binary64 := do
  let b ← Binary64.ofNat? s.significand
  if 0 ≤ s.power then
    if s.power.toNat ≤ powerStep then b.mul? (.tenPow s.power.toNat)
    else if b.isZero then some b else none
  else divideSteps 4 b (-s.power).toNat

/-- Written exponents from here on are beyond every range. -/
def exponentBound : Nat := Nat.pow 2 31

/-- The magnitude of a numeral; none beyond the range. -/
def Numeral.magnitude? (n : Numeral) : Option Binary64 :=
  let s := n.scaled
  match n.exponent with
  | none => s.magnitude?
  | some (negative, ds) =>
    let e := digitsValue 0 ds
    if exponentBound ≤ e then
      if s.significand == 0 || negative then some .zero else none
    else
      Scaled.magnitude? ⟨s.significand, if negative then s.power - e else s.power + e⟩

/-- **The value of a numeral.** Digits alone are an integer if it has at most 64 bits; minus zero is
a real. -/
def Numeral.value? (n : Numeral) : Option Number :=
  let real := n.magnitude?.map (Number.real n.negative)
  if n.fraction.isEmpty && n.exponent.isNone then
    let v := digitsValue 0 n.whole
    if n.negative then
      if 0 < v && v ≤ Nat.pow 2 63 then some (.integer (-(v : Int))) else real
    else if v < UInt64.size then some (.integer v)
    else real
  else real

/-- Splits digits off the front. -/
def spanDigits (cs : List Char) : List Char × List Char := cs.span Char.isDigit

/-- Reads an exponent, after its letter. -/
def readExponent (cs : List Char) : Option ((Bool × List Char) × List Char) :=
  let (negative, cs) :=
    match cs with
    | '+' :: cs => (false, cs)
    | '-' :: cs => (true, cs)
    | cs => (false, cs)
  match spanDigits cs with
  | ([], _) => none
  | (ds, rest) => some ((negative, ds), rest)

/-- Reads what follows the whole digits. -/
def readFraction (negative : Bool) (whole cs : List Char) : Option (Numeral × List Char) := do
  let (fraction, cs) ←
    match cs with
    | '.' :: cs =>
      match spanDigits cs with
      | ([], _) => none
      | r => some r
    | cs => some ([], cs)
  match cs with
  | 'e' :: cs | 'E' :: cs =>
    let (e, rest) ← readExponent cs
    some (⟨negative, whole, fraction, some e⟩, rest)
  | cs => some (⟨negative, whole, fraction, none⟩, cs)

/-- Reads a numeral, after its sign. A leading zero stands alone. -/
def readNumeral (negative : Bool) (cs : List Char) : Option (Numeral × List Char) :=
  match spanDigits cs with
  | ([], _) => none
  | ('0' :: _ :: _, _) => none
  | (whole, rest) => readFraction negative whole rest

/-! ## Strings -/

/-- The value of a hexadecimal digit. -/
def hexValue? (c : Char) : Option Nat :=
  if '0' ≤ c && c ≤ '9' then some (c.toNat - 0x30)
  else if 'a' ≤ c && c ≤ 'f' then some (c.toNat - 0x57)
  else if 'A' ≤ c && c ≤ 'F' then some (c.toNat - 0x37)
  else none

/-- The value of four hexadecimal digits. -/
def hexValue4? (a b c d : Char) : Option Nat := do
  return ((← hexValue? a) * 16 + (← hexValue? b)) * 256 + (← hexValue? c) * 16 + (← hexValue? d)

/-- Whether a code unit opens a surrogate pair. -/
def isHighSurrogate (n : Nat) : Bool := 0xD800 ≤ n && n < 0xDC00

/-- Whether a code unit closes a surrogate pair. -/
def isLowSurrogate (n : Nat) : Bool := 0xDC00 ≤ n && n < 0xE000

/-- The character of a surrogate pair. -/
def pairChar (high low : Nat) : Char :=
  Char.ofNat ((high - 0xD800) * 0x400 + (low - 0xDC00) + 0x10000)

/-- The character that a one-letter escape stands for. -/
def shortEscape? (c : Char) : Option Char :=
  match c with
  | '"' => some '"'
  | '\\' => some '\\'
  | '/' => some '/'
  | 'b' => some (Char.ofNat 0x08)
  | 'f' => some (Char.ofNat 0x0C)
  | 'n' => some '\n'
  | 'r' => some '\r'
  | 't' => some '\t'
  | _ => none

/-- What has been read of a string: its characters, latest first, and whether half of a surrogate
pair was met. -/
structure StringState where
  chars : List Char
  halved : Bool

/-- Adds a character. -/
def StringState.push (s : StringState) (c : Char) : StringState := ⟨c :: s.chars, s.halved⟩

/-- Notes half of a surrogate pair. -/
def StringState.halve (s : StringState) : StringState := ⟨s.chars, true⟩

/-- The text read, if no pair was halved. -/
def StringState.text? (s : StringState) : Option String :=
  if s.halved then none else some (String.ofList s.chars.reverse)

/-- Reads a string after its opening quote, up to and with its closing quote. None if a control
character stands in it, an escape is unknown, or it does not end. -/
def readString (s : StringState) (cs : List Char) : Option (Option String × List Char) :=
  match cs with
  | [] => none
  | '"' :: rest => some (s.text?, rest)
  | '\\' :: 'u' :: a :: b :: c :: d :: rest =>
    match hexValue4? a b c d with
    | none => none
    | some high =>
      if isHighSurrogate high then
        match rest with
        | '\\' :: 'u' :: e :: f :: g :: h :: rest2 =>
          match hexValue4? e f g h with
          | none => none
          | some low =>
            if isLowSurrogate low then readString (s.push (pairChar high low)) rest2
            else readString s.halve ('\\' :: 'u' :: e :: f :: g :: h :: rest2)
        | rest => readString s.halve rest
      else if isLowSurrogate high then readString s.halve rest
      else readString (s.push (Char.ofNat high)) rest
  | '\\' :: e :: rest =>
    match shortEscape? e with
    | none => none
    | some c => readString (s.push c) rest
  | c :: rest => if c.toNat < 0x20 || c == '\\' then none else readString (s.push c) rest
termination_by cs.length

/-! ## Texts -/

/-- The blanks of JSON. -/
def isSpace (c : Char) : Bool := c == ' ' || c == '\n' || c == '\t' || c == '\r'

/-- Cuts a word off the front. -/
def dropWord? (word cs : List Char) : Option (List Char) :=
  if word.isPrefixOf cs then some (cs.drop word.length) else none

/-- The first token of a text that begins with no blank, and what follows it. -/
def readToken (cs : List Char) : Option (Token × List Char) :=
  match cs with
  | '[' :: rest => some (.openArray, rest)
  | ']' :: rest => some (.closeArray, rest)
  | '\x7b' :: rest => some (.openObject, rest)
  | '\x7d' :: rest => some (.closeObject, rest)
  | ':' :: rest => some (.colon, rest)
  | ',' :: rest => some (.comma, rest)
  | '"' :: rest => (readString ⟨[], false⟩ rest).map fun r => (.string r.1, r.2)
  | '-' :: rest => (readNumeral true rest).map fun r => (.number r.1.value?, r.2)
  | 'n' :: rest => (dropWord? ['u', 'l', 'l'] rest).map fun r => (.null, r)
  | 't' :: rest => (dropWord? ['r', 'u', 'e'] rest).map fun r => (.bool true, r)
  | 'f' :: rest => (dropWord? ['a', 'l', 's', 'e'] rest).map fun r => (.bool false, r)
  | cs => (readNumeral false cs).map fun r => (.number r.1.value?, r.2)

/-- The tokens of a text; `fuel` bounds their number. -/
def tokensWithin (fuel : Nat) (cs : List Char) : List Token :=
  match fuel with
  | 0 => []
  | fuel + 1 =>
    match cs.dropWhile isSpace with
    | [] => []
    | c :: rest =>
      match readToken (c :: rest) with
      | none => [.bad]
      | some (t, rest) => t :: tokensWithin fuel rest

/-- **The tokens of a text.** Every token takes a character, so there are no more than those. -/
def tokens (text : String) : List Token :=
  let cs := text.toList
  tokensWithin cs.length cs

end FederatedStorage.Json
