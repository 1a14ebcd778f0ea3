/-!
# Reproducible draws

A stream of 64-bit words from a seed, and the choice of one of `n` possibilities by such words. The
stream is that of the ChaCha cipher with twelve rounds, under a key that a linear congruential
generator spreads from the seed. A word is accepted if the low half of its product with `n` does not
exceed a bound; the high half is then the choice. The bound cuts the words so that every choice has
the same number of accepted words.

## Main definitions

* `Draws.ofSeed`, `Draws.word`: the stream.
* `Draws.period`: when it begins again.
* `accepts`, `choice`: a word as a choice.
* `Draws.pick`: the first accepted word's choice.
-/

namespace FederatedStorage.Placement

/-! ## The key -/

/-- One step of the generator that spreads the seed. -/
def spread (state : UInt64) : UInt64 := state * 6364136223846793005 + 11634580027462260723

/-- Turns a word to the right. -/
def rotateRight (x places : UInt32) : UInt32 := (x >>> places) ||| (x <<< (32 - places))

/-- Turns a word to the left. -/
def rotateLeft (x places : UInt32) : UInt32 := (x <<< places) ||| (x >>> (32 - places))

/-- The word that a state of the generator shows. -/
def shown (state : UInt64) : UInt32 :=
  rotateRight (((state >>> 18) ^^^ state) >>> 27).toUInt32 (state >>> 59).toUInt32

/-- The next `n` words of the key. -/
def keyWords (state : UInt64) : Nat → List UInt32
  | 0 => []
  | n + 1 => shown (spread state) :: keyWords (spread state) n

/-! ## The cipher -/

/-- Four words: a row of the cipher's square, or a column. -/
structure Quad where
  a : UInt32
  b : UInt32
  c : UInt32
  d : UInt32
deriving DecidableEq, Repr, Inhabited

/-- The four rows of the cipher's square. -/
structure Square where
  first : Quad
  second : Quad
  third : Quad
  fourth : Quad
deriving DecidableEq, Repr, Inhabited

/-- Mixes a column. -/
def mix (q : Quad) : Quad :=
  let a := q.a + q.b
  let d := rotateLeft (q.d ^^^ a) 16
  let c := q.c + d
  let b := rotateLeft (q.b ^^^ c) 12
  let a := a + b
  let d := rotateLeft (d ^^^ a) 8
  let c := c + d
  let b := rotateLeft (b ^^^ c) 7
  ⟨a, b, c, d⟩

/-- Rows become columns. -/
def Square.transpose (s : Square) : Square :=
  ⟨⟨s.first.a, s.second.a, s.third.a, s.fourth.a⟩, ⟨s.first.b, s.second.b, s.third.b, s.fourth.b⟩,
    ⟨s.first.c, s.second.c, s.third.c, s.fourth.c⟩, ⟨s.first.d, s.second.d, s.third.d, s.fourth.d⟩⟩

/-- Mixes all columns. -/
def Square.mixColumns (s : Square) : Square :=
  let t := s.transpose
  Square.transpose ⟨mix t.first, mix t.second, mix t.third, mix t.fourth⟩

/-- Turns a row by one place. -/
def Quad.turn (q : Quad) : Quad := ⟨q.b, q.c, q.d, q.a⟩

/-- Two rounds: the columns, then the diagonals. -/
def Square.doubleRound (s : Square) : Square :=
  let s := s.mixColumns
  let s : Square := ⟨s.first, s.second.turn, s.third.turn.turn, s.fourth.turn.turn.turn⟩
  let s := s.mixColumns
  ⟨s.first, s.second.turn.turn.turn, s.third.turn.turn, s.fourth.turn⟩

/-- Adds rows. -/
def Quad.add (p q : Quad) : Quad := ⟨p.a + q.a, p.b + q.b, p.c + q.c, p.d + q.d⟩

/-- The words of a row. -/
def Quad.words (q : Quad) : List UInt32 := [q.a, q.b, q.c, q.d]

/-- A row of a list of words. -/
def Quad.ofList : List UInt32 → Quad
  | [a, b, c, d] => ⟨a, b, c, d⟩
  | _ => ⟨0, 0, 0, 0⟩

/-- The rows before the first round: four constants, the key, and the number of the block. -/
def Square.start (key : List UInt32) (block : UInt64) : Square :=
  ⟨⟨0x61707865, 0x3320646e, 0x79622d32, 0x6b206574⟩, .ofList (key.take 4),
    .ofList ((key.drop 4).take 4), ⟨block.toUInt32, (block >>> 32).toUInt32, 0, 0⟩⟩

/-- The sixteen words of a block, after `doubleRounds` double rounds. -/
def blockWords (doubleRounds : Nat) (key : List UInt32) (block : UInt64) : List UInt32 :=
  let start := Square.start key block
  let s := doubleRounds.repeat Square.doubleRound start
  (s.first.add start.first).words ++ (s.second.add start.second).words
    ++ (s.third.add start.third).words ++ (s.fourth.add start.fourth).words

/-! ## Draws -/

/-- A stream of words, and how many have been drawn. -/
structure Draws where
  key : List UInt32
  drawn : Nat
deriving DecidableEq, Repr, Inhabited

/-- The stream of a seed. -/
def Draws.ofSeed (seed : UInt64) : Draws := ⟨keyWords seed 8, 0⟩

/-- **The word at a place of the stream**: two words of the cipher, the lower first. -/
def Draws.word (d : Draws) (place : Nat) : UInt64 :=
  let words := blockWords 6 d.key (UInt64.ofNat (place / 8))
  let pair := words.drop (2 * (place % 8))
  match pair with
  | low :: high :: _ => low.toUInt64 + (high.toUInt64 <<< 32)
  | _ => 0

/-- The number of leading zeros of `n`, in 64 bits. -/
def leadingZeros (n : Nat) : Nat := if n == 0 then 64 else 63 - n.log2

/-- The greatest low half that is accepted: `n` without its leading zeros, less one. -/
def zone (n : Nat) : Nat := n * Nat.pow 2 (leadingZeros n) - 1

/-- **Whether a word is accepted** for a choice among `n`. -/
def accepts (n : Nat) (word : UInt64) : Bool := word.toNat * n % UInt64.size ≤ zone n

/-- **The choice that a word makes** among `n`. -/
def choice (n : Nat) (word : UInt64) : Nat := word.toNat * n / UInt64.size

/-- Tries words until one is accepted, so many times at most. -/
def Draws.pickWithin (d : Draws) (n : Nat) : Nat → Nat × Draws
  | 0 => (0, d)
  | tries + 1 =>
    let word := d.word d.drawn
    let next : Draws := { d with drawn := d.drawn + 1 }
    if accepts n word then (choice n word, next) else next.pickWithin n tries

/-- The number of words after which a stream begins again: a block has eight words, and its number
64 bits. -/
def Draws.period : Nat := Nat.pow 2 67

/-- **Chooses among `n`** by the first word that is accepted. Every word of the stream has been tried
after a period, so that the bound on the tries keeps no word from being found. -/
def Draws.pick (d : Draws) (n : Nat) : Nat × Draws := d.pickWithin n period

end FederatedStorage.Placement
