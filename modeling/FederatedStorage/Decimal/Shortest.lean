import FederatedStorage.Decimal.Binary64

/-!
# The fewest digits that read back

A magnitude is written with the fewest decimal digits that still round to it, and among those with
the digits nearest to it. The reals that round to a magnitude form an interval; on the decimal grid
with `n` digits the interval is hit exactly if one of the two grid points next to the value lies in
it, so the first grid with a hit gives the digits. Seventeen digits always hit.

## Main definitions

* `digitsOf`: the digits and the place of the point.
* `Layout.write`: how digits are laid out, with or without an exponent.
-/

namespace FederatedStorage.Decimal

/-- Decimal digits and the place of the point: `0.d₁d₂… · 10 ^ point`. -/
structure Digits where
  digits : Nat
  count : Nat
  point : Int
deriving DecidableEq, Repr

/-- Compares `a · 10 ^ k` with the ratio `num / den`. -/
def compareGrid (a : Nat) (k : Int) (num den : Nat) : Ordering :=
  if 0 ≤ k then compare (a * Nat.pow 10 k.toNat * den) num
  else compare (a * den) (num * Nat.pow 10 (-k).toNat)

/-- The open or closed interval of the reals that round to a magnitude, as ratios with the common
denominator `den`. -/
structure Rounding where
  low : Nat
  value : Nat
  high : Nat
  den : Nat
  closed : Bool

/-- The interval around a magnitude: half-way to its neighbours. The lower neighbour of a power of
two is nearer, unless it is the smallest exponent. -/
def rounding (b : Binary64) : Rounding :=
  let near := b.significand == Binary64.leastNormal && Binary64.minExponent < b.exponent
  let v := 4 * b.significand
  let low := if near then v - 1 else v - 2
  let high := v + 2
  if 0 ≤ b.exponent - 2 then
    let s := Nat.pow 2 (b.exponent - 2).toNat
    ⟨low * s, v * s, high * s, 1, b.significand % 2 == 0⟩
  else ⟨low, v, high, Nat.pow 2 (2 - b.exponent).toNat, b.significand % 2 == 0⟩

/-- Whether the grid point `a · 10 ^ k` rounds to the magnitude. -/
def Rounding.holds (r : Rounding) (a : Nat) (k : Int) : Bool :=
  let lo := compareGrid a k r.low r.den
  let hi := compareGrid a k r.high r.den
  (lo == .gt || (r.closed && lo == .eq)) && (hi == .lt || (r.closed && hi == .eq))

/-- The grid point at or below the value. -/
def Rounding.floorAt (r : Rounding) (k : Int) : Nat :=
  if 0 ≤ k then r.value / (r.den * Nat.pow 10 k.toNat)
  else r.value * Nat.pow 10 (-k).toNat / r.den

/-- Whether the value lies nearer to `a` than to `a + 1` on the grid; a tie goes to the even one. -/
def Rounding.prefersLower (r : Rounding) (a : Nat) (k : Int) : Bool :=
  match compareGrid (2 * a + 1) k (2 * r.value) r.den with
  | .gt => true
  | .lt => false
  | .eq => a % 2 == 0

/-- The best point of the grid of step `10 ^ k` that rounds to the magnitude, if one does. -/
def Rounding.hit? (r : Rounding) (k : Int) : Option Nat :=
  let a := r.floorAt k
  match r.holds a k && 0 < a, r.holds (a + 1) k with
  | true, true => some (if r.prefersLower a k then a else a + 1)
  | true, false => some a
  | false, true => some (a + 1)
  | false, false => none

/-- The number of decimal digits of a positive number, at most `fuel`. -/
def width (fuel n : Nat) : Nat :=
  match fuel with
  | 0 => 0
  | fuel + 1 => if n == 0 then 0 else 1 + width fuel (n / 10)

/-- Tries finer and finer grids, from the step `10 ^ k` on. -/
def search (r : Rounding) (fuel : Nat) (k : Int) : Nat × Int :=
  match fuel with
  | 0 => (r.floorAt k, k)
  | fuel + 1 =>
    match r.hit? k with
    | some a => (a, k)
    | none => search r fuel (k - 1)

/-- **The shortest digits of a magnitude.** -/
def digitsOf (b : Binary64) : Digits :=
  if b.isZero then ⟨0, 1, 1⟩
  else
    let r := rounding b
    -- `10 ^ top` lies above the value, so coarser grids than this have no point to offer
    let top : Int := ((r.value.log2 : Int) - (r.den.log2 : Int) + 1) * 30103 / 100000 + 2
    let (a, k) := search r 24 top
    let w := width 400 a
    ⟨a, w, k + w⟩

/-- How digits are laid out. -/
structure Layout where
  /-- Places of the point that are written without an exponent. -/
  least : Int
  most : Int
  /-- What follows digits without a fraction. -/
  whole : String

/-- The digits of a natural number, padded on the left. -/
def padded (w n : Nat) : String :=
  let s := toString n
  String.ofList (List.replicate (w - s.length) '0') ++ s

/-- Lays digits out: all places, or one digit before the point and an exponent. -/
def Layout.write (l : Layout) (d : Digits) : String :=
  let ds := toString d.digits
  if l.least ≤ d.point && d.point ≤ l.most then
    if (d.count : Int) ≤ d.point then
      ds ++ String.ofList (List.replicate (d.point - d.count).toNat '0') ++ l.whole
    else if 0 < d.point then
      String.ofList (ds.toList.take d.point.toNat) ++ "."
        ++ String.ofList (ds.toList.drop d.point.toNat)
    else
      "0." ++ String.ofList (List.replicate (-d.point).toNat '0') ++ ds
  else
    let e := toString (d.point - 1)
    match ds.toList with
    | [c] => String.ofList [c] ++ "e" ++ e
    | c :: cs => String.ofList (c :: '.' :: cs) ++ "e" ++ e
    | [] => "0"

end FederatedStorage.Decimal
