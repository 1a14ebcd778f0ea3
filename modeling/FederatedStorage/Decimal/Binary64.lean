/-!
# Binary floating-point magnitudes

A magnitude is a number `significand · 2 ^ exponent` of the 64-bit binary format: the significand
has at most 53 bits and the exponent lies between -1074 and 971. Every operation takes the exact
result, a ratio of natural numbers, to the nearest magnitude; a result half-way between two
magnitudes goes to the one with the even significand.

## Main statements

* `roundDiv_exact`: a quotient without remainder is not moved.
* `Binary64.ofNat?_zero`: zero is a magnitude.
-/

namespace FederatedStorage.Decimal

/-- The natural number nearest to `num / den`, the even one of two. -/
def roundDiv (num den : Nat) : Nat :=
  let q := num / den
  let r := num % den
  if 2 * r < den then q
  else if den < 2 * r then q + 1
  else if q % 2 == 0 then q else q + 1

/-- **Exact quotients stay.** -/
theorem roundDiv_exact {q den : Nat} (h : 0 < den) : roundDiv (q * den) den = q := by
  simp [roundDiv, Nat.mul_div_cancel _ h, Nat.mul_mod_left, h]

/-- A finite magnitude of the 64-bit binary format. -/
structure Binary64 where
  significand : Nat
  exponent : Int
deriving DecidableEq, Repr, Inhabited

namespace Binary64

/-- Smallest exponent of the format. -/
def minExponent : Int := -1074

/-- Largest exponent of the format. -/
def maxExponent : Int := 971

/-- Significands stay below this bound. -/
def significandBound : Nat := Nat.pow 2 53

/-- The least significand with all its bits; a smaller one has the smallest exponent. -/
def leastNormal : Nat := Nat.pow 2 52

/-- Nothing at all. -/
def zero : Binary64 := ⟨0, minExponent⟩

/-- Whether a magnitude is zero. -/
def isZero (b : Binary64) : Bool := b.significand == 0

/-- The exact value as a ratio. -/
def ratio (b : Binary64) : Nat × Nat :=
  if 0 ≤ b.exponent then (b.significand * Nat.pow 2 b.exponent.toNat, 1)
  else (b.significand, Nat.pow 2 (-b.exponent).toNat)

/-- The exponent `k` with `2 ^ k ≤ num / den < 2 ^ (k + 1)`, for a positive ratio. -/
def floorLog (num den : Nat) : Int :=
  let guess : Int := (num.log2 : Int) - (den.log2 : Int)
  let reached :=
    if 0 ≤ guess then den * Nat.pow 2 guess.toNat ≤ num else den ≤ num * Nat.pow 2 (-guess).toNat
  if reached then guess else guess - 1

/-- `num / (den · 2 ^ e)`, rounded. -/
def scaled (num den : Nat) (e : Int) : Nat :=
  if 0 ≤ e then roundDiv num (den * Nat.pow 2 e.toNat)
  else roundDiv (num * Nat.pow 2 (-e).toNat) den

/-- **The magnitude nearest to a ratio**; none beyond the format's range. -/
def ofRatio? (num den : Nat) : Option Binary64 :=
  if num == 0 then some zero
  else
    let e := max (floorLog num den - 52) minExponent
    let m := scaled num den e
    let b : Binary64 := if m == significandBound then ⟨leastNormal, e + 1⟩ else ⟨m, e⟩
    if maxExponent < b.exponent then none
    else if b.significand == 0 then some zero
    else some b

/-- The magnitude nearest to a natural number. -/
def ofNat? (n : Nat) : Option Binary64 := ofRatio? n 1

/-- The magnitude nearest to a product. -/
def mul? (a b : Binary64) : Option Binary64 :=
  ofRatio? (a.ratio.1 * b.ratio.1) (a.ratio.2 * b.ratio.2)

/-- The magnitude nearest to a quotient. -/
def div? (a b : Binary64) : Option Binary64 :=
  ofRatio? (a.ratio.1 * b.ratio.2) (a.ratio.2 * b.ratio.1)

/-- The magnitude nearest to a power of ten. -/
def tenPow (k : Nat) : Binary64 := (ofNat? (Nat.pow 10 k)).getD zero

/-- The natural number below a magnitude, nearest to it. -/
def floor (b : Binary64) : Nat := b.ratio.1 / b.ratio.2

/-- The magnitude of a decimal numeral with `fraction` digits behind its point. -/
def ofDecimal? (digits fraction : Nat) : Option Binary64 := ofRatio? digits (Nat.pow 10 fraction)

/-- **Zero is a magnitude.** -/
theorem ofNat?_zero : ofNat? 0 = some zero := rfl

end Binary64

end FederatedStorage.Decimal
