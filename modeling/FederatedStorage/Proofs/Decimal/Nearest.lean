import FederatedStorage.Decimal.Binary64
import Mathlib.Algebra.GroupWithZero.Nat
import Mathlib.Algebra.Order.Monoid.Unbundled.Pow
import Mathlib.Data.Nat.Log

/-!
# Whole numbers in the binary format

A whole number of more than 53 bits is rounded to a multiple of the unit of its last place. What the
format does with whole numbers and their products with powers of two is said by that alone.

## Main statements

* `nearest_eq_self_iff`: which whole numbers stay as they are.
* `nearest_mul_two_pow`: rounding does not look at the scale.
* `nearest_lt_iff`: which numbers stay below `2 ^ 64`.
* `Binary64.ofRatio?_cases`: the magnitude of a ratio over a power of two.
-/

namespace FederatedStorage.Decimal

/-! ## Rounded quotients -/

/-- A rounded quotient lies at the quotient or one above it. -/
theorem roundDiv_cases (n d : Nat) :
    (roundDiv n d = n / d ∧ 2 * (n % d) ≤ d) ∨ (roundDiv n d = n / d + 1 ∧ d ≤ 2 * (n % d)) := by
  unfold roundDiv
  dsimp only
  split
  · left
    omega
  · split
    · right
      omega
    · split
      · left
        omega
      · right
        omega

/-- **A quotient is moved by half a unit at most.** -/
theorem roundDiv_near (n : Nat) {d : Nat} (hd : 0 < d) :
    2 * (roundDiv n d * d - n) ≤ d ∧ 2 * (n - roundDiv n d * d) ≤ d := by
  have hdiv := Nat.div_add_mod n d
  have hlt := Nat.mod_lt n hd
  rw [Nat.mul_comm] at hdiv
  rcases roundDiv_cases n d with ⟨h, hr⟩ | ⟨h, hr⟩
  · rw [h]
    omega
  · have hsucc : (n / d + 1) * d = n / d * d + d := Nat.succ_mul _ _
    rw [h]
    omega

/-- Numbers in the same ratio have the same quotient. -/
theorem roundDiv_mul_right (n d : Nat) {c : Nat} (hc : 0 < c) :
    roundDiv (n * c) (d * c) = roundDiv n d := by
  have hlt (a b : Nat) : a * c < b * c ↔ a < b := Nat.mul_lt_mul_right hc
  unfold roundDiv
  simp only [Nat.mul_div_mul_right n d hc, Nat.mul_mod_mul_right, ← Nat.mul_assoc, hlt]

/-! ## Rounded numbers -/

/-- The unit of the last of the 53 places of a number. -/
def lastPlace (n : Nat) : Nat := 2 ^ (n.log2 - 52)

/-- **The number of 53 places nearest to a number**, the even one of two. -/
def nearest (n : Nat) : Nat := roundDiv n (lastPlace n) * lastPlace n

theorem lastPlace_pos (n : Nat) : 0 < lastPlace n := Nat.two_pow_pos _

/-- A number of 53 places has whole units only. -/
theorem lastPlace_eq_one {n : Nat} (h : n < 2 ^ 53) : lastPlace n = 1 := by
  rcases Nat.eq_zero_or_pos n with rfl | hn
  · rfl
  · have hlog : n.log2 < 53 := (Nat.log2_lt (Nat.ne_of_gt hn)).mpr h
    have hzero : n.log2 - 52 = 0 := by omega
    rw [lastPlace, hzero, Nat.pow_zero]

/-- **A number moves by half a unit at most.** -/
theorem nearest_near (n : Nat) :
    2 * (nearest n - n) ≤ lastPlace n ∧ 2 * (n - nearest n) ≤ lastPlace n :=
  roundDiv_near n (lastPlace_pos n)

/-- **A number stays as it is** exactly if it fits into its 53 places. -/
theorem nearest_eq_self_iff {n : Nat} : nearest n = n ↔ lastPlace n ∣ n := by
  constructor
  · intro h
    exact ⟨roundDiv n (lastPlace n), by rw [Nat.mul_comm]; exact h.symm⟩
  · intro h
    have hround := roundDiv_exact (q := n / lastPlace n) (lastPlace_pos n)
    rw [Nat.div_mul_cancel h] at hround
    rw [nearest, hround, Nat.div_mul_cancel h]

theorem nearest_of_lt {n : Nat} (h : n < 2 ^ 53) : nearest n = n :=
  nearest_eq_self_iff.mpr (by rw [lastPlace_eq_one h]; exact Nat.one_dvd n)

theorem log2_mul_two_pow {n : Nat} (hn : 0 < n) (k : Nat) : (n * 2 ^ k).log2 = n.log2 + k := by
  induction k with
  | zero => rw [Nat.pow_zero, Nat.mul_one, Nat.add_zero]
  | succ k ih =>
    have hpos : 0 < n * 2 ^ k := Nat.mul_pos hn (Nat.two_pow_pos k)
    rw [Nat.pow_succ, ← Nat.mul_assoc, Nat.mul_comm _ 2, Nat.log2_two_mul (Nat.ne_of_gt hpos), ih,
      Nat.add_assoc]

/-- **Rounding does not look at the scale.** -/
theorem nearest_mul_two_pow (n k : Nat) : nearest (n * 2 ^ k) = nearest n * 2 ^ k := by
  rcases Nat.eq_zero_or_pos n with rfl | hn
  · rw [Nat.zero_mul, nearest_of_lt (by decide), Nat.zero_mul]
  · rcases Nat.lt_or_ge n (2 ^ 53) with hlt | hge
    · -- fewer places than there are: nothing is rounded on either side
      have hlog : n.log2 < 53 := (Nat.log2_lt (Nat.ne_of_gt hn)).mpr hlt
      rw [nearest_of_lt hlt]
      refine nearest_eq_self_iff.mpr (Nat.dvd_mul_left_of_dvd ?_ n)
      rw [lastPlace, log2_mul_two_pow hn]
      exact Nat.pow_dvd_pow 2 (by omega)
    · have hlog : 53 ≤ n.log2 := (Nat.le_log2 (Nat.ne_of_gt hn)).mpr hge
      have hplace : lastPlace (n * 2 ^ k) = lastPlace n * 2 ^ k := by
        have hsum : n.log2 + k - 52 = n.log2 - 52 + k := by omega
        rw [lastPlace, log2_mul_two_pow hn, hsum, Nat.pow_add, lastPlace]
      rw [nearest, hplace, roundDiv_mul_right _ _ (Nat.two_pow_pos k), ← Nat.mul_assoc]
      rfl

/-- **The places of a number**: how many units it is rounded to, once it is scaled up to 53 places.
-/
def places (n : Nat) : Nat :=
  if 52 ≤ n.log2 then roundDiv n (lastPlace n) else n * 2 ^ (52 - n.log2)

theorem two_pow_log2_le {n : Nat} (hn : 0 < n) : 2 ^ n.log2 ≤ n :=
  Nat.log2_self_le (Nat.ne_of_gt hn)

/-- Of its 53 places the first is taken. The last may carry over. -/
theorem places_bounds {n : Nat} (hn : 0 < n) : 2 ^ 52 ≤ places n ∧ places n ≤ 2 ^ 53 := by
  have hlow := two_pow_log2_le hn
  have hhigh : n < 2 ^ (n.log2 + 1) := Nat.lt_log2_self
  unfold places
  split
  · next h =>
    have hdown : 2 ^ 52 * lastPlace n = 2 ^ n.log2 := by
      rw [lastPlace, ← Nat.pow_add, Nat.add_sub_cancel' h]
    have hup : 2 ^ 53 * lastPlace n = 2 ^ (n.log2 + 1) := by
      rw [Nat.pow_succ, Nat.mul_right_comm, hdown, ← Nat.pow_succ]
    have hq : 2 ^ 52 ≤ n / lastPlace n ∧ n / lastPlace n < 2 ^ 53 := by
      rw [Nat.le_div_iff_mul_le (lastPlace_pos n), Nat.div_lt_iff_lt_mul (lastPlace_pos n), hdown,
        hup]
      exact ⟨hlow, hhigh⟩
    rcases roundDiv_cases n (lastPlace n) with ⟨h, -⟩ | ⟨h, -⟩ <;> omega
  · next h =>
    have hsum : n.log2 + (52 - n.log2) = 52 := by omega
    have hscale : 2 ^ n.log2 * 2 ^ (52 - n.log2) = 2 ^ 52 := by rw [← Nat.pow_add, hsum]
    constructor
    · rw [← hscale]
      exact Nat.mul_le_mul_right _ hlow
    · calc n * 2 ^ (52 - n.log2) ≤ 2 ^ (n.log2 + 1) * 2 ^ (52 - n.log2) :=
            Nat.mul_le_mul_right _ (Nat.le_of_lt hhigh)
        _ = 2 ^ 53 := by rw [Nat.pow_succ, Nat.mul_right_comm, hscale, ← Nat.pow_succ]

/-- A number is rounded to its places, at the scale of its first. -/
theorem nearest_mul_places (n : Nat) : nearest n * 2 ^ 52 = places n * 2 ^ n.log2 := by
  unfold places
  split
  · next h =>
    have hsum : n.log2 - 52 + 52 = n.log2 := by omega
    rw [nearest, Nat.mul_assoc, lastPlace, ← Nat.pow_add, hsum]
  · next h =>
    have hsum : 52 - n.log2 + n.log2 = 52 := by omega
    have hlt : n < 2 ^ 53 :=
      Nat.lt_of_lt_of_le Nat.lt_log2_self (Nat.pow_le_pow_right (by decide) (by omega))
    rw [nearest_of_lt hlt, Nat.mul_assoc, ← Nat.pow_add, hsum]

/-- Rounding keeps a number between the powers of two around it. -/
theorem nearest_bounds {n : Nat} (hn : 0 < n) :
    2 ^ n.log2 ≤ nearest n ∧ nearest n ≤ 2 ^ (n.log2 + 1) := by
  have hplaces := nearest_mul_places n
  obtain ⟨hlow, hhigh⟩ := places_bounds hn
  have hpos : 0 < 2 ^ 52 := Nat.two_pow_pos 52
  constructor
  · refine Nat.le_of_mul_le_mul_right ?_ hpos
    rw [hplaces, Nat.mul_comm]
    exact Nat.mul_le_mul_right _ hlow
  · refine Nat.le_of_mul_le_mul_right ?_ hpos
    rw [hplaces, Nat.pow_succ, Nat.mul_assoc, Nat.mul_comm (2 ^ n.log2)]
    exact Nat.mul_le_mul_right _ hhigh

theorem nearest_pos {n : Nat} (hn : 0 < n) : 0 < nearest n :=
  Nat.lt_of_lt_of_le (Nat.two_pow_pos _) (nearest_bounds hn).1

/-- **Rounding once is enough.** -/
theorem nearest_nearest (n : Nat) : nearest (nearest n) = nearest n := by
  rcases Nat.eq_zero_or_pos n with rfl | hn
  · rfl
  · have hplaces : nearest (places n) = places n := by
      rcases Nat.lt_or_eq_of_le (places_bounds hn).2 with hlt | heq
      · exact nearest_of_lt hlt
      · rw [heq]
        rfl
    refine Nat.eq_of_mul_eq_mul_right (Nat.two_pow_pos 52) ?_
    rw [← nearest_mul_two_pow, nearest_mul_places, nearest_mul_two_pow, hplaces]

/-- **Numbers that stay below `2 ^ 64`**: the last half unit before it carries over. -/
theorem nearest_lt_iff {n : Nat} : nearest n < 2 ^ 64 ↔ n < 2 ^ 64 - 2 ^ 10 := by
  rcases Nat.eq_zero_or_pos n with rfl | hn
  · decide
  · obtain ⟨hlow, hhigh⟩ := nearest_bounds hn
    have hbelow := two_pow_log2_le hn
    have habove : n < 2 ^ (n.log2 + 1) := Nat.lt_log2_self
    rcases Nat.lt_trichotomy n.log2 63 with hlog | hlog | hlog
    · have hpow : 2 ^ (n.log2 + 1) ≤ 2 ^ 63 := Nat.pow_le_pow_right (by decide) hlog
      have hnum : 2 ^ 63 < 2 ^ 64 - 2 ^ 10 := by decide
      omega
    · -- the numbers of 64 places are multiples of 2048 once they are rounded
      have hplace : lastPlace n = 2048 := by rw [lastPlace, hlog]; rfl
      rw [hlog] at hbelow habove
      rw [nearest, hplace]
      unfold roundDiv
      simp only [beq_iff_eq]
      split
      · omega
      · split
        · omega
        · split <;> omega
    · have hpow : 2 ^ 64 ≤ 2 ^ n.log2 := Nat.pow_le_pow_right (by decide) hlog
      omega

/-! ## Magnitudes -/

namespace Binary64

/-- The denominator of a magnitude is a power of two. -/
theorem exists_ratio_snd (b : Binary64) : ∃ k, b.ratio.2 = 2 ^ k := by
  unfold ratio
  split
  · exact ⟨0, rfl⟩
  · exact ⟨_, rfl⟩

/-- **The value of a magnitude** whose exponent is a difference. -/
theorem ratio_sub (m up down : Nat) :
    (ratio ⟨m, (up : Int) - down⟩).1 * 2 ^ down =
      m * 2 ^ up * (ratio ⟨m, (up : Int) - down⟩).2 := by
  unfold ratio
  simp only [Nat.pow_eq]
  split
  · next h =>
    have hexp : ((up : Int) - down).toNat + down = up := by omega
    rw [Nat.mul_one, Nat.mul_assoc, ← Nat.pow_add, hexp]
  · next h =>
    have hexp : up + (-((up : Int) - down)).toNat = down := by omega
    rw [Nat.mul_assoc, ← Nat.pow_add, hexp]

/-- The scale of a ratio over a power of two. -/
theorem floorLog_two_pow {n j : Nat} (hn : 0 < n) :
    floorLog n (2 ^ j) = (n.log2 : Int) - j := by
  have hlow := two_pow_log2_le hn
  unfold floorLog
  simp only [Nat.log2_two_pow, Nat.pow_eq]
  have hreached : if 0 ≤ (n.log2 : Int) - j then 2 ^ j * 2 ^ ((n.log2 : Int) - j).toNat ≤ n
      else 2 ^ j ≤ n * 2 ^ (-((n.log2 : Int) - j)).toNat := by
    split
    · next h =>
      have hexp : j + ((n.log2 : Int) - j).toNat = n.log2 := by omega
      rw [← Nat.pow_add, hexp]
      exact hlow
    · next h =>
      have hexp : n.log2 + (-((n.log2 : Int) - j)).toNat = j := by omega
      calc 2 ^ j = 2 ^ n.log2 * 2 ^ (-((n.log2 : Int) - j)).toNat := by rw [← Nat.pow_add, hexp]
        _ ≤ n * 2 ^ (-((n.log2 : Int) - j)).toNat := Nat.mul_le_mul_right _ hlow
  exact if_pos hreached

/-- The places of a ratio over a power of two are those of its numerator. -/
theorem scaled_two_pow {n j : Nat} :
    scaled n (2 ^ j) ((n.log2 : Int) - j - 52) = places n := by
  unfold scaled places
  simp only [Nat.pow_eq]
  split
  · next h =>
    have hexp : j + ((n.log2 : Int) - j - 52).toNat = n.log2 - 52 := by omega
    rw [if_pos (by omega), ← Nat.pow_add, hexp]
    rfl
  · next h =>
    split
    · next hlog =>
      have hexp : n.log2 - 52 + (-((n.log2 : Int) - j - 52)).toNat = j := by omega
      have hden : 2 ^ j = lastPlace n * 2 ^ (-((n.log2 : Int) - j - 52)).toNat := by
        rw [lastPlace, ← Nat.pow_add, hexp]
      rw [hden]
      exact roundDiv_mul_right n _ (Nat.two_pow_pos _)
    · next hlog =>
      have hexp : (-((n.log2 : Int) - j - 52)).toNat = 52 - n.log2 + j := by omega
      rw [hexp, Nat.pow_add, ← Nat.mul_assoc]
      exact roundDiv_exact (Nat.two_pow_pos j)

/-- A carry into one place more is a change of scale. -/
theorem exists_carried {n j : Nat} (hn : 0 < n) :
    ∃ b : Binary64,
      (if places n == significandBound then ⟨leastNormal, (n.log2 : Int) - j - 52 + 1⟩
        else ⟨places n, (n.log2 : Int) - j - 52⟩) = b ∧
      b.ratio.1 * 2 ^ j = nearest n * b.ratio.2 ∧ b.significand ≠ 0 ∧
      b.exponent ≤ (n.log2 : Int) - j - 51 := by
  obtain ⟨hlow, -⟩ := places_bounds hn
  have hvalue := nearest_mul_places n
  have hpos : 0 < 2 ^ 52 := Nat.two_pow_pos 52
  by_cases hcarry : places n = 2 ^ 53
  · refine ⟨_, if_pos (by rw [hcarry]; rfl), ?_, Nat.ne_of_gt hpos, by dsimp only; omega⟩
    have hexp :
        (n.log2 : Int) - j - 52 + 1 = ((n.log2 + 1 : Nat) : Int) - (j + 52 : Nat) := by omega
    have hratio := ratio_sub leastNormal (n.log2 + 1) (j + 52)
    have hshift : leastNormal * 2 ^ (n.log2 + 1) = nearest n * 2 ^ 52 := by
      rw [hvalue, hcarry, Nat.pow_succ, Nat.mul_comm _ 2, ← Nat.mul_assoc]
      rfl
    rw [← hexp, hshift, Nat.pow_add, ← Nat.mul_assoc, Nat.mul_right_comm (nearest n)] at hratio
    exact Nat.eq_of_mul_eq_mul_right hpos hratio
  · refine ⟨_, if_neg (by rw [beq_iff_eq]; exact hcarry), ?_, Nat.ne_of_gt ?_, by dsimp only; omega⟩
    · have hexp : (n.log2 : Int) - j - 52 = (n.log2 : Int) - (j + 52 : Nat) := by omega
      have hratio := ratio_sub (places n) n.log2 (j + 52)
      rw [← hexp, ← hvalue, Nat.pow_add, ← Nat.mul_assoc, Nat.mul_right_comm (nearest n)] at hratio
      exact Nat.eq_of_mul_eq_mul_right hpos hratio
    · exact Nat.lt_of_lt_of_le hpos hlow

/-- **The magnitude of a ratio over a power of two** has the value of the rounded numerator, or
there is none because that is too large. -/
theorem ofRatio?_cases {n j : Nat} (hn : 2 ^ j ≤ n) :
    (∃ b, ofRatio? n (2 ^ j) = some b ∧ b.ratio.1 * 2 ^ j = nearest n * b.ratio.2) ∨
      (ofRatio? n (2 ^ j) = none ∧ 2 ^ (j + 1023) ≤ nearest n) := by
  have hpos : 0 < n := Nat.lt_of_lt_of_le (Nat.two_pow_pos j) hn
  have hj : j ≤ n.log2 := (Nat.le_log2 (Nat.ne_of_gt hpos)).mpr hn
  obtain ⟨b, hb, hvalue, hsignificand, hexponent⟩ := exists_carried (j := j) hpos
  have hexp : max (floorLog n (2 ^ j) - 52) minExponent = (n.log2 : Int) - j - 52 := by
    rw [floorLog_two_pow hpos, minExponent]
    omega
  unfold ofRatio?
  rw [if_neg (by simpa using Nat.ne_of_gt hpos)]
  simp only [hexp, scaled_two_pow]
  rw [hb]
  simp only [beq_iff_eq, hsignificand, if_false]
  split
  · next hlarge =>
    unfold maxExponent at hlarge
    refine Or.inr ⟨rfl, Nat.le_trans ?_ (nearest_bounds hpos).1⟩
    exact Nat.pow_le_pow_right (by decide) (by omega)
  · exact Or.inl ⟨b, rfl, hvalue⟩

theorem ratio_zero : zero.ratio.1 = 0 := by
  unfold ratio
  rw [if_neg (by decide)]
  rfl

/-- Nothing stays nothing. -/
theorem zero_mul? (b : Binary64) : zero.mul? b = some zero := by
  rw [mul?, ratio_zero, Nat.zero_mul]
  rfl

theorem floor_zero : zero.floor = 0 := by rw [floor, ratio_zero, Nat.zero_div]

/-- The natural number below a magnitude of a known value. -/
theorem floor_eq {b : Binary64} {n j : Nat} (h : b.ratio.1 * 2 ^ j = n * 2 ^ j * b.ratio.2) :
    b.floor = n := by
  obtain ⟨k, hk⟩ := b.exists_ratio_snd
  have hvalue : b.ratio.1 = n * b.ratio.2 := by
    rw [Nat.mul_right_comm] at h
    exact Nat.eq_of_mul_eq_mul_right (Nat.two_pow_pos j) h
  rw [floor, hvalue, hk, Nat.mul_div_cancel _ (Nat.two_pow_pos k)]

/-- Powers of two are magnitudes. -/
theorem ofNat?_two_pow {p : Nat} (hp : p < 1023) :
    ∃ b, ofNat? (2 ^ p) = some b ∧ b.ratio.1 = 2 ^ p * b.ratio.2 := by
  have hself : nearest (2 ^ p) = 2 ^ p := by
    have h := nearest_mul_two_pow 1 p
    rwa [nearest_of_lt (n := 1) (by decide), Nat.one_mul] at h
  rcases ofRatio?_cases (n := 2 ^ p) (j := 0) (Nat.two_pow_pos p) with ⟨b, hb, hvalue⟩ | ⟨-, hlarge⟩
  · rw [hself, Nat.pow_zero, Nat.mul_one] at hvalue
    exact ⟨b, hb, hvalue⟩
  · rw [hself] at hlarge
    have hexp := (Nat.pow_le_pow_iff_right (by decide)).mp hlarge
    omega

/-- **A whole number times a power of two** keeps the places of the whole number. -/
theorem mul?_two_pow {n p : Nat} {a b : Binary64} (ha : ofNat? n = some a) (hn : 0 < n)
    (hb : b.ratio.1 = 2 ^ p * b.ratio.2) :
    (∃ c, a.mul? b = some c ∧ c.floor = nearest (n * 2 ^ p)) ∨
      (a.mul? b = none ∧ 2 ^ 64 ≤ nearest (n * 2 ^ p)) := by
  obtain ⟨i, hi⟩ := a.exists_ratio_snd
  obtain ⟨k, hk⟩ := b.exists_ratio_snd
  have hvalue : a.ratio.1 = nearest n * a.ratio.2 := by
    rcases ofRatio?_cases (n := n) (j := 0) hn with ⟨a', ha', hvalue⟩ | ⟨hnone, -⟩
    · cases Option.some.inj (ha.symm.trans ha')
      rwa [Nat.pow_zero, Nat.mul_one] at hvalue
    · cases ha.symm.trans hnone
  have hden : a.ratio.2 * b.ratio.2 = 2 ^ (i + k) := by rw [hi, hk, Nat.pow_add]
  have hnum : a.ratio.1 * b.ratio.1 = nearest (n * 2 ^ p) * 2 ^ (i + k) := by
    rw [hvalue, hb, ← hden, nearest_mul_two_pow, Nat.mul_mul_mul_comm]
  have hpos : 0 < nearest (n * 2 ^ p) := nearest_pos (Nat.mul_pos hn (Nat.two_pow_pos p))
  have hagain :
      nearest (nearest (n * 2 ^ p) * 2 ^ (i + k)) = nearest (n * 2 ^ p) * 2 ^ (i + k) := by
    rw [nearest_mul_two_pow, nearest_nearest]
  unfold mul?
  rw [hnum, hden]
  rcases ofRatio?_cases (Nat.le_mul_of_pos_left (2 ^ (i + k)) hpos) with
    ⟨c, hc, hfloor⟩ | ⟨hnone, hlarge⟩
  · rw [hagain] at hfloor
    exact Or.inl ⟨c, hc, floor_eq hfloor⟩
  · refine Or.inr ⟨hnone, Nat.le_of_mul_le_mul_right ?_ (Nat.two_pow_pos (i + k))⟩
    rw [hagain] at hlarge
    refine Nat.le_trans ?_ hlarge
    rw [← Nat.pow_add]
    exact Nat.pow_le_pow_right (by decide) (by omega)

end Binary64

end FederatedStorage.Decimal
