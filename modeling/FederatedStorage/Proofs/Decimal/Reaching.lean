import FederatedStorage.Proofs.Decimal.Nearest
import Mathlib.Tactic.Ring

/-!
# Ratios that reach a power of two

The magnitude of a ratio reaches a power of two from half a unit of its last place below that power
on: there the ratio is rounded up to it, and below it stays below. A product with a power of two is
not rounded again.

## Main statements

* `Binary64.le_floorLog_iff`: the scale of a ratio.
* `Binary64.reaches_ofRatio?`: which ratios reach a power of two.
* `Binary64.reaches_mul?`: a product reaches what its factor reaches on a smaller scale.
-/

namespace FederatedStorage.Decimal.Binary64

/-! ## Scales -/

theorem mul_two_pow_le_iff {a b : Nat} (k : Nat) : a * 2 ^ k ≤ b * 2 ^ k ↔ a ≤ b :=
  ⟨fun h => Nat.le_of_mul_le_mul_right h (Nat.two_pow_pos k), Nat.mul_le_mul_right _⟩

/-- The scale of a ratio is that of its parts, or one less. -/
theorem floorLog_eq (n d : Nat) :
    floorLog n d =
      if d * 2 ^ n.log2 ≤ n * 2 ^ d.log2 then (n.log2 : Int) - d.log2
      else (n.log2 : Int) - d.log2 - 1 := by
  have hreached : (if 0 ≤ (n.log2 : Int) - d.log2 then d * 2 ^ ((n.log2 : Int) - d.log2).toNat ≤ n
      else d ≤ n * 2 ^ (-((n.log2 : Int) - d.log2)).toNat) ↔ d * 2 ^ n.log2 ≤ n * 2 ^ d.log2 := by
    by_cases hge : d.log2 ≤ n.log2
    · have hexp : ((n.log2 : Int) - d.log2).toNat + d.log2 = n.log2 := by omega
      rw [if_pos (by omega), ← mul_two_pow_le_iff d.log2, Nat.mul_assoc, ← Nat.pow_add, hexp]
    · have hexp : (-((n.log2 : Int) - d.log2)).toNat + n.log2 = d.log2 := by omega
      rw [if_neg (by omega), ← mul_two_pow_le_iff n.log2, Nat.mul_assoc n, ← Nat.pow_add, hexp]
  unfold floorLog
  simp only [Nat.pow_eq, hreached]

/-- **The scale of a ratio** is that of the greatest power of two below it. -/
theorem le_floorLog_iff {n d : Nat} (hn : 0 < n) (hd : 0 < d) (up down : Nat) :
    (up : Int) - down ≤ floorLog n d ↔ d * 2 ^ up ≤ n * 2 ^ down := by
  have hnlow := two_pow_log2_le hn
  have hnhigh : n < 2 ^ (n.log2 + 1) := Nat.lt_log2_self
  have hdlow := two_pow_log2_le hd
  have hdhigh : d < 2 ^ (d.log2 + 1) := Nat.lt_log2_self
  rw [floorLog_eq]
  rcases Nat.lt_trichotomy (up + d.log2) (down + n.log2) with hlt | heq | hgt
  · -- two places apart: the leading digits decide
    have hbelow : d * 2 ^ up ≤ n * 2 ^ down :=
      calc d * 2 ^ up ≤ 2 ^ (d.log2 + 1) * 2 ^ up := Nat.mul_le_mul_right _ (Nat.le_of_lt hdhigh)
        _ = 2 ^ (d.log2 + 1 + up) := (Nat.pow_add ..).symm
        _ ≤ 2 ^ (n.log2 + down) := Nat.pow_le_pow_right (by decide) (by omega)
        _ = 2 ^ n.log2 * 2 ^ down := Nat.pow_add ..
        _ ≤ n * 2 ^ down := Nat.mul_le_mul_right _ hnlow
    refine iff_of_true ?_ hbelow
    split <;> omega
  · have hsame : d * 2 ^ up ≤ n * 2 ^ down ↔ d * 2 ^ n.log2 ≤ n * 2 ^ d.log2 := by
      rw [← mul_two_pow_le_iff d.log2, Nat.mul_assoc, ← Nat.pow_add, heq, Nat.mul_right_comm,
        Nat.add_comm down, Nat.pow_add, ← Nat.mul_assoc, mul_two_pow_le_iff]
    rw [hsame]
    split
    · next h => exact iff_of_true (by omega) h
    · next h => exact iff_of_false (by omega) h
  · have habove : n * 2 ^ down < d * 2 ^ up :=
      calc n * 2 ^ down < 2 ^ (n.log2 + 1) * 2 ^ down :=
            Nat.mul_lt_mul_of_pos_right hnhigh (Nat.two_pow_pos down)
        _ = 2 ^ (n.log2 + 1 + down) := (Nat.pow_add ..).symm
        _ ≤ 2 ^ (d.log2 + up) := Nat.pow_le_pow_right (by decide) (by omega)
        _ = 2 ^ d.log2 * 2 ^ up := Nat.pow_add ..
        _ ≤ d * 2 ^ up := Nat.mul_le_mul_right _ hdlow
    refine iff_of_false ?_ (Nat.not_le.mpr habove)
    split <;> omega

/-! ## Rounding at a scale -/

/-- A ratio at a scale that is a difference. -/
theorem scaled_sub (n d up down : Nat) :
    scaled n d ((up : Int) - down) = roundDiv (n * 2 ^ down) (d * 2 ^ up) := by
  unfold scaled
  simp only [Nat.pow_eq]
  by_cases hge : down ≤ up
  · obtain ⟨k, rfl⟩ := Nat.exists_eq_add_of_le' hge
    have hexp : (((k + down : Nat) : Int) - down).toNat = k := by omega
    rw [if_pos (by omega), hexp, Nat.pow_add, ← Nat.mul_assoc]
    exact (roundDiv_mul_right _ _ (Nat.two_pow_pos down)).symm
  · obtain ⟨k, rfl⟩ := Nat.exists_eq_add_of_le' (Nat.le_of_not_le hge)
    have hexp : (-((up : Int) - (k + up : Nat))).toNat = k := by omega
    rw [if_neg (by omega), hexp, Nat.pow_add, ← Nat.mul_assoc]
    exact (roundDiv_mul_right _ _ (Nat.two_pow_pos up)).symm

theorem roundDiv_le {n d k : Nat} (h : n < k * d) : roundDiv n d ≤ k := by
  have hd : 0 < d := Nat.pos_of_ne_zero fun hzero => by simp [hzero] at h
  have hdiv : n / d < k := (Nat.div_lt_iff_lt_mul hd).mpr h
  rcases roundDiv_cases n d with ⟨h, -⟩ | ⟨h, -⟩ <;> omega

/-- At most 53 places at a scale, or a carry to the next scale. -/
theorem exists_fitting {m : Nat} (up down : Nat) (hm : m ≤ 2 ^ 53) :
    ∃ b : Binary64,
      (if m == significandBound then ⟨leastNormal, (up : Int) - down + 1⟩
        else ⟨m, (up : Int) - down⟩) = b ∧
      b.ratio.1 * 2 ^ down = m * 2 ^ up * b.ratio.2 ∧ b.significand < 2 ^ 53 ∧
      b.exponent ≤ (up : Int) - down + 1 ∧ (b.significand = 0 → m = 0) := by
  by_cases hcarry : m = 2 ^ 53
  · subst hcarry
    have hexp : (up : Int) - down + 1 = (up + 1 : Nat) - (down : Int) := by omega
    have hratio := ratio_sub leastNormal (up + 1) down
    have hshift : leastNormal * 2 ^ (up + 1) = 2 ^ 53 * 2 ^ up := by
      rw [Nat.pow_succ, Nat.mul_comm _ 2, ← Nat.mul_assoc]
      rfl
    rw [← hexp, hshift] at hratio
    have hplaces : leastNormal < 2 ^ 53 := by decide
    have hpos : leastNormal ≠ 0 := by decide
    exact ⟨_, if_pos rfl, hratio, hplaces, Int.le_refl _, fun hzero => absurd hzero hpos⟩
  · exact ⟨_, if_neg (by rw [beq_iff_eq]; exact hcarry), ratio_sub m up down,
      Nat.lt_of_le_of_ne hm hcarry, by dsimp only; omega, id⟩

/-- **The magnitude of a ratio** is the ratio rounded at its scale, to 53 places at most. There is
none beyond the largest scale. -/
theorem ofRatio?_rounded {n d : Nat} (hn : 0 < n) (hd : 0 < d) :
    ∃ up down : Nat, (up : Int) - down = max (floorLog n d - 52) minExponent ∧
      roundDiv (n * 2 ^ down) (d * 2 ^ up) ≤ 2 ^ 53 ∧
      (ofRatio? n d = none ∧ maxExponent ≤ (up : Int) - down ∨
        ∃ b, ofRatio? n d = some b ∧ b.significand < 2 ^ 53 ∧
          b.ratio.1 * 2 ^ down = roundDiv (n * 2 ^ down) (d * 2 ^ up) * 2 ^ up * b.ratio.2) := by
  obtain ⟨up, down, he⟩ : ∃ up down : Nat,
      (up : Int) - down = max (floorLog n d - 52) minExponent :=
    ⟨_, _, Int.toNat_sub_toNat_neg _⟩
  have hbound : roundDiv (n * 2 ^ down) (d * 2 ^ up) ≤ 2 ^ 53 := by
    refine roundDiv_le (Nat.lt_of_not_le fun hle => ?_)
    have hscale : ((up + 53 : Nat) : Int) - down ≤ floorLog n d :=
      (le_floorLog_iff hn hd _ _).mpr (by rwa [Nat.pow_add, ← Nat.mul_assoc, Nat.mul_comm _ (2 ^ 53)])
    omega
  refine ⟨up, down, he, hbound, ?_⟩
  obtain ⟨b, hb, hvalue, hplaces, hexponent, hzero⟩ := exists_fitting up down hbound
  unfold ofRatio?
  rw [if_neg (by simpa using Nat.ne_of_gt hn)]
  simp only [← he, scaled_sub]
  rw [hb]
  simp only [beq_iff_eq]
  by_cases hlarge : maxExponent < b.exponent
  · rw [if_pos hlarge]
    exact Or.inl ⟨rfl, by omega⟩
  · rw [if_neg hlarge]
    by_cases hnone : b.significand = 0
    · rw [if_pos hnone]
      refine Or.inr ⟨zero, rfl, by decide, ?_⟩
      rw [ratio_zero, hzero hnone, Nat.zero_mul, Nat.zero_mul, Nat.zero_mul]
    · rw [if_neg hnone]
      exact Or.inr ⟨b, rfl, hplaces, hvalue⟩

/-- A magnitude has 53 places at most. -/
theorem significand_lt {n d : Nat} {b : Binary64} (hd : 0 < d) (h : ofRatio? n d = some b) :
    b.significand < 2 ^ 53 := by
  rcases Nat.eq_zero_or_pos n with rfl | hn
  · cases h
    decide
  · obtain ⟨up, down, -, -, hresult⟩ := ofRatio?_rounded hn hd
    rcases hresult with ⟨hnone, -⟩ | ⟨c, hc, hlt, -⟩
    · rw [hnone] at h
      cases h
    · rw [hc] at h
      cases h
      exact hlt

/-! ## Powers of two -/

/-- **A magnitude reaches a power of two.** What is beyond all magnitudes reaches every power. -/
def Reaches (k : Nat) (x : Option Binary64) : Prop :=
  ∀ b, x = some b → 2 ^ k * b.ratio.2 ≤ b.ratio.1

/-- A quotient is rounded up to an even number from half a unit below it on. -/
theorem even_le_roundDiv_iff {n d k : Nat} (hd : 0 < d) (heven : k % 2 = 0) :
    k ≤ roundDiv n d ↔ (2 * k - 1) * d ≤ 2 * n := by
  have hdiv := Nat.div_add_mod n d
  have hlt := Nat.mod_lt n hd
  rw [Nat.mul_comm] at hdiv
  rcases Nat.lt_trichotomy (n / d + 1) k with hbelow | heq | habove
  · have hmul : (n / d + 1) * d + d ≤ k * d := by
      rw [← Nat.succ_mul]
      exact Nat.mul_le_mul_right d hbelow
    rw [Nat.sub_mul, Nat.mul_assoc]
    rw [Nat.succ_mul] at hmul
    refine iff_of_false ?_ (by omega)
    rcases roundDiv_cases n d with ⟨h, -⟩ | ⟨h, -⟩ <;> omega
  · -- half-way the even one is taken, which is the upper one
    have hmul : k * d = n / d * d + d := by rw [← heq, Nat.succ_mul]
    rw [Nat.sub_mul, Nat.mul_assoc]
    unfold roundDiv
    simp only [beq_iff_eq]
    split
    · omega
    · split
      · omega
      · split <;> omega
  · have hmul : k * d ≤ n / d * d := Nat.mul_le_mul_right d (by omega)
    rw [Nat.sub_mul, Nat.mul_assoc]
    refine iff_of_true ?_ (by omega)
    rcases roundDiv_cases n d with ⟨h, -⟩ | ⟨h, -⟩ <;> omega

theorem le_roundDiv {n d k : Nat} (hd : 0 < d) (h : k * d ≤ n) : k ≤ roundDiv n d := by
  have hdiv : k ≤ n / d := (Nat.le_div_iff_mul_le hd).mpr h
  rcases roundDiv_cases n d with ⟨h, -⟩ | ⟨h, -⟩ <;> omega

/-- What a magnitude reaches is told by its places. -/
theorem reaches_some {b : Binary64} {m up down : Nat} (k : Nat)
    (h : b.ratio.1 * 2 ^ down = m * 2 ^ up * b.ratio.2) :
    Reaches k (some b) ↔ 2 ^ (k + down) ≤ m * 2 ^ up := by
  obtain ⟨j, hj⟩ := b.exists_ratio_snd
  have hreach : Reaches k (some b) ↔ 2 ^ k * b.ratio.2 ≤ b.ratio.1 :=
    ⟨fun h => h b rfl, fun h c hc => Option.some.inj hc ▸ h⟩
  rw [hreach, ← mul_two_pow_le_iff down, h, Nat.mul_right_comm, ← Nat.pow_add, hj,
    mul_two_pow_le_iff]

/-- **Which ratios reach a power of two**: from half a unit of the last place below it on. -/
theorem reaches_ofRatio? {n d k : Nat} (hn : 0 < n) (hd : 0 < d) (hk : k ≤ 1000) :
    Reaches k (ofRatio? n d) ↔ (2 ^ 54 - 1) * (d * 2 ^ k) ≤ n * 2 ^ 54 := by
  obtain ⟨up, down, he, hbound, hresult⟩ := ofRatio?_rounded hn hd
  have hmax : maxExponent = 971 := rfl
  have hmin : minExponent = -1074 := rfl
  rw [hmin] at he
  rw [hmax] at hresult
  have hd' : 0 < d * 2 ^ up := Nat.mul_pos hd (Nat.two_pow_pos up)
  have hscale (up down : Nat) := le_floorLog_iff hn hd up down
  rcases Int.lt_trichotomy (floorLog n d + 1) k with hbelow | heq | habove
  · -- so far below that even a carry does not reach it
    have hlt : n * 2 < d * 2 ^ k := by
      have h := mt (hscale k 1).mpr (by omega)
      omega
    refine iff_of_false (fun hreach => ?_) (by omega)
    rcases hresult with ⟨-, hlarge⟩ | ⟨b, hb, -, hvalue⟩
    · omega
    · rw [hb, reaches_some k hvalue] at hreach
      have hcarry : 2 ^ (k + down) ≤ 2 ^ (53 + up) :=
        calc 2 ^ (k + down) ≤ _ := hreach
          _ ≤ 2 ^ 53 * 2 ^ up := Nat.mul_le_mul_right _ hbound
          _ = 2 ^ (53 + up) := (Nat.pow_add ..).symm
      have hexp := (Nat.pow_le_pow_iff_right (by decide)).mp hcarry
      omega
  · -- all its places are needed: it is a matter of the carry
    have hexp : k + down = 53 + up := by
      clear hresult
      omega
    rcases hresult with ⟨-, hlarge⟩ | ⟨b, hb, -, hvalue⟩
    · omega
    · rw [hb, reaches_some k hvalue, hexp, Nat.pow_add, mul_two_pow_le_iff,
        even_le_roundDiv_iff hd' (by decide), ← mul_two_pow_le_iff 53,
        ← mul_two_pow_le_iff (a := (2 ^ 54 - 1) * (d * 2 ^ k)) down]
      have hleft : (2 ^ 54 - 1) * (d * 2 ^ k) * 2 ^ down =
          (2 * 2 ^ 53 - 1) * (d * 2 ^ up) * 2 ^ 53 := by
        rw [Nat.mul_assoc, Nat.mul_assoc d, ← Nat.pow_add, hexp, Nat.add_comm 53, Nat.pow_add,
          ← Nat.mul_assoc d, ← Nat.mul_assoc]
        rfl
      have hright : n * 2 ^ 54 * 2 ^ down = 2 * (n * 2 ^ down) * 2 ^ 53 := by
        rw [Nat.mul_right_comm, Nat.mul_comm 2, Nat.mul_assoc (n * 2 ^ down) 2]
        rfl
      rw [hleft, hright]
  · have hge : d * 2 ^ k ≤ n := by
      have h := (hscale k 0).mp (by omega)
      rwa [Nat.pow_zero, Nat.mul_one] at h
    refine iff_of_true ?_ (by omega)
    rcases hresult with ⟨hnone, -⟩ | ⟨b, hb, -, hvalue⟩
    · rw [hnone]
      exact fun b hb => nomatch hb
    · rw [hb, reaches_some k hvalue]
      have hplaces : 2 ^ 52 * (d * 2 ^ up) ≤ n * 2 ^ down := by
        have h := (hscale (52 + up) down).mp (by omega)
        rwa [Nat.pow_add, Nat.mul_left_comm] at h
      calc 2 ^ (k + down) ≤ 2 ^ (52 + up) := Nat.pow_le_pow_right (by decide) (by omega)
        _ = 2 ^ 52 * 2 ^ up := Nat.pow_add ..
        _ ≤ _ := Nat.mul_le_mul_right _ (le_roundDiv hd' hplaces)

/-- What does not reach a power of two has its whole part below it. -/
theorem reaches_iff_floor {k : Nat} {b : Binary64} : Reaches k (some b) ↔ 2 ^ k ≤ b.floor := by
  obtain ⟨j, hj⟩ := b.exists_ratio_snd
  rw [floor, Nat.le_div_iff_mul_le (hj ▸ Nat.two_pow_pos j)]
  exact ⟨fun h => h b rfl, fun h c hc => Option.some.inj hc ▸ h⟩

/-! ## Products -/

theorem reaches_zero (k : Nat) : ¬ Reaches k (some zero) := by
  intro h
  have hle := h zero rfl
  obtain ⟨j, hj⟩ := zero.exists_ratio_snd
  rw [ratio_zero, hj, ← Nat.pow_add] at hle
  exact Nat.not_lt.mpr hle (Nat.two_pow_pos _)

/-- The value of any magnitude. -/
theorem exists_ratio_fst (b : Binary64) :
    ∃ up down, b.ratio.1 * 2 ^ down = b.significand * 2 ^ up * b.ratio.2 := by
  have hratio := ratio_sub b.significand b.exponent.toNat (-b.exponent).toNat
  rw [Int.toNat_sub_toNat_neg] at hratio
  exact ⟨_, _, hratio⟩

/-- **A number of 53 places leaves a gap** below a power of two that it does not reach. -/
theorem reaches_gap {m : Nat} (hm : m < 2 ^ 53) (a b : Nat) :
    (2 ^ 54 - 1) * 2 ^ a ≤ m * 2 ^ b * 2 ^ 54 ↔ 2 ^ a ≤ m * 2 ^ b := by
  rcases Nat.le_total b a with hle | hle
  · obtain ⟨t, rfl⟩ := Nat.exists_eq_add_of_le' hle
    rw [Nat.pow_add, ← Nat.mul_assoc, Nat.mul_right_comm m, mul_two_pow_le_iff, mul_two_pow_le_iff]
    omega
  · obtain ⟨t, rfl⟩ := Nat.exists_eq_add_of_le' hle
    have hone : (2 ^ 54 - 1) * 2 ^ a ≤ m * 2 ^ t * 2 ^ 54 * 2 ^ a ↔ 1 * 2 ^ a ≤ m * 2 ^ t * 2 ^ a := by
      rw [mul_two_pow_le_iff, mul_two_pow_le_iff]
      omega
    rwa [Nat.one_mul, Nat.mul_right_comm, Nat.mul_assoc m, ← Nat.pow_add] at hone

/-- **A product with a power of two** reaches what its factor reaches on the smaller scale. -/
theorem reaches_mul? {v s : Binary64} {p k : Nat} (hv : v.significand < 2 ^ 53)
    (hs : s.ratio.1 = 2 ^ p * s.ratio.2) (hp : p ≤ k) (hk : k ≤ 1000) :
    Reaches k (v.mul? s) ↔ Reaches (k - p) (some v) := by
  obtain ⟨up, down, hvalue⟩ := v.exists_ratio_fst
  obtain ⟨i, hi⟩ := v.exists_ratio_snd
  obtain ⟨j, hj⟩ := s.exists_ratio_snd
  rw [reaches_some (k - p) hvalue]
  unfold mul?
  rcases Nat.eq_zero_or_pos v.ratio.1 with hzero | hpos
  · have hnone : v.significand = 0 := by
      rw [hzero, Nat.zero_mul, hi, Nat.mul_assoc, ← Nat.pow_add] at hvalue
      exact (Nat.mul_eq_zero.mp hvalue.symm).resolve_right (Nat.ne_of_gt (Nat.two_pow_pos _))
    rw [hzero, Nat.zero_mul, hnone, Nat.zero_mul]
    exact iff_of_false (reaches_zero k) (Nat.not_le.mpr (Nat.two_pow_pos _))
  · have hn : 0 < v.ratio.1 * s.ratio.1 := by
      rw [hs, hj]
      exact Nat.mul_pos hpos (Nat.mul_pos (Nat.two_pow_pos p) (Nat.two_pow_pos j))
    have hd : 0 < v.ratio.2 * s.ratio.2 := by
      rw [hi, hj]
      exact Nat.mul_pos (Nat.two_pow_pos i) (Nat.two_pow_pos j)
    have hleft : (2 ^ 54 - 1) * (v.ratio.2 * s.ratio.2 * 2 ^ k) * 2 ^ down =
        (2 ^ 54 - 1) * 2 ^ (k + down) * 2 ^ (i + j) := by
      rw [hi, hj]
      ring
    have hright : v.ratio.1 * s.ratio.1 * 2 ^ 54 * 2 ^ down =
        v.significand * 2 ^ (up + p) * 2 ^ 54 * 2 ^ (i + j) :=
      calc v.ratio.1 * s.ratio.1 * 2 ^ 54 * 2 ^ down
          = v.ratio.1 * 2 ^ down * s.ratio.1 * 2 ^ 54 := by ring
        _ = v.significand * 2 ^ up * 2 ^ i * (2 ^ p * 2 ^ j) * 2 ^ 54 := by rw [hvalue, hs, hi, hj]
        _ = v.significand * 2 ^ (up + p) * 2 ^ 54 * 2 ^ (i + j) := by ring
    have hexp : k - p + down + p = k + down := by omega
    rw [reaches_ofRatio? hn hd hk, ← mul_two_pow_le_iff down, hleft, hright, mul_two_pow_le_iff,
      reaches_gap hv, ← mul_two_pow_le_iff (a := 2 ^ (k - p + down)) p, ← Nat.pow_add, hexp,
      Nat.mul_assoc, ← Nat.pow_add]

end FederatedStorage.Decimal.Binary64
