import FederatedStorage.Proofs.Backend.Rotation
import Mathlib.Data.Nat.Count

/-!
# Rounds of dials

The turns go round, so of `m` times as many dials as there are places `m` begin at every place. A
place that fails leaves its dials to the next one: a dial comes to a place if it begins there, or at
one of the places that fail in a row just before it.

## Main statements

* `Rotation.reaches_of_first`: a dial comes to the places up to the first that does not fail.
* `Rotation.reaches_iff`: where the dials begin that come to a place.
* `Rotation.count_reaches`: how many of `m * n` dials in a row come to a place.
-/

namespace FederatedStorage.Rotation

/-! ## Places in their order -/

theorem getElem?_placesFrom {n start i place : Nat} :
    (placesFrom n start)[i]? = some place ↔ i < n ∧ (start + i) % n = place := by
  rw [placesFrom, List.getElem?_map, Option.map_eq_some_iff]
  constructor
  · rintro ⟨j, hj, rfl⟩
    obtain ⟨hi, rfl⟩ := List.getElem?_eq_some_iff.mp hj
    rw [List.getElem_range]
    exact ⟨by simpa using hi, rfl⟩
  · rintro ⟨hi, rfl⟩
    exact ⟨i, List.getElem?_range hi, rfl⟩

theorem placesFrom_mod (n start : Nat) : placesFrom n (start % n) = placesFrom n start :=
  List.map_congr_left fun _ _ => Nat.mod_add_mod ..

/-! ## Places that fail -/

/-- The places before one, the nearest first. -/
def placesBefore (n place : Nat) : List Nat :=
  (List.range (n - 1)).map fun i => (place + (n - 1 - i)) % n

/-- **The number of places that fail in a row just before a place.** -/
def failingBefore (failing : Nat → Bool) (n place : Nat) : Nat :=
  ((placesBefore n place).takeWhile failing).length

/-- **A dial that begins at `start` comes to a place**: all places that it tries before fail. -/
def Reaches (failing : Nat → Bool) (n start place : Nat) : Prop :=
  ∃ d < n, (start + d) % n = place ∧ ∀ i < d, failing ((start + i) % n) = true

instance (failing : Nat → Bool) (n start : Nat) : DecidablePred (Reaches failing n start) :=
  fun place => inferInstanceAs
    (Decidable (∃ d < n, (start + d) % n = place ∧ ∀ i < d, failing ((start + i) % n) = true))

section Coming

variable {failing : Nat → Bool} {n start place : Nat}

theorem mem_placesFrom_iff : place ∈ placesFrom n start ↔ ∃ d < n, (start + d) % n = place := by
  simp only [List.mem_iff_getElem?, getElem?_placesFrom]

/-- Where all places fail a dial comes to all. -/
theorem reaches_of_all (h : ∀ q < n, failing q = true) :
    Reaches failing n start place ↔ place ∈ placesFrom n start := by
  rw [mem_placesFrom_iff]
  constructor
  · rintro ⟨d, hd, hcome, -⟩
    exact ⟨d, hd, hcome⟩
  · rintro ⟨d, hd, hcome⟩
    exact ⟨d, hd, hcome, fun i _ => h _ (Nat.mod_lt _ (Nat.zero_lt_of_lt hd))⟩

/-- A dial comes to the places up to the first that does not fail. -/
theorem reaches_of_first {front rest : List Nat} {q : Nat}
    (hplaces : front ++ [q] ++ rest = placesFrom n start) (hfront : ∀ a ∈ front, failing a = true)
    (hq : failing q = false) :
    Reaches failing n start place ↔ place ∈ front ++ [q] := by
  have hat {i a : Nat} (h : (front ++ [q])[i]? = some a) : i < n ∧ (start + i) % n = a := by
    rw [← getElem?_placesFrom, ← hplaces]
    obtain ⟨hi, -⟩ := List.getElem?_eq_some_iff.mp h
    rwa [List.getElem?_append_left hi]
  have hlast : (start + front.length) % n = q := (hat List.getElem?_concat_length).2
  have hfails (i : Nat) (hi : i < front.length) : failing ((start + i) % n) = true := by
    have hget : (front ++ [q])[i]? = some front[i] := by
      rw [List.getElem?_append_left hi, List.getElem?_eq_getElem hi]
    rw [(hat hget).2]
    exact hfront _ (List.getElem_mem hi)
  constructor
  · rintro ⟨d, hd, hcome, hbefore⟩
    have hle : d ≤ front.length := by
      by_contra hlt
      have hfailed := hbefore front.length (Nat.lt_of_not_le hlt)
      rw [hlast, hq] at hfailed
      cases hfailed
    have hget : (front ++ [q] ++ rest)[d]? = some place := by
      rw [hplaces]
      exact getElem?_placesFrom.mpr ⟨hd, hcome⟩
    have hlength : (front ++ [q]).length = front.length + 1 := List.length_append
    rw [List.getElem?_append_left (by omega)] at hget
    exact List.mem_of_getElem? hget
  · intro hmem
    obtain ⟨d, hget⟩ := List.mem_iff_getElem?.mp hmem
    obtain ⟨hd, hcome⟩ := hat hget
    obtain ⟨hlt, -⟩ := List.getElem?_eq_some_iff.mp hget
    rw [List.length_append, List.length_singleton] at hlt
    exact ⟨d, hd, hcome, fun i hi => hfails i (by omega)⟩

end Coming

/-! ## Places that fail in a row -/

section Places

variable {failing : Nat → Bool} {n place : Nat}

theorem le_length_takeWhile_iff {α : Type} {f : α → Bool} {l : List α} {d : Nat}
    (hd : d ≤ l.length) : d ≤ (l.takeWhile f).length ↔ ∀ a ∈ l.take d, f a = true := by
  induction l generalizing d with
  | nil => simp [Nat.le_zero.mp hd]
  | cons a l ih =>
    cases d with
    | zero => simp
    | succ d =>
      rw [List.take_succ_cons, List.forall_mem_cons, ← ih (Nat.le_of_succ_le_succ hd),
        List.takeWhile_cons]
      by_cases ha : f a = true
      · simp [ha]
      · simp [ha]

theorem le_failingBefore_iff {d : Nat} (hd : d < n) :
    d ≤ failingBefore failing n place ↔
      ∀ i < d, failing ((place + (n - 1 - i)) % n) = true := by
  have hlength : d ≤ (placesBefore n place).length := by
    rw [placesBefore, List.length_map, List.length_range]
    omega
  rw [failingBefore, le_length_takeWhile_iff hlength, placesBefore, ← List.map_take,
    List.take_range, Nat.min_eq_left (by omega), List.forall_mem_map]
  simp only [List.mem_range]

theorem failingBefore_le : failingBefore failing n place ≤ n - 1 := by
  have hle := (List.takeWhile_sublist (l := placesBefore n place) failing).length_le
  rwa [placesBefore, List.length_map, List.length_range, ← placesBefore] at hle

theorem failingBefore_of_all (h : ∀ q < n, failing q = true) :
    failingBefore failing n place = n - 1 := by
  refine Nat.le_antisymm failingBefore_le ?_
  cases n with
  | zero => exact Nat.zero_le _
  | succ n =>
    refine (le_failingBefore_iff (Nat.lt_succ_self n)).mpr fun i _ => h _ ?_
    exact Nat.mod_lt _ (Nat.succ_pos n)

theorem failingBefore_of_none (h : ∀ q < n, failing q = false) :
    failingBefore failing n place = 0 := by
  by_contra hne
  have hn : 1 < n := by
    have hle : failingBefore failing n place ≤ n - 1 := failingBefore_le
    omega
  have hone := (le_failingBefore_iff hn).mp (Nat.one_le_iff_ne_zero.mpr hne) 0 Nat.one_pos
  rw [h _ (Nat.mod_lt _ (Nat.zero_lt_of_lt hn))] at hone
  cases hone

theorem reaches_add (start : Nat) :
    Reaches failing n (start + n) place ↔ Reaches failing n start place := by
  simp only [Reaches, Nat.add_right_comm start n, Nat.add_mod_right]

/-- The dials that come to a place begin there or at the places that fail just before it. -/
theorem reaches_iff (hplace : place < n) {j : Nat} (hj : j < n) :
    Reaches failing n (place + 1 + j) place ↔ n - 1 - j ≤ failingBefore failing n place := by
  have hround (d : Nat) (hd : d < n) : (place + 1 + j + d) % n = place ↔ d = n - 1 - j := by
    constructor
    · intro h
      have hmod : place + (1 + j + d) ≡ place + 0 [MOD n] := by
        rw [Nat.ModEq, Nat.add_zero, Nat.mod_eq_of_lt hplace, ← h]
        congr 1
        omega
      have hdvd := (Nat.modEq_zero_iff_dvd).mp (Nat.ModEq.add_left_cancel' place hmod)
      have heq := Nat.eq_of_dvd_of_lt_two_mul (by omega) hdvd (by omega)
      omega
    · rintro rfl
      have hsum : place + 1 + j + (n - 1 - j) = place + n := by omega
      rw [hsum, Nat.add_mod_right, Nat.mod_eq_of_lt hplace]
  rw [le_failingBefore_iff (by omega)]
  constructor
  · rintro ⟨d, hd, hcome, hfails⟩ i hi
    have hdistance := (hround d hd).mp hcome
    have hplaces : place + (n - 1 - i) = place + 1 + j + (d - 1 - i) := by omega
    rw [hplaces]
    exact hfails _ (by omega)
  · intro hfails
    refine ⟨n - 1 - j, by omega, (hround _ (by omega)).mpr rfl, fun i hi => ?_⟩
    have hplaces : place + 1 + j + i = place + (n - 1 - (n - 1 - j - 1 - i)) := by omega
    rw [hplaces]
    exact hfails _ (by omega)

end Places

/-! ## Counting rounds -/

section Rounds

variable {P : Nat → Prop} [DecidablePred P] {n : Nat}

/-- All rounds count alike, wherever they begin. -/
theorem count_round (hP : ∀ k, P (k + n) ↔ P k) (a : Nat) :
    Nat.count (fun k => P (a + k)) n = Nat.count P n := by
  induction a with
  | zero => simp only [Nat.zero_add]
  | succ a ih =>
    -- the round from the next one on has its first at its end
    have hfront := Nat.count_succ' (fun k => P (a + k)) n
    have hback := Nat.count_succ (fun k => P (a + k)) n
    have hsame : (if P (a + n) then 1 else 0) = if P (a + 0) then 1 else 0 :=
      if_congr (hP a) rfl rfl
    have hshift : Nat.count (fun k => P (a + 1 + k)) n =
        Nat.count (fun k => P (a + (k + 1))) n := by
      simp only [Nat.add_assoc, Nat.add_comm 1]
    omega

theorem count_rounds (hP : ∀ k, P (k + n) ↔ P k) (a m : Nat) :
    Nat.count (fun k => P (a + k)) (m * n) = m * Nat.count P n := by
  induction m with
  | zero => simp
  | succ m ih =>
    have hround : Nat.count (fun k => P (a + (m * n + k))) n = Nat.count P n := by
      simp only [← Nat.add_assoc]
      exact count_round hP (a + m * n)
    rw [Nat.succ_mul, Nat.count_add, ih, hround, Nat.succ_mul]

theorem count_le_from {a n : Nat} (h : a ≤ n) : Nat.count (fun k => a ≤ k) n = n - a := by
  obtain ⟨b, rfl⟩ := Nat.exists_eq_add_of_le h
  rw [Nat.count_add, Nat.count_of_forall_not fun k hk => Nat.not_le_of_lt hk,
    Nat.count_of_forall fun k _ => Nat.le_add_right a k]
  omega

end Rounds

/-- **Of `m * n` dials in a row** a place is come to by `m` of its own, and as many for each place
that fails just before it. -/
theorem count_reaches {failing : Nat → Bool} {n place : Nat} (hplace : place < n) (start m : Nat) :
    Nat.count (fun k => Reaches failing n (start + k) place) (m * n) =
      m * (1 + failingBefore failing n place) := by
  have hround := count_round (P := fun k => Reaches failing n k place) reaches_add (place + 1)
  have hone : Nat.count (fun j => Reaches failing n (place + 1 + j) place) n =
      Nat.count (fun j => n - 1 - failingBefore failing n place ≤ j) n := by
    have hsame (j : Nat) (hj : j < n) : Reaches failing n (place + 1 + j) place ↔
        n - 1 - failingBefore failing n place ≤ j := by
      have hle : failingBefore failing n place ≤ n - 1 := failingBefore_le
      rw [reaches_iff hplace hj]
      omega
    rw [Nat.count_eq_card_filter_range, Nat.count_eq_card_filter_range]
    exact congrArg Finset.card (Finset.filter_congr fun j hj => hsame j (Finset.mem_range.mp hj))
  have hle : failingBefore failing n place ≤ n - 1 := failingBefore_le
  have hrounds := count_rounds (P := fun k => Reaches failing n k place) reaches_add start m
  rw [hrounds, ← hround, hone, count_le_from (by omega)]
  congr 1
  omega

end FederatedStorage.Rotation
