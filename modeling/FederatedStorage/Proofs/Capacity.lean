import FederatedStorage.Http.Body
import FederatedStorage.Proofs.Decimal.Nearest
import FederatedStorage.Proofs.Text.Blank
import FederatedStorage.Proofs.Text.Digits

/-!
# Capacities of whole numbers

A whole number with a unit goes through the binary format, so of more than 53 places the last are
rounded. What is left is exact: the capacity is the number of 53 places nearest to the bytes asked
for, and it is refused if that number does not fit into 64 bits.

## Main statements

* `unitPower?_eq_some_iff`: the spellings of units.
* `bytes?_whole`: a whole number in a unit.
* `parse_whole`: a text with a whole number and a unit.
* `whole_rounded`: which capacities are read exactly, and which requests they stand for.
-/

namespace FederatedStorage.Capacity

open Decimal Http Text

/-! ## Units -/

/-- The spellings of units in upper case, and the power of two that each stands for. -/
def spellings : List (List Char × Nat) :=
  ([], 0) :: (['B'], 0) :: scales.flatMap fun s => endings.map fun e => (s.1 :: e, s.2)

/-- The characters of units in upper case. -/
def unitChars : List Char := ['B', 'I', 'K', 'M', 'G', 'T', 'P']

/-- Case makes no difference to a unit. -/
theorem unitPower?_congr {unit other : List Char} (h : upper unit = upper other) :
    unitPower? unit = unitPower? other := by
  unfold unitPower?
  rw [h]

theorem unitPower?_spelling :
    ∀ s ∈ spellings, upper s.1 = s.1 ∧ unitPower? s.1 = some s.2 := by
  decide +kernel

/-- **A unit is one of the spellings**, in any case. -/
theorem unitPower?_eq_some_iff {unit : List Char} {power : Nat} :
    unitPower? unit = some power ↔ (upper unit, power) ∈ spellings := by
  constructor
  · intro h
    unfold unitPower? at h
    split at h
    · next heq =>
      cases h
      rw [heq]
      exact List.mem_cons_self
    · next heq =>
      cases h
      rw [heq]
      exact List.mem_cons_of_mem _ List.mem_cons_self
    · next letter ending _ heq =>
      split at h
      · next hending =>
        obtain ⟨before, after, hscales, -⟩ := List.lookup_eq_some_iff.mp h
        have hletter : (letter, power) ∈ scales := by simp [hscales]
        rw [heq]
        refine List.mem_cons_of_mem _ (List.mem_cons_of_mem _ ?_)
        exact List.mem_flatMap.mpr ⟨_, hletter, List.mem_map.mpr ⟨_, by simpa using hending, rfl⟩⟩
      · cases h
  · intro h
    obtain ⟨hupper, hpower⟩ := unitPower?_spelling _ h
    rw [unitPower?_congr hupper.symm]
    exact hpower

theorem spelled_chars :
    ∀ s ∈ spellings, s.2 ∈ [0, 10, 20, 30, 40, 50] ∧ ∀ c ∈ s.1, c ∈ unitChars := by
  have hall : (spellings.all fun s =>
      [0, 10, 20, 30, 40, 50].contains s.2 && s.1.all unitChars.contains) = true := by decide
  simpa only [List.all_eq_true, Bool.and_eq_true, List.contains_iff_mem] using hall

theorem mem_powers {unit : List Char} {power : Nat} (h : unitPower? unit = some power) :
    power ∈ [0, 10, 20, 30, 40, 50] :=
  (spelled_chars _ (unitPower?_eq_some_iff.mp h)).1

/-- What has no letter case and is no letter of a unit does not stand in one. -/
theorem not_mem_unit {unit : List Char} {power : Nat} (h : unitPower? unit = some power) {c : Char}
    (hform : upperForm c = [c]) (hc : c ∉ unitChars) : c ∉ unit := by
  intro hmem
  refine hc ((spelled_chars _ (unitPower?_eq_some_iff.mp h)).2 c ?_)
  exact List.mem_flatMap.mpr ⟨c, hmem, by rw [hform]; exact List.mem_singleton_self c⟩

theorem upperForm_of_isNumberChar {c : Char} (h : isNumberChar c = true) : upperForm c = [c] := by
  rcases (Bool.or_eq_true _ _).mp h with h | h
  · have hrange : 48 ≤ c.toNat ∧ c.toNat ≤ 57 := by
      simpa [Char.isDigit, UInt32.le_iff_toNat_le] using h
    have hupper : c.toUpper = c := dif_neg fun hlower => by
      have ha : 97 ≤ c.toNat := UInt32.le_iff_toNat_le.mp hlower.1
      omega
    rw [upperForm, if_pos (by omega), hupper]
  · rw [beq_iff_eq.mp h]
    rfl

/-- White space, digits and points are no letters of a unit. -/
theorem unit_chars {unit : List Char} {power : Nat} (h : unitPower? unit = some power) :
    ∀ c ∈ unit, isBlank c = false ∧ isNumberChar c = false := by
  have hall : (unitChars.all fun c => !isBlank c && !isNumberChar c) = true := by decide
  have hunit : ∀ c ∈ unitChars, isBlank c = false ∧ isNumberChar c = false := by
    simpa only [List.all_eq_true, Bool.and_eq_true, Bool.not_eq_true'] using hall
  intro c hc
  constructor
  · by_contra hblank
    rw [Bool.not_eq_false] at hblank
    refine not_mem_unit h (upperForm_of_isBlank hblank) (fun hmem => ?_) hc
    rw [(hunit c hmem).1] at hblank
    cases hblank
  · by_contra hnumber
    rw [Bool.not_eq_false] at hnumber
    refine not_mem_unit h (upperForm_of_isNumberChar hnumber) (fun hmem => ?_) hc
    rw [(hunit c hmem).2] at hnumber
    cases hnumber

/-! ## Whole numbers -/

/-- The bytes of an amount, step by step. -/
theorem bytes?_eq (digits fraction power : Nat) :
    bytes? ⟨digits, fraction⟩ power =
      (Binary64.ofDecimal? digits fraction).bind fun value =>
        (Binary64.ofNat? (2 ^ power)).bind fun scale =>
          (value.mul? scale).bind fun product =>
            if product.floor < 2 ^ 64 then some (UInt64.ofNat product.floor) else none := rfl

/-- A number without decimals is a whole one. -/
theorem ofDecimal?_zero (n : Nat) : Binary64.ofDecimal? n 0 = Binary64.ofNat? n := rfl

/-- **A whole number in a unit**: its 53 places, in bytes, unless those are too many. -/
theorem bytes?_whole {n power : Nat} (hpower : power < 1023) :
    bytes? ⟨n, 0⟩ power =
      if nearest (n * 2 ^ power) < 2 ^ 64 then some (.ofNat (nearest (n * 2 ^ power)))
      else none := by
  obtain ⟨b, hb, hvalue⟩ := Binary64.ofNat?_two_pow hpower
  rcases Nat.eq_zero_or_pos n with rfl | hn
  · rw [bytes?_eq, ofDecimal?_zero, hb, Binary64.ofNat?_zero, Option.bind_some, Option.bind_some,
      Binary64.zero_mul?, Option.bind_some, Binary64.floor_zero, Nat.zero_mul]
    rfl
  · rw [bytes?_eq, ofDecimal?_zero, hb]
    rcases Binary64.ofRatio?_cases (n := n) (j := 0) hn with ⟨a, ha, -⟩ | ⟨hnone, hlarge⟩
    · have ha : Binary64.ofNat? n = some a := ha
      rw [ha, Option.bind_some, Option.bind_some]
      rcases Binary64.mul?_two_pow ha hn hvalue with ⟨c, hc, hfloor⟩ | ⟨hnone, hlarge⟩
      · rw [hc, Option.bind_some, hfloor]
      · rw [hnone, if_neg (Nat.not_lt.mpr hlarge)]
        rfl
    · have hnone : Binary64.ofNat? n = none := hnone
      have hsum : 2 ^ 64 ≤ nearest (n * 2 ^ power) := by
        rw [nearest_mul_two_pow]
        refine Nat.le_trans ?_ (Nat.le_mul_of_pos_right _ (Nat.two_pow_pos power))
        exact Nat.le_trans (Nat.pow_le_pow_right (by decide) (by omega)) hlarge
      rw [hnone, if_neg (Nat.not_lt.mpr hsum)]
      rfl

/-! ## Texts -/

/-- **A text with a whole number and a unit**: digits that denote the number, then the unit, with
white space before, between and after them. -/
def IsWhole (text : String) (n power : Nat) : Prop :=
  ∃ before digits gap unit after : List Char,
    text.toList = before ++ (digits ++ gap ++ unit) ++ after ∧
    (∀ c ∈ before ++ gap ++ after, isBlank c = true) ∧
    digits ≠ [] ∧ (∀ c ∈ digits, c.isDigit = true) ∧ Nat.ofDigitChars 10 digits 0 = n ∧
    unitPower? unit = some power

/-- A number alone is one of bytes. -/
theorem isWhole_plain {text : String} {digits : List Char} {n : Nat} (htext : text.toList = digits)
    (hne : digits ≠ []) (hdigits : ∀ c ∈ digits, c.isDigit = true)
    (hn : Nat.ofDigitChars 10 digits 0 = n) : IsWhole text n 0 := by
  refine ⟨[], digits, [], [], [], ?_, nofun, hne, hdigits, hn, rfl⟩
  rw [htext, List.nil_append, List.append_nil, List.append_nil, List.append_nil]

theorem mem_powers_of_isWhole {text : String} {n power : Nat} (h : IsWhole text n power) :
    power ∈ [0, 10, 20, 30, 40, 50] := by
  obtain ⟨-, -, -, unit, -, -, -, -, -, -, hunit⟩ := h
  exact mem_powers hunit

theorem isNumberChar_of_isBlank {c : Char} (h : isBlank c = true) : isNumberChar c = false := by
  by_contra hnumber
  rw [Bool.not_eq_false, isNumberChar, Bool.or_eq_true] at hnumber
  rcases hnumber with hdigit | hpoint
  · rw [not_isBlank_of_isDigit hdigit] at h
    cases h
  · rw [beq_iff_eq.mp hpoint] at h
    cases h

theorem not_isBlank_of_isNumberChar {c : Char} (h : isNumberChar c = true) : isBlank c = false := by
  by_contra hblank
  rw [Bool.not_eq_false] at hblank
  rw [isNumberChar_of_isBlank hblank] at h
  cases h

/-- What is left of the text is the number, and behind it the unit, perhaps with white space. -/
theorem trim_written {before number gap unit after : List Char} {power : Nat}
    (hblank : ∀ c ∈ before ++ gap ++ after, isBlank c = true) (hne : number ≠ [])
    (hnumber : ∀ c ∈ number, isNumberChar c = true) (hunit : unitPower? unit = some power) :
    ∃ gap', trim (before ++ (number ++ gap ++ unit) ++ after) = number ++ (gap' ++ unit) ∧
      ∀ c ∈ gap', isBlank c = true := by
  simp only [List.mem_append] at hblank
  have hbefore : ∀ c ∈ before, isBlank c = true := fun c hc => hblank c (.inl (.inl hc))
  have hgap : ∀ c ∈ gap, isBlank c = true := fun c hc => hblank c (.inl (.inr hc))
  have hafter : ∀ c ∈ after, isBlank c = true := fun c hc => hblank c (.inr hc)
  have hplain : Trimmed number :=
    trimmed_of_not_mem fun c hc => not_isBlank_of_isNumberChar (hnumber c hc)
  have hhead (rest : List Char) : ∀ c ∈ (number ++ rest).head?, isBlank c = false := by
    rw [List.head?_append_of_ne_nil _ hne]
    exact hplain.head
  rcases List.eq_nil_or_concat' unit with rfl | ⟨init, last, rfl⟩
  · -- without a unit the gap is cut off as well
    refine ⟨[], ?_, fun c hc => by cases hc⟩
    have hrest : ∀ c ∈ gap ++ after, isBlank c = true := fun c hc =>
      (List.mem_append.mp hc).elim (hgap c) (hafter c)
    rw [List.append_nil, List.append_nil, List.append_nil, List.append_assoc, List.append_assoc,
      ← List.append_assoc before]
    exact trim_amid hbefore hplain hrest
  · refine ⟨gap, ?_, hgap⟩
    have hlast : isBlank last = false := (unit_chars hunit last (by simp)).1
    have htrimmed : Trimmed (number ++ gap ++ (init ++ [last])) := by
      refine ⟨?_, ?_⟩
      · rw [List.append_assoc]
        exact hhead _
      · rw [← List.append_assoc, List.getLast?_concat]
        intro c hc
        cases hc
        exact hlast
    rw [trim_amid hbefore htrimmed hafter, List.append_assoc]

/-- The number is cut off from the unit. -/
theorem ends_number {gap unit : List Char} {power : Nat} (hgap : ∀ c ∈ gap, isBlank c = true)
    (hunit : unitPower? unit = some power) :
    ∀ c ∈ (gap ++ unit).head?, isNumberChar c = false := by
  intro c hc
  rcases List.mem_append.mp (List.mem_of_mem_head? hc) with hc | hc
  · exact isNumberChar_of_isBlank (hgap c hc)
  · exact (unit_chars hunit c hc).2

/-- White space before a unit is cut off. -/
theorem trim_unit {gap unit : List Char} {power : Nat} (hgap : ∀ c ∈ gap, isBlank c = true)
    (hunit : unitPower? unit = some power) : trim (gap ++ unit) = unit := by
  have hplain : Trimmed unit := trimmed_of_not_mem fun c hc => (unit_chars hunit c hc).1
  have hend : ∀ c ∈ ([] : List Char), isBlank c = true := nofun
  have h := trim_amid hgap hplain hend
  rwa [List.append_nil] at h

/-- Digits without a point are a whole number. -/
theorem amount?_digits {digits : List Char} (hne : digits ≠ [])
    (hdigits : ∀ c ∈ digits, c.isDigit = true) :
    amount? digits = some ⟨Nat.ofDigitChars 10 digits 0, 0⟩ := by
  have htake := takeWhile_digits hdigits endsDigits_nil
  have hdrop := dropWhile_digits hdigits endsDigits_nil
  rw [List.append_nil] at htake hdrop
  unfold amount?
  rw [htake, hdrop]
  exact if_neg (by simpa using hne)

/-- **A whole number and a unit are read** as the 53 places of the bytes they denote. -/
theorem parse_whole {text : String} {n power : Nat} (h : IsWhole text n power) :
    parse text =
      if nearest (n * 2 ^ power) < 2 ^ 64 then .ok (.ofNat (nearest (n * 2 ^ power)))
      else .error (.tooLarge (String.ofList (trim text.toList))) := by
  obtain ⟨before, digits, gap, unit, after, htext, hblank, hne, hdigits, rfl, hunit⟩ := h
  have hnumber : ∀ c ∈ digits, isNumberChar c = true := fun c hc => by
    rw [isNumberChar, hdigits c hc, Bool.true_or]
  obtain ⟨gap', htrim, hgap⟩ := trim_written hblank hne hnumber hunit
  have hends := ends_number hgap hunit
  have hspelled := trim_unit hgap hunit
  have hpower : power < 1023 := by
    have hmem := mem_powers hunit
    simp only [List.mem_cons, List.not_mem_nil, or_false] at hmem
    omega
  unfold parse
  simp only [htext, htrim, takeWhile_front hnumber hends, dropWhile_front hnumber hends,
    amount?_digits hne hdigits, hspelled, hunit, bytes?_whole hpower]
  by_cases hfits : nearest (Nat.ofDigitChars 10 digits 0 * 2 ^ power) < 2 ^ 64
  · rw [if_pos hfits, if_pos hfits]
  · rw [if_neg hfits, if_neg hfits]

/-- **A whole number in bytes is read exactly** if it fits into its 53 places. -/
theorem parse_exact_iff {text : String} {n power : Nat} (h : IsWhole text n power)
    (hfits : n * 2 ^ power < 2 ^ 64) :
    (∃ bytes, parse text = .ok bytes ∧ bytes.toNat = n * 2 ^ power) ↔
      lastPlace (n * 2 ^ power) ∣ n * 2 ^ power := by
  rw [parse_whole h, ← nearest_eq_self_iff]
  constructor
  · rintro ⟨bytes, hread, hbytes⟩
    split at hread
    · next hlt =>
      cases hread
      rwa [UInt64.toNat_ofNat_of_lt' hlt] at hbytes
    · cases hread
  · intro hself
    refine ⟨.ofNat (n * 2 ^ power), ?_, UInt64.toNat_ofNat_of_lt' hfits⟩
    rw [hself, if_pos hfits]

/-- Numbers of 53 places fit, in any unit. -/
theorem lastPlace_dvd {n : Nat} (h : n ≤ 2 ^ 53) (power : Nat) :
    lastPlace (n * 2 ^ power) ∣ n * 2 ^ power := by
  rw [← nearest_eq_self_iff, nearest_mul_two_pow]
  rcases Nat.lt_or_eq_of_le h with hlt | rfl
  · rw [nearest_of_lt hlt]
  · rfl

/-! ## Requests -/

/-- Requests by a capacity are those of a number of bytes. -/
structure AsksFor (text : String) (bytes : UInt64) : Prop where
  create : ∀ b : CreateVolumeBody,
    { b with sizeBytes := none, capacity := some text }.toRequest =
      { b with sizeBytes := some bytes, capacity := none }.toRequest
  resize : ∀ id : String,
    ResizeVolumeBody.toRequest ⟨none, some text⟩ id =
      ResizeVolumeBody.toRequest ⟨some bytes, none⟩ id

/-- Requests by a capacity are refused. -/
structure RefusedFor (text : String) (failure : Failure) : Prop where
  create : ∀ b : CreateVolumeBody,
    { b with sizeBytes := none, capacity := some text }.toRequest = .error failure
  resize : ∀ id : String, ResizeVolumeBody.toRequest ⟨none, some text⟩ id = .error failure

theorem resolveSize_capacity (text : String) :
    resolveSize none (some text) =
      (parse text).mapError fun fault => .invalidRequest fault.message := rfl

theorem asksFor_of_parse {text : String} {bytes : UInt64} (h : parse text = .ok bytes) :
    AsksFor text bytes := by
  have hsize : resolveSize none (some text) = resolveSize (some bytes) none := by
    rw [resolveSize_capacity, h]
    rfl
  refine ⟨fun b => ?_, fun id => ?_⟩
  · simp only [CreateVolumeBody.toRequest, hsize]
  · simp only [ResizeVolumeBody.toRequest, hsize]

theorem refusedFor_of_parse {text : String} {fault : CapacityFault}
    (h : parse text = .error fault) :
    RefusedFor text (.invalidRequest fault.message) := by
  have hsize : resolveSize none (some text) = .error (.invalidRequest fault.message) := by
    rw [resolveSize_capacity, h]
    rfl
  refine ⟨fun b => ?_, fun id => ?_⟩
  · simp only [CreateVolumeBody.toRequest, hsize]
    rfl
  · simp only [ResizeVolumeBody.toRequest, hsize]
    rfl

/-- **A whole number in a unit is read as the number of 53 places nearest to the bytes it denotes**,
or refused from half a unit below `2 ^ 64` on. It is exact exactly if the bytes fit into 53 places,
as all numbers up to `2 ^ 53` do in any unit. Requests by capacity are those of the bytes read. -/
theorem whole_rounded {text : String} {n power : Nat} (h : IsWhole text n power) :
    power ∈ [0, 10, 20, 30, 40, 50] ∧
    (n * 2 ^ power < 2 ^ 64 - 2 ^ 10 →
      parse text = .ok (.ofNat (nearest (n * 2 ^ power))) ∧
      AsksFor text (.ofNat (nearest (n * 2 ^ power)))) ∧
    (2 ^ 64 - 2 ^ 10 ≤ n * 2 ^ power → ∃ shown,
      parse text = .error (.tooLarge shown) ∧
      RefusedFor text (.invalidRequest (CapacityFault.tooLarge shown).message)) ∧
    (n * 2 ^ power < 2 ^ 64 →
      ((∃ bytes, parse text = .ok bytes ∧ bytes.toNat = n * 2 ^ power) ↔
        lastPlace (n * 2 ^ power) ∣ n * 2 ^ power)) ∧
    (n ≤ 2 ^ 53 → lastPlace (n * 2 ^ power) ∣ n * 2 ^ power) ∧
    2 * (nearest (n * 2 ^ power) - n * 2 ^ power) ≤ lastPlace (n * 2 ^ power) ∧
    2 * (n * 2 ^ power - nearest (n * 2 ^ power)) ≤ lastPlace (n * 2 ^ power) := by
  have hread := parse_whole h
  refine ⟨mem_powers_of_isWhole h, fun hlt => ?_, fun hge => ?_, parse_exact_iff h,
    fun hn => lastPlace_dvd hn power, nearest_near _⟩
  · rw [if_pos (nearest_lt_iff.mpr hlt)] at hread
    exact ⟨hread, asksFor_of_parse hread⟩
  · rw [if_neg fun hlt => Nat.not_lt.mpr hge (nearest_lt_iff.mp hlt)] at hread
    exact ⟨_, hread, refusedFor_of_parse hread⟩

/-- White space, zeros, and a unit with a dotless `ı`; half a unit goes to the even neighbour. -/
theorem isWhole_half : IsWhole " 009007199254740993\tkı " 9007199254740993 10 :=
  ⟨[' '], "009007199254740993".toList, ['\t'], ['k', 'ı'], [' '], rfl,
    List.all_eq_true.mp (by decide), by decide, List.all_eq_true.mp (by decide), by decide,
    by decide⟩

theorem whole_rounded_half :
    IsWhole " 009007199254740993\tkı " 9007199254740993 10 ∧
      parse " 009007199254740993\tkı " = .ok 9223372036854775808 :=
  ⟨isWhole_half, ((whole_rounded isWhole_half).2.1 (by decide)).1⟩

/-- **Not every whole number of bytes is read exactly**: one loses its last place, another is
refused although it fits. -/
theorem whole_inexact :
    (IsWhole "9007199254740993" 9007199254740993 0 ∧
      parse "9007199254740993" = .ok 9007199254740992 ∧
      parse "9007199254740993" ≠ .ok 9007199254740993) ∧
    IsWhole "18446744073709551615" 18446744073709551615 0 ∧
      parse "18446744073709551615" = .error (.tooLarge "18446744073709551615") ∧
      resolveSize (some 18446744073709551615) none = .ok 18446744073709551615 := by
  have hlost : IsWhole "9007199254740993" 9007199254740993 0 :=
    isWhole_plain rfl (by decide) (List.all_eq_true.mp (by decide)) (by decide)
  have hrefused : IsWhole "18446744073709551615" 18446744073709551615 0 :=
    isWhole_plain rfl (by decide) (List.all_eq_true.mp (by decide)) (by decide)
  have hread := parse_whole hlost
  rw [if_pos (by decide)] at hread
  refine ⟨⟨hlost, hread, fun h => ?_⟩, hrefused, ?_, rfl⟩
  · rw [hread] at h
    exact absurd (Except.ok.inj h) (by decide)
  · rw [parse_whole hrefused, if_neg (by decide)]
    rfl

end FederatedStorage.Capacity
