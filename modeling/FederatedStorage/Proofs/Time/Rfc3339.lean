import FederatedStorage.Proofs.Text.Blank
import FederatedStorage.Proofs.Text.Digits
import FederatedStorage.Time.Rfc3339

/-!
# Timestamps read back

A timestamp of a year with four digits is read back from its text, down to the nanosecond. A number
with leading zeros has its width, so where it ends can be told in every place of the text.

## Main statements

* `readField_padded`: numbers with leading zeros read back.
* `readFraction_fractionChars`: fractions of a second read back.
* `read?_write_of_year`: timestamps read back.
-/

namespace FederatedStorage.Time.Rfc3339

open FederatedStorage.Text

variable {n width most : Nat} {rest : List Char}

/-! ## Numbers -/

theorem isDigit_of_mem_padded {c : Char} (h : c ∈ padded width n) : c.isDigit = true := by
  rcases List.mem_append.mp h with h | h
  · rw [List.eq_of_mem_replicate h]
    rfl
  · exact isDigit_of_mem_toDigits (Nat.toList_repr ▸ h : c ∈ Nat.toDigits 10 n)

/-- A number of no more digits fills its width. -/
theorem length_padded (hwidth : 0 < width) (h : n < Nat.pow 10 width) :
    (padded width n).length = width := by
  have hle : (Nat.toDigits 10 n).length ≤ width :=
    (Nat.length_toDigits_le_iff (by decide) hwidth).mpr h
  have hlength : (padded width n).length =
      width - (Nat.toDigits 10 n).length + (Nat.toDigits 10 n).length := by
    rw [← Nat.toList_repr]
    exact (List.length_append).trans (congrArg (· + _) List.length_replicate)
  omega

theorem digitsValue_padded : digitsValue (padded width n) = n := by
  show Nat.ofDigitChars 10 (List.replicate _ '0' ++ (Nat.repr n).toList) 0 = n
  rw [Nat.ofDigitChars_append, Nat.ofDigitChars_replicate_zero, Nat.toList_repr, Nat.mul_zero,
    Nat.ofDigitChars_ten_toDigits]

/-- Digits are read up to what follows them, or up to as many as are wanted. -/
theorem readDigits_append {ds : List Char} (hds : ∀ c ∈ ds, c.isDigit = true) (hne : ds ≠ [])
    (hle : ds.length ≤ most) (hrest : ds.length = most ∨ EndsDigits rest) :
    readDigits most (ds ++ rest) = some (digitsValue ds, rest) := by
  have htake : ((ds ++ rest).take most).takeWhile Char.isDigit = ds := by
    rw [List.take_append, List.take_of_length_le hle]
    refine takeWhile_digits hds ?_
    rcases hrest with heq | hends
    · rw [heq, Nat.sub_self, List.take_zero]
      exact endsDigits_nil
    · cases hmore : most - ds.length with
      | zero => exact endsDigits_nil
      | succ more =>
        intro c hc
        cases rest with
        | nil => cases hc
        | cons d rest => exact hends c hc
  have hempty : ds.isEmpty = false := by
    rw [Bool.eq_false_iff, ne_eq, List.isEmpty_iff]
    exact hne
  unfold readDigits
  simp only [htake, hempty, Bool.false_eq_true, if_false, List.drop_left]

theorem readDigits_padded (hwidth : 0 < width) (hn : n < Nat.pow 10 width) (hle : width ≤ most)
    (hrest : width = most ∨ EndsDigits rest) :
    readDigits most (padded width n ++ rest) = some (n, rest) := by
  have hlength := length_padded hwidth hn
  have hne : padded width n ≠ [] := fun h => by
    rw [h] at hlength
    exact absurd hlength (Nat.ne_of_lt hwidth)
  have hfits : (padded width n).length ≤ most := Nat.le_trans (Nat.le_of_eq hlength) hle
  have hends : (padded width n).length = most ∨ EndsDigits rest := by
    rw [hlength]
    exact hrest
  rw [readDigits_append (fun _ => isDigit_of_mem_padded) hne hfits hends, digitsValue_padded]

/-- No blanks are cut off before a number. -/
theorem exists_padded (hwidth : 0 < width) (hn : n < Nat.pow 10 width) :
    ∃ c cs, padded width n = c :: cs ∧ c.isDigit = true := by
  have hlength := length_padded hwidth hn
  cases hpadded : padded width n with
  | nil =>
    rw [hpadded] at hlength
    exact absurd hlength (Nat.ne_of_lt hwidth)
  | cons c cs =>
    exact ⟨c, cs, rfl, isDigit_of_mem_padded (hpadded ▸ List.mem_cons_self)⟩

theorem trimStart_padded (hwidth : 0 < width) (hn : n < Nat.pow 10 width) :
    trimStart (padded width n ++ rest) = padded width n ++ rest := by
  obtain ⟨c, cs, hpadded, hc⟩ := exists_padded hwidth hn
  rw [hpadded, List.cons_append]
  exact List.dropWhile_cons_of_neg (by rw [not_isBlank_of_isDigit hc]; exact Bool.false_ne_true)

/-- **A field of a timestamp** is read back. -/
theorem readField_padded (hwidth : 0 < width) (hn : n < Nat.pow 10 width) :
    readField width (padded width n ++ rest) = some (n, rest) := by
  unfold readField
  rw [trimStart_padded hwidth hn]
  exact readDigits_padded hwidth hn (Nat.le_refl width) (Or.inl rfl)

/-- **A year of four digits** is read back. -/
theorem readYear_padded (hn : n < 10000) :
    readYear (padded 4 n ++ rest) = some ((n : Int), rest) := by
  have hread : readDigits 4 (padded 4 n ++ rest) = some (n, rest) :=
    readDigits_padded (by decide) hn (Nat.le_refl 4) (Or.inl rfl)
  obtain ⟨c, cs, hpadded, hc⟩ := exists_padded (by decide) (show n < Nat.pow 10 4 from hn)
  unfold readYear
  rw [trimStart_padded (by decide) hn]
  split
  · next heq =>
    rw [hpadded, List.cons_append] at heq
    exact absurd (List.cons.inj heq).1 (by rintro rfl; exact absurd hc (by decide))
  · next heq =>
    rw [hpadded, List.cons_append] at heq
    exact absurd (List.cons.inj heq).1 (by rintro rfl; exact absurd hc (by decide))
  · rw [hread]
    rfl

/-! ## Fractions -/

/-- Digits behind the point are worth what they are in their place. -/
theorem readFraction_padded (hwidth : 0 < width) (hle : width ≤ 9) (hn : n < Nat.pow 10 width)
    (hrest : EndsDigits rest) :
    readFraction ('.' :: padded width n ++ rest) = some (n * Nat.pow 10 (9 - width), rest) := by
  have hread : readDigits 9 (padded width n ++ rest) = some (n, rest) :=
    readDigits_padded hwidth hn hle (Or.inr hrest)
  have hcount : (padded width n ++ rest).length - rest.length = width := by
    rw [List.length_append, length_padded hwidth hn, Nat.add_sub_cancel]
  have htake : (padded width n ++ rest).take width = padded width n :=
    List.take_left' (length_padded hwidth hn)
  have hdrop : ([] ++ rest).dropWhile Char.isDigit = rest :=
    dropWhile_digits (fun _ hc => absurd hc List.not_mem_nil) hrest
  rw [List.nil_append] at hdrop
  rw [List.cons_append, readFraction, hread]
  simp only [Option.bind_eq_bind, Option.bind_some, hcount, htake, digitsValue_padded, hdrop]
  rfl

/-- **The fraction of a second** is read back, however many digits it has. -/
theorem readFraction_fractionChars {nano : Nat} (hnano : nano < 1000000000) (hrest : EndsDigits rest)
    (hpoint : ∀ cs, rest ≠ '.' :: cs) :
    readFraction (fractionChars nano ++ rest) = some (nano, rest) := by
  unfold fractionChars
  split_ifs with hzero hmilli hmicro
  · rw [eq_of_beq hzero, List.nil_append]
    unfold readFraction
    split
    · exact absurd rfl (hpoint _)
    · rfl
  · have hdiv := Nat.div_mul_cancel (Nat.dvd_of_mod_eq_zero (eq_of_beq hmilli))
    rw [readFraction_padded (by decide) (by decide) (show _ < 1000 by omega) hrest]
    exact congrArg (fun n => some (n, rest)) hdiv
  · have hdiv := Nat.div_mul_cancel (Nat.dvd_of_mod_eq_zero (eq_of_beq hmicro))
    rw [readFraction_padded (by decide) (by decide) (show _ < 1000000 by omega) hrest]
    exact congrArg (fun n => some (n, rest)) hdiv
  · rw [readFraction_padded (by decide) (by decide) hnano hrest]
    exact congrArg (fun n => some (n, rest)) (Nat.mul_one nano)

/-! ## Timestamps -/

/-- A time that is nowhere ahead is the same in UTC. -/
theorem shift_zero (t : Timestamp) : t.shift 0 = t := by
  obtain ⟨date, hour, minute, second, nano, hhour, hminute, hsecond, hnano⟩ := t
  have hnot : ¬ (hour : Int) * 60 + minute - 0 < 0 := by omega
  have hday : ¬ (Timestamp.dayMinutes : Int) ≤ (hour : Int) * 60 + minute - 0 := by
    unfold Timestamp.dayMinutes
    omega
  simp only [Timestamp.shift, hnot, hday, if_false, Timestamp.atMinute, Timestamp.mk.injEq, true_and,
    and_true]
  omega

/-- The characters of a timestamp of a year with four digits, from left to right. -/
theorem chars_of_year {t : Timestamp} (hlow : 0 ≤ t.date.year) (hhigh : t.date.year ≤ 9999) :
    chars t = padded 4 t.date.year.toNat ++ '-' :: (padded 2 t.date.month ++ '-' ::
      (padded 2 t.date.day ++ 'T' :: (padded 2 t.hour ++ ':' :: (padded 2 t.minute ++ ':' ::
        (padded 2 t.second ++ (fractionChars t.nano ++ ['Z'])))))) := by
  unfold chars yearChars
  rw [if_pos ⟨hlow, hhigh⟩]
  simp only [List.append_assoc, List.cons_append]

theorem dropSeparator_self {c : Char} (hc : isBlank c = false) :
    dropSeparator c (c :: rest) = some rest := by
  unfold dropSeparator trimStart
  rw [List.dropWhile_cons_of_neg (by rw [hc]; exact Bool.false_ne_true)]
  exact if_pos (beq_iff_eq.mpr rfl)

theorem isKept_of_year {d : Date} (hlow : 0 ≤ d.year) (hhigh : d.year ≤ 9999) :
    isKept d = true := by
  simp only [isKept, Bool.and_eq_true, decide_eq_true_eq]
  omega

/-- No month is longer. -/
theorem daysIn_le (year : Int) (month : Nat) : daysIn year month ≤ 31 := by
  unfold daysIn
  split
  · split
    · decide
    · decide
  all_goals decide

/-- **A date of a year with four digits** is read back. -/
theorem readDate_of_year {d : Date} (hlow : 0 ≤ d.year) (hhigh : d.year ≤ 9999) :
    readDate (padded 4 d.year.toNat ++ '-' :: (padded 2 d.month ++ '-' ::
      (padded 2 d.day ++ rest))) = some (d, rest) := by
  have hmonth : d.month < Nat.pow 10 2 := Nat.lt_of_le_of_lt d.month_le (by decide)
  have hday : d.day < Nat.pow 10 2 :=
    Nat.lt_of_le_of_lt (Nat.le_trans d.day_le (daysIn_le d.year d.month)) (by decide)
  have hyear : (d.year.toNat : Int) = d.year := Int.toNat_of_nonneg hlow
  have hkept := isKept_of_year hlow hhigh
  have hdash : isBlank '-' = false := by rfl
  unfold readDate
  rw [readYear_padded (by omega)]
  simp only [Option.bind_eq_bind, Option.bind_some, dropSeparator_self hdash,
    readField_padded (Nat.succ_pos 1) hmonth, readField_padded (Nat.succ_pos 1) hday, hyear,
    Date.of?_self, Option.filter_some, hkept, if_true]
  rfl

/-- **A timestamp of a year with four digits is read back.** -/
theorem read?_write_of_year {t : Timestamp} (hlow : 0 ≤ t.date.year) (hhigh : t.date.year ≤ 9999) :
    read? (write t) = some t := by
  have hhour : t.hour < Nat.pow 10 2 := Nat.lt_trans t.hour_lt (by decide)
  have hminute : t.minute < Nat.pow 10 2 := Nat.lt_trans t.minute_lt (by decide)
  have hsecond : t.second < Nat.pow 10 2 := Nat.lt_of_le_of_lt t.second_le (by decide)
  have hkept := isKept_of_year hlow hhigh
  have hcolon : isBlank ':' = false := by rfl
  have hfraction : readFraction (fractionChars t.nano ++ ['Z']) = some (t.nano, ['Z']) :=
    readFraction_fractionChars t.nano_lt (endsDigits_cons rfl) (by simp)
  have hoffset : readOffset (trimStart ['Z']) = some (0, []) := by rfl
  unfold read? write
  rw [String.toList_ofList, chars_of_year hlow hhigh]
  unfold readChars
  rw [readDate_of_year hlow hhigh]
  simp only [Option.bind_eq_bind, Option.bind_some, dropDateEnd, dropSeparator_self hcolon,
    readField_padded (Nat.succ_pos 1) hhour, readField_padded (Nat.succ_pos 1) hminute,
    readField_padded (Nat.succ_pos 1) hsecond, hfraction, hoffset, Timestamp.of?_self, shift_zero]
  show Option.filter (fun t => isKept t.date) (some t) = some t
  rw [Option.filter_some, if_pos hkept]

end FederatedStorage.Time.Rfc3339
