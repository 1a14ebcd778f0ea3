import FederatedStorage.Proofs.Capacity
import FederatedStorage.Proofs.Decimal.Reaching
import Mathlib.Data.List.TakeWhile

/-!
# The form of capacities

Whether a text is a capacity is a matter of its form: a number and a unit, with white space before,
between and after them. A text of that form is read unless it stands for too many bytes, and any other
is refused, for its number or else for its unit. The text is cut behind its longest front of digits
and points, which is a place between two characters whatever they are.

## Main definitions

* `IsNumber`, `IsUnit`, `Written`: the form.
* `Overflows`: too many bytes.
* `cutByte`: where a text is cut.

## Main statements

* `bytes?_eq_none_iff`: which amounts are too large.
* `amount?_eq`, `isUnit_iff`: what is read as a number and as a unit.
* `cutByte_splits`: a text is cut between two characters.
* `parse_written`, `parse_of_not_written`: what comes of every text.
-/

namespace FederatedStorage.Capacity

open Decimal Text

/-! ## Too large -/

/-- **An amount is too large** from half a unit of the last place below `2 ^ 64` bytes on. -/
theorem bytes?_eq_none_iff {digits fraction power : Nat} (hpower : power ≤ 64) :
    bytes? ⟨digits, fraction⟩ power = none ↔
      (2 ^ 64 - 2 ^ 10) * 10 ^ fraction ≤ digits * 2 ^ power := by
  obtain ⟨scale, hscale, hvalue⟩ := Binary64.ofNat?_two_pow (p := power) (by omega)
  have hten : 0 < 10 ^ fraction := Nat.pow_pos (by decide)
  have hlarge : Binary64.Reaches (64 - power) (Binary64.ofDecimal? digits fraction) ↔
      (2 ^ 64 - 2 ^ 10) * 10 ^ fraction ≤ digits * 2 ^ power := by
    rcases Nat.eq_zero_or_pos digits with rfl | hpos
    · rw [Nat.zero_mul]
      exact iff_of_false (Binary64.reaches_zero _) (by omega)
    · have hscaled : 2 ^ (64 - power) * 2 ^ power = 2 ^ 64 := Nat.pow_sub_mul_pow 2 hpower
      have hleft : (2 ^ 54 - 1) * (10 ^ fraction * 2 ^ (64 - power)) * 2 ^ power =
          (2 ^ 64 - 2 ^ 10) * 10 ^ fraction * 2 ^ 54 := by
        rw [Nat.mul_assoc, Nat.mul_assoc (10 ^ fraction), hscaled]
        omega
      have hreach := Binary64.reaches_ofRatio? (k := 64 - power) hpos hten (by omega)
      rw [← Binary64.mul_two_pow_le_iff power, hleft, Nat.mul_right_comm digits,
        Binary64.mul_two_pow_le_iff] at hreach
      exact hreach
  rw [bytes?_eq, hscale, ← hlarge]
  cases hamount : Binary64.ofDecimal? digits fraction with
  | none => exact iff_of_true rfl fun b hb => nomatch hb
  | some v =>
    rw [← Binary64.reaches_mul? (Binary64.significand_lt hten hamount) hvalue hpower (by decide),
      Option.bind_some, Option.bind_some]
    cases v.mul? scale with
    | none => exact iff_of_true rfl fun b hb => nomatch hb
    | some product =>
      rw [Binary64.reaches_iff_floor, Option.bind_some]
      by_cases hlt : product.floor < 2 ^ 64
      · rw [if_pos hlt]
        exact iff_of_false nofun (Nat.not_le.mpr hlt)
      · rw [if_neg hlt]
        exact iff_of_true rfl (Nat.not_lt.mp hlt)

/-! ## Numbers -/

/-- **A number**: digits, at least one, and points, at most one. -/
structure IsNumber (cs : List Char) : Prop where
  chars : ∀ c ∈ cs, isNumberChar c = true
  digit : ∃ c ∈ cs, c.isDigit = true
  point : cs.count '.' ≤ 1

/-- The digits of a number, as one number. -/
def numeral (cs : List Char) : Nat := Nat.ofDigitChars 10 (cs.filter Char.isDigit) 0

/-- How many digits stand behind the point of a number. -/
def decimals (cs : List Char) : Nat := (cs.dropWhile Char.isDigit).tail.length

/-- Without a point there are only digits. -/
theorem count_point_eq_zero_iff {cs : List Char} (h : ∀ c ∈ cs, isNumberChar c = true) :
    cs.count '.' = 0 ↔ ∀ c ∈ cs, c.isDigit = true := by
  rw [List.count_eq_zero]
  constructor
  · intro hnone c hc
    rcases (Bool.or_eq_true _ _).mp (h c hc) with hdigit | hpoint
    · exact hdigit
    · exact absurd (beq_iff_eq.mp hpoint ▸ hc) hnone
  · intro hall hmem
    exact absurd (hall _ hmem) (by decide)

/-- Digits and points are digits only, or digits up to a point. -/
theorem digits_or_point {cs : List Char} (h : ∀ c ∈ cs, isNumberChar c = true) :
    (∀ c ∈ cs, c.isDigit = true) ∨
      ∃ whole fraction, cs = whole ++ '.' :: fraction ∧ ∀ c ∈ whole, c.isDigit = true := by
  have hsplit : cs.takeWhile Char.isDigit ++ cs.dropWhile Char.isDigit = cs :=
    List.takeWhile_append_dropWhile
  cases hrest : cs.dropWhile Char.isDigit with
  | nil => exact Or.inl (List.dropWhile_eq_nil_iff.mp hrest)
  | cons c fraction =>
    have hmem : c ∈ cs := by
      rw [← hsplit, hrest]
      simp
    have hdigit : c.isDigit = false := by
      have hhead := List.head?_dropWhile_not Char.isDigit cs
      rw [hrest] at hhead
      simpa using hhead
    have hpoint : c = '.' := by
      rcases (Bool.or_eq_true _ _).mp (h c hmem) with h | h
      · rw [hdigit] at h
        cases h
      · exact beq_iff_eq.mp h
    rw [hrest, hpoint] at hsplit
    exact Or.inr ⟨_, fraction, hsplit.symm, fun c hc => List.mem_takeWhile_imp hc⟩

theorem endsDigits_point (rest : List Char) : EndsDigits ('.' :: rest) :=
  endsDigits_cons (by decide)

/-- **A number with a point** has digits only around it, on one side at least. -/
theorem isNumber_point_iff {whole fraction : List Char}
    (h : ∀ c ∈ whole ++ '.' :: fraction, isNumberChar c = true)
    (hwhole : ∀ c ∈ whole, c.isDigit = true) :
    IsNumber (whole ++ '.' :: fraction) ↔
      (∀ c ∈ fraction, c.isDigit = true) ∧ ¬ (whole = [] ∧ fraction = []) := by
  have hnone := (count_point_eq_zero_iff fun c hc => h c (List.mem_append_left _ hc)).mpr hwhole
  have hcount : (whole ++ '.' :: fraction).count '.' = fraction.count '.' + 1 := by
    rw [List.count_append, hnone, Nat.zero_add, List.count_cons_self]
  have hdigits : fraction.count '.' = 0 ↔ ∀ c ∈ fraction, c.isDigit = true :=
    count_point_eq_zero_iff fun c hc => h c (by simp [hc])
  rw [← hdigits]
  constructor
  · rintro ⟨-, ⟨c, hc, hdigit⟩, hpoint⟩
    refine ⟨by omega, ?_⟩
    rintro ⟨rfl, rfl⟩
    rw [List.mem_singleton.mp hc] at hdigit
    exact absurd hdigit (by decide)
  · rintro ⟨hzero, hsome⟩
    refine ⟨h, ?_, by omega⟩
    by_cases hempty : whole = []
    · obtain ⟨c, hc⟩ := List.exists_mem_of_ne_nil fraction fun hnil => hsome ⟨hempty, hnil⟩
      exact ⟨c, by simp [hc], hdigits.mp hzero c hc⟩
    · obtain ⟨c, hc⟩ := List.exists_mem_of_ne_nil whole hempty
      exact ⟨c, List.mem_append_left _ hc, hwhole c hc⟩

/-- What is read around a point. -/
theorem amount?_point {whole fraction : List Char} (h : ∀ c ∈ whole, c.isDigit = true) :
    amount? (whole ++ '.' :: fraction) =
      if fraction.all Char.isDigit && !(whole.isEmpty && fraction.isEmpty) then
        some ⟨Nat.ofDigitChars 10 (whole ++ fraction) 0, fraction.length⟩
      else none := by
  unfold amount?
  rw [takeWhile_digits h (endsDigits_point _), dropWhile_digits h (endsDigits_point _)]
  rfl

/-- **Which digits and points are a number**, and its amount. -/
theorem amount?_eq {cs : List Char} (h : ∀ c ∈ cs, isNumberChar c = true) :
    (IsNumber cs ∧ amount? cs = some ⟨numeral cs, decimals cs⟩) ∨
      (¬ IsNumber cs ∧ amount? cs = none) := by
  rcases digits_or_point h with hdigits | ⟨whole, fraction, rfl, hwhole⟩
  · by_cases hnone : cs = []
    · subst hnone
      exact Or.inr ⟨fun hnumber => by simpa using hnumber.digit, rfl⟩
    · obtain ⟨c, hc⟩ := List.exists_mem_of_ne_nil cs hnone
      have hpoint := (count_point_eq_zero_iff h).mpr hdigits
      have hrest : cs.dropWhile Char.isDigit = [] := List.dropWhile_eq_nil_iff.mpr hdigits
      refine Or.inl ⟨⟨h, ⟨c, hc, hdigits c hc⟩, by omega⟩, ?_⟩
      rw [amount?_digits hnone hdigits, numeral, decimals, List.filter_eq_self.mpr hdigits, hrest]
      rfl
  · have hiff := isNumber_point_iff h hwhole
    have hread : (fraction.all Char.isDigit && !(whole.isEmpty && fraction.isEmpty)) = true ↔
        IsNumber (whole ++ '.' :: fraction) := by
      rw [hiff]
      simp [imp_iff_not_or]
    rw [amount?_point hwhole]
    by_cases hnumber : IsNumber (whole ++ '.' :: fraction)
    · refine Or.inl ⟨hnumber, ?_⟩
      rw [if_pos (hread.mpr hnumber), numeral, decimals,
        dropWhile_digits hwhole (endsDigits_point _), List.filter_append,
        List.filter_eq_self.mpr hwhole, List.filter_cons_of_neg (by decide),
        List.filter_eq_self.mpr (hiff.mp hnumber).1]
      rfl
    · exact Or.inr ⟨hnumber, if_neg (mt hread.mp hnumber)⟩

/-! ## Units -/

/-- **A unit**, in any case, and the power of two that it stands for: nothing, `B`, or a letter with
what may follow it. -/
def IsUnit (unit : List Char) (power : Nat) : Prop :=
  (upper unit = [] ∨ upper unit = ['B']) ∧ power = 0 ∨
    ∃ letter ending, upper unit = letter :: ending ∧
      (letter, power) ∈ [('K', 10), ('M', 20), ('G', 30), ('T', 40), ('P', 50)] ∧
      ending ∈ [[], ['B'], ['I'], ['I', 'B']]

/-- Units are what stands for a power of two. -/
theorem isUnit_iff {unit : List Char} {power : Nat} :
    IsUnit unit power ↔ unitPower? unit = some power := by
  rw [unitPower?_eq_some_iff, spellings, List.mem_cons, List.mem_cons, Prod.mk.injEq, Prod.mk.injEq,
    ← or_assoc, ← or_and_right]
  refine or_congr Iff.rfl ?_
  simp only [List.mem_flatMap, List.mem_map, Prod.mk.injEq]
  constructor
  · rintro ⟨letter, ending, hupper, hletter, hending⟩
    exact ⟨(letter, power), hletter, ending, hending, hupper.symm, rfl⟩
  · rintro ⟨⟨letter, p⟩, hletter, ending, hending, hupper, rfl⟩
    exact ⟨letter, ending, hupper.symm, hletter, hending⟩

/-! ## Texts -/

/-- **A text of the form of a capacity**: a number and a unit, with white space before, between and
after them. -/
structure Written (text : String) (number unit : List Char) (power : Nat) : Prop where
  pieces : ∃ before gap after : List Char,
    text.toList = before ++ (number ++ gap ++ unit) ++ after ∧
      ∀ c ∈ before ++ gap ++ after, isBlank c = true
  number : IsNumber number
  unit : IsUnit unit power

/-! ## Bytes -/

/-- The byte at which the first character of a kind begins. -/
def firstByte? (p : Char → Bool) : List Char → Option Nat
  | [] => none
  | c :: cs => if p c then some 0 else (firstByte? p cs).map (c.utf8Size + ·)

/-- The byte at which a text is cut: where the first character begins that is no digit or point, or
at the end. -/
def cutByte (s : String) : Nat :=
  (firstByte? (fun c => !isNumberChar c) s.toList).getD s.utf8ByteSize

theorem getD_firstByte? (cs : List Char) :
    (firstByte? (fun c => !isNumberChar c) cs).getD (String.ofList cs).utf8ByteSize =
      (String.ofList (cs.takeWhile isNumberChar)).utf8ByteSize := by
  induction cs with
  | nil => rfl
  | cons c cs ih =>
    by_cases hc : isNumberChar c = true
    · rw [List.takeWhile_cons_of_pos hc, String.ofList_cons, String.utf8ByteSize_append,
        String.ofList_cons, String.utf8ByteSize_append, ← ih, String.utf8ByteSize_singleton]
      simp only [firstByte?, hc]
      cases firstByte? (fun c => !isNumberChar c) cs with
      | none => rfl
      | some n => rfl
    · rw [List.takeWhile_cons_of_neg hc]
      simp [firstByte?, hc]

/-- **A text is cut between two characters**, whatever they are. -/
theorem cutByte_splits (s : String) :
    ∃ h : String.Pos.Raw.IsValid s ⟨cutByte s⟩,
      (String.Pos.mk ⟨cutByte s⟩ h).Splits (.ofList (s.toList.takeWhile isNumberChar))
        (.ofList (s.toList.dropWhile isNumberChar)) := by
  have hparts : s = String.ofList (s.toList.takeWhile isNumberChar) ++
      String.ofList (s.toList.dropWhile isNumberChar) := by
    rw [← String.ofList_append, List.takeWhile_append_dropWhile, String.ofList_toList]
  have hbyte : (⟨cutByte s⟩ : String.Pos.Raw) =
      (String.ofList (s.toList.takeWhile isNumberChar)).rawEndPos := by
    have hcut := getD_firstByte? s.toList
    rw [String.ofList_toList] at hcut
    exact String.Pos.Raw.ext hcut
  exact ⟨String.Pos.Raw.isValid_iff_exists_append.mpr ⟨_, _, hparts, hbyte⟩, hparts, hbyte⟩

/-! ## Reading -/

/-- The text without the white space around it. -/
def core (text : String) : List Char := trim text.toList

/-- The digits and points that the text begins with. -/
def front (text : String) : List Char := (core text).takeWhile isNumberChar

/-- What follows them, without white space around it. -/
def back (text : String) : List Char := trim ((core text).dropWhile isNumberChar)

theorem isNumberChar_of_mem_front (text : String) : ∀ c ∈ front text, isNumberChar c = true :=
  fun _ hc => List.mem_takeWhile_imp hc

/-- A text is read by its front and its back. -/
theorem parse_eq (text : String) :
    parse text =
      (amount? (front text)).elim (.error (.invalid (String.ofList (core text)))) fun amount =>
        (unitPower? (back text)).elim (.error (.unknownUnit (String.ofList (back text))))
          fun power =>
            (bytes? amount power).elim (.error (.tooLarge (String.ofList (core text)))) .ok := by
  unfold parse front back core
  dsimp only
  cases amount? ((trim text.toList).takeWhile isNumberChar) with
  | none => rfl
  | some amount =>
    dsimp only [Option.elim_some]
    cases unitPower? (trim ((trim text.toList).dropWhile isNumberChar)) with
    | none => rfl
    | some power =>
      dsimp only [Option.elim_some]
      cases bytes? amount power with
      | none => rfl
      | some n => rfl

section Written

variable {text : String} {number unit : List Char} {power : Nat}

theorem Written.ne_nil (h : Written text number unit power) : number ≠ [] := by
  rintro rfl
  obtain ⟨c, hc, -⟩ := h.number.digit
  cases hc

/-- What is left without the white space around it. -/
theorem Written.core_eq (h : Written text number unit power) :
    ∃ gap, core text = number ++ (gap ++ unit) ∧ ∀ c ∈ gap, isBlank c = true := by
  obtain ⟨before, gap, after, htext, hblank⟩ := h.pieces
  rw [core, htext]
  exact trim_written hblank h.ne_nil h.number.chars (isUnit_iff.mp h.unit)

/-- **The number is the longest front of digits and points**, and the unit is the rest. -/
theorem Written.eq (h : Written text number unit power) : front text = number ∧ back text = unit := by
  obtain ⟨gap, hcore, hgap⟩ := h.core_eq
  have hunit := isUnit_iff.mp h.unit
  have hends := ends_number hgap hunit
  rw [front, back, hcore, takeWhile_front h.number.chars hends,
    dropWhile_front h.number.chars hends, trim_unit hgap hunit]
  exact ⟨rfl, rfl⟩

/-- **The number comes first**: no sign stands before it, and no name in its place. -/
theorem Written.head (h : Written text number unit power) :
    ∃ c ∈ (core text).head?, isNumberChar c = true := by
  obtain ⟨gap, hcore, -⟩ := h.core_eq
  rw [hcore, List.head?_append_of_ne_nil _ h.ne_nil]
  obtain ⟨c, hc⟩ := Option.isSome_iff_exists.mp (List.isSome_head?.mpr h.ne_nil)
  exact ⟨c, hc, h.number.chars c (List.mem_of_mem_head? hc)⟩

/-- **Behind the number** stand white space and letters of units, so there is no exponent. -/
theorem Written.letters (h : Written text number unit power) :
    ∀ c ∈ (core text).dropWhile isNumberChar,
      isBlank c = true ∨ ∀ u ∈ upperForm c, u ∈ unitChars := by
  obtain ⟨gap, hcore, hgap⟩ := h.core_eq
  have hunit := isUnit_iff.mp h.unit
  rw [hcore, dropWhile_front h.number.chars (ends_number hgap hunit)]
  intro c hc
  rcases List.mem_append.mp hc with hc | hc
  · exact Or.inl (hgap c hc)
  · refine Or.inr fun u hu => (spelled_chars _ (unitPower?_eq_some_iff.mp hunit)).2 u ?_
    exact List.mem_flatMap.mpr ⟨c, hc, hu⟩

end Written

/-- A text with a number in front and a unit behind is of that form. -/
theorem written_of_parts {text : String} {power : Nat} (hnumber : IsNumber (front text))
    (hunit : IsUnit (back text) power) : Written text (front text) (back text) power := by
  refine ⟨?_, hnumber, hunit⟩
  obtain ⟨before, after, htext, hblank⟩ := exists_trim text.toList
  obtain ⟨gap, after', hrest, hblank'⟩ := exists_trim ((core text).dropWhile isNumberChar)
  have hcore : core text = front text ++ (gap ++ back text ++ after') := by
    rw [back, ← hrest]
    exact List.takeWhile_append_dropWhile.symm
  refine ⟨before, gap, after' ++ after, ?_, fun c hc => ?_⟩
  · have htext : text.toList = before ++ core text ++ after := htext
    rw [htext, hcore]
    simp only [List.append_assoc]
  · simp only [List.mem_append] at hc hblank hblank'
    rcases hc with (hc | hc) | hc | hc
    · exact hblank c (Or.inl hc)
    · exact hblank' c (Or.inl hc)
    · exact hblank' c (Or.inr hc)
    · exact hblank c (Or.inr hc)

/-- Too many bytes for 64 bits, once they are rounded to 53 places. -/
def Overflows (number : List Char) (power : Nat) : Prop :=
  (2 ^ 64 - 2 ^ 10) * 10 ^ decimals number ≤ numeral number * 2 ^ power

theorem power_le {unit : List Char} {power : Nat} (h : IsUnit unit power) : power ≤ 64 := by
  have hmem := mem_powers (isUnit_iff.mp h)
  simp only [List.mem_cons, List.not_mem_nil, or_false] at hmem
  omega

/-- **A text of the form is read** by its number and its unit. -/
theorem parse_written {text : String} {number unit : List Char} {power : Nat}
    (h : Written text number unit power) :
    (∃ bytes, parse text = .ok bytes) ∧ ¬ Overflows number power ∨
      parse text = .error (.tooLarge (String.ofList (core text))) ∧ Overflows number power := by
  obtain ⟨hfront, hback⟩ := h.eq
  have hamount : amount? number = some ⟨numeral number, decimals number⟩ :=
    (amount?_eq h.number.chars).elim And.right fun hnone => absurd h.number hnone.1
  have hover : bytes? ⟨numeral number, decimals number⟩ power = none ↔ Overflows number power :=
    bytes?_eq_none_iff (power_le h.unit)
  rw [parse_eq, hfront, hback, hamount, isUnit_iff.mp h.unit, Option.elim_some, Option.elim_some]
  cases hbytes : bytes? ⟨numeral number, decimals number⟩ power with
  | none => exact Or.inr ⟨rfl, hover.mp hbytes⟩
  | some n => exact Or.inl ⟨⟨n, rfl⟩, fun h => by rw [hover.mpr h] at hbytes; cases hbytes⟩

/-- **Any other text is refused**, for its number or for its unit. -/
theorem parse_of_not_written {text : String}
    (h : ∀ number unit power, ¬ Written text number unit power) :
    parse text = .error (.invalid (String.ofList (core text))) ∧ ¬ IsNumber (front text) ∨
      parse text = .error (.unknownUnit (String.ofList (back text))) ∧ IsNumber (front text) ∧
        ∀ power, ¬ IsUnit (back text) power := by
  rw [parse_eq]
  rcases amount?_eq (isNumberChar_of_mem_front text) with ⟨hnumber, hamount⟩ | ⟨hnone, hamount⟩
  · have hunit : ∀ power, ¬ IsUnit (back text) power :=
      fun power hunit => h _ _ power (written_of_parts hnumber hunit)
    have hnone : unitPower? (back text) = none :=
      Option.eq_none_iff_forall_ne_some.mpr fun power hpower => hunit power (isUnit_iff.mpr hpower)
    rw [hamount, hnone]
    exact Or.inr ⟨rfl, hnumber, hunit⟩
  · rw [hamount]
    exact Or.inl ⟨rfl, hnone⟩

end FederatedStorage.Capacity
