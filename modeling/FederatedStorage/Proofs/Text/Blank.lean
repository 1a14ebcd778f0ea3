import FederatedStorage.Text.Blank
import FederatedStorage.Text.Casing
import Mathlib.Data.List.Basic
import Mathlib.Data.List.TakeDrop
import Mathlib.Data.List.TakeWhile

/-!
# White space around a text

White space at the ends of a text is cut off, whatever there is of it, and nothing else. The
characters it is made of have no letter case.

## Main statements

* `trim_amid`: a text amid white space.
* `upperForm_of_isBlank`: white space stays white space in upper case.
-/

namespace FederatedStorage.Text

/-! ## Cutting white space off -/

/-- A text has no white space at its ends. -/
structure Trimmed (cs : List Char) : Prop where
  head : ∀ c ∈ cs.head?, isBlank c = false
  last : ∀ c ∈ cs.getLast?, isBlank c = false

theorem trimmed_of_not_mem {cs : List Char} (h : ∀ c ∈ cs, isBlank c = false) : Trimmed cs :=
  ⟨fun c hc => h c (List.mem_of_mem_head? hc), fun c hc => h c (List.mem_of_mem_getLast? hc)⟩

theorem trimStart_append {before cs : List Char} (h : ∀ c ∈ before, isBlank c = true) :
    trimStart (before ++ cs) = trimStart cs := List.dropWhile_append_of_pos h

theorem trimStart_self {cs : List Char} (h : ∀ c ∈ cs.head?, isBlank c = false) :
    trimStart cs = cs := by
  cases cs with
  | nil => rfl
  | cons c cs => exact List.dropWhile_cons_of_neg (by rw [h c rfl]; exact Bool.false_ne_true)

/-- The end of a text is the beginning of its reverse. -/
theorem trimEnd_eq (cs : List Char) : trimEnd cs = (trimStart cs.reverse).reverse := rfl

theorem trimEnd_append {cs after : List Char} (h : ∀ c ∈ after, isBlank c = true) :
    trimEnd (cs ++ after) = trimEnd cs := by
  rw [trimEnd_eq, List.reverse_append, trimStart_append fun c hc => h c (List.mem_reverse.mp hc)]
  rfl

theorem trimEnd_self {cs : List Char} (h : ∀ c ∈ cs.getLast?, isBlank c = false) :
    trimEnd cs = cs := by
  rw [trimEnd_eq, trimStart_self, List.reverse_reverse]
  rw [List.head?_reverse]
  exact h

/-- **White space around a text is cut off.** -/
theorem trim_amid {before cs after : List Char} (hbefore : ∀ c ∈ before, isBlank c = true)
    (hcs : Trimmed cs) (hafter : ∀ c ∈ after, isBlank c = true) :
    trim (before ++ cs ++ after) = cs := by
  rw [trim, List.append_assoc, trimStart_append hbefore]
  cases cs with
  | nil =>
    rw [List.nil_append, trimStart_eq_nil_iff.mpr hafter]
    rfl
  | cons c cs =>
    have hstart : trimStart (c :: cs ++ after) = c :: cs ++ after := trimStart_self hcs.head
    rw [hstart, trimEnd_append hafter, trimEnd_self hcs.last]

/-- **What is cut off is white space.** -/
theorem exists_trim (cs : List Char) :
    ∃ before after : List Char, cs = before ++ trim cs ++ after ∧
      ∀ c ∈ before ++ after, isBlank c = true := by
  have hfront : cs = cs.takeWhile isBlank ++ trimStart cs := List.takeWhile_append_dropWhile.symm
  have hend (ds : List Char) :
      ds = trimEnd ds ++ (ds.reverse.takeWhile isBlank).reverse := by
    rw [trimEnd, ← List.reverse_append, List.takeWhile_append_dropWhile, List.reverse_reverse]
  refine ⟨cs.takeWhile isBlank, ((trimStart cs).reverse.takeWhile isBlank).reverse, ?_, fun c hc => ?_⟩
  · rw [List.append_assoc, trim, ← hend, ← hfront]
  · rcases List.mem_append.mp hc with hc | hc
    · exact List.mem_takeWhile_imp hc
    · exact List.mem_takeWhile_imp (List.mem_reverse.mp hc)

/-- A digit is not blank. -/
theorem not_isBlank_of_isDigit {c : Char} (h : c.isDigit = true) : isBlank c = false := by
  have hrange : 48 ≤ c.toNat ∧ c.toNat ≤ 57 := by
    simpa [Char.isDigit, UInt32.le_iff_toNat_le] using h
  simp only [isBlank, Bool.or_eq_false_iff, Bool.and_eq_false_iff, decide_eq_false_iff_not,
    beq_eq_false_iff_ne]
  omega

/-! ## Letter case -/

/-- The code points of white space. -/
def blankPoints : List Nat :=
  [0x09, 0x0A, 0x0B, 0x0C, 0x0D, 0x20, 0x85, 0xA0, 0x1680, 0x2000, 0x2001, 0x2002, 0x2003, 0x2004,
    0x2005, 0x2006, 0x2007, 0x2008, 0x2009, 0x200A, 0x2028, 0x2029, 0x202F, 0x205F, 0x3000]

theorem mem_blankPoints {c : Char} (h : isBlank c = true) : c.toNat ∈ blankPoints := by
  simp only [isBlank, Bool.or_eq_true, Bool.and_eq_true, decide_eq_true_eq, beq_iff_eq] at h
  simp only [blankPoints, List.mem_cons, List.not_mem_nil, or_false]
  omega

theorem upperForm_blankPoint : ∀ n ∈ blankPoints, upperForm (Char.ofNat n) = [Char.ofNat n] := by
  decide +kernel

/-- **White space has no letter case.** -/
theorem upperForm_of_isBlank {c : Char} (h : isBlank c = true) : upperForm c = [c] := by
  have hform := upperForm_blankPoint c.toNat (mem_blankPoints h)
  rwa [Char.ofNat_toNat] at hform

end FederatedStorage.Text
