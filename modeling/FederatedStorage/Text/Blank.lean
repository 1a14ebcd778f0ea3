/-!
# White space

The characters with the property White_Space, and what is left of a text when they are cut off at
its ends.

## Main statements

* `trim_eq_nil_iff`: a text trims to nothing exactly when all of its characters are blank.
-/

namespace FederatedStorage.Text

/-- **White space**: the 25 characters with the property White_Space. A zero-width space is none. -/
def isBlank (c : Char) : Bool :=
  let n := c.toNat
  (0x09 ≤ n && n ≤ 0x0D) || n == 0x20 || n == 0x85 || n == 0xA0 || n == 0x1680
    || (0x2000 ≤ n && n ≤ 0x200A) || n == 0x2028 || n == 0x2029 || n == 0x202F
    || n == 0x205F || n == 0x3000

/-- Cuts white space off the front. -/
def trimStart (cs : List Char) : List Char := cs.dropWhile isBlank

/-- Cuts white space off the end. -/
def trimEnd (cs : List Char) : List Char := (cs.reverse.dropWhile isBlank).reverse

/-- Cuts white space off both ends. -/
def trim (cs : List Char) : List Char := trimEnd (trimStart cs)

/-- Whether a text has no character that is not white space. -/
def isAllBlank (s : String) : Bool := s.toList.all isBlank

/-- Cutting off the front leaves nothing exactly when everything is blank. -/
theorem trimStart_eq_nil_iff {cs : List Char} :
    trimStart cs = [] ↔ ∀ c ∈ cs, isBlank c = true := by
  induction cs with
  | nil => simp [trimStart]
  | cons c cs ih =>
    by_cases h : isBlank c = true
    · rw [show trimStart (c :: cs) = trimStart cs by simp [trimStart, h], ih]
      simp [h]
    · simp [trimStart, h]

/-- What is left after cutting off the front does not begin with white space. -/
theorem not_isBlank_of_trimStart {cs ds : List Char} {d : Char} (h : trimStart cs = d :: ds) :
    isBlank d = false := by
  induction cs with
  | nil => simp [trimStart] at h
  | cons c cs ih =>
    by_cases hc : isBlank c = true
    · exact ih (by simpa [trimStart, hc] using h)
    · have : c = d := by simpa [trimStart, hc] using congrArg List.head? h
      simpa [this] using hc

/-- **Only blank text trims to nothing.** -/
theorem trim_eq_nil_iff {cs : List Char} : trim cs = [] ↔ ∀ c ∈ cs, isBlank c = true := by
  have hrev : trim cs = [] ↔ ∀ c ∈ trimStart cs, isBlank c = true := by
    rw [show trim cs = (trimStart (trimStart cs).reverse).reverse from rfl,
      List.reverse_eq_nil_iff, trimStart_eq_nil_iff]
    simp
  rw [hrev]
  constructor
  · intro h
    cases hd : trimStart cs with
    | nil => exact trimStart_eq_nil_iff.1 hd
    | cons d ds =>
      simp [hd, not_isBlank_of_trimStart hd] at h
  · intro h
    rw [trimStart_eq_nil_iff.2 h]
    simp

end FederatedStorage.Text
