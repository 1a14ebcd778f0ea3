import FederatedStorage.Json.Outline
import FederatedStorage.Json.Printer
import FederatedStorage.Proofs.Text.Digits

/-!
# Words of written values

The words of a JSON text that was written are the words of its value. A string is read character by
character, and a number up to what cannot go on with it.

## Main statements

* `readString_escaped`: a string reads back.
* `readNumeral_digits`: a number without a fraction reads back.
* `tokens_render`: the words of a written value whose numbers are integers.
-/

namespace FederatedStorage.Json

open FederatedStorage.Text

/-! ## Strings -/

/-- An escape of one letter stands for its character. -/
theorem readString_shortEscape {s : StringState} {e c : Char} {cs : List Char}
    (h : shortEscape? e = some c) : readString s ('\\' :: e :: cs) = readString (s.push c) cs := by
  have hu : e ≠ 'u' := by
    rintro rfl
    cases h
  rw [readString, h]
  exact fun _ _ _ _ _ he => absurd he hu

/-- An escape of four digits stands for the character of that number, far from all surrogates. -/
theorem readString_numberEscape {s : StringState} {a b c d : Char} {n : Nat} {cs : List Char}
    (h : hexValue4? a b c d = some n) (hn : n < 0xD800) :
    readString s ('\\' :: 'u' :: a :: b :: c :: d :: cs) =
      readString (s.push (Char.ofNat n)) cs := by
  have hhigh : isHighSurrogate n = false := by
    simp only [isHighSurrogate, Bool.and_eq_false_iff, decide_eq_false_iff_not]
    omega
  have hlow : isLowSurrogate n = false := by
    simp only [isLowSurrogate, Bool.and_eq_false_iff, decide_eq_false_iff_not]
    omega
  rw [readString, h]
  simp only [hhigh, hlow, Bool.false_eq_true, if_false]

theorem readString_plain {s : StringState} {c : Char} {cs : List Char} (hquote : c ≠ '"')
    (hslash : c ≠ '\\') (hcontrol : ¬ c.toNat < 0x20) :
    readString s (c :: cs) = readString (s.push c) cs := by
  rw [readString]
  · simp [hcontrol, hslash]
  · exact hquote
  · exact fun _ _ _ _ _ hc => absurd hc hslash
  · exact fun _ _ hc => absurd hc hslash

/-- The numbers of control characters read back. -/
theorem hexValue4?_hexDigit : ∀ n < 0x20,
    hexValue4? '0' '0' (hexDigit (n / 16)) (hexDigit (n % 16)) = some n := by decide

/-- **A character is read back** as it was written. -/
theorem readString_escapeChar (s : StringState) (c : Char) (cs : List Char) :
    readString s (escapeChar c ++ cs) = readString (s.push c) cs := by
  have hself : ∀ n, c.toNat = n → c = Char.ofNat n := by
    rintro n rfl
    exact (Char.ofNat_toNat c).symm
  unfold escapeChar
  split_ifs with hquote hslash hcontrol hn hr ht hb hf
  · rw [eq_of_beq hquote]
    exact readString_shortEscape rfl
  · rw [eq_of_beq hslash]
    exact readString_shortEscape rfl
  · rw [eq_of_beq hn]
    exact readString_shortEscape rfl
  · rw [eq_of_beq hr]
    exact readString_shortEscape rfl
  · rw [eq_of_beq ht]
    exact readString_shortEscape rfl
  · rw [hself _ (eq_of_beq hb)]
    exact readString_shortEscape rfl
  · rw [hself _ (eq_of_beq hf)]
    exact readString_shortEscape rfl
  · have hhex := hexValue4?_hexDigit c.toNat hcontrol
    have hlt : c.toNat < 0xD800 := by omega
    exact (readString_numberEscape hhex hlt).trans (by rw [Char.ofNat_toNat]; rfl)
  · exact readString_plain (by simpa using hquote) (by simpa using hslash) hcontrol

/-- **A string reads back** up to its closing quote. -/
theorem readString_escaped (cs rest : List Char) (s : StringState) :
    readString s (cs.flatMap escapeChar ++ '"' :: rest) =
      some ((⟨cs.reverse ++ s.chars, s.halved⟩ : StringState).text?, rest) := by
  induction cs generalizing s with
  | nil => rw [List.flatMap_nil, List.nil_append, readString]; rfl
  | cons c cs ih =>
    rw [List.flatMap_cons, List.append_assoc, readString_escapeChar, ih]
    simp [StringState.push]

theorem readToken_quoted (s : String) (rest : List Char) :
    readToken (quoted s ++ rest) = some (.string (some s), rest) := by
  have hread := readString_escaped s.toList rest ⟨[], false⟩
  have htext : (⟨s.toList.reverse ++ [], false⟩ : StringState).text? = some s := by
    simp [StringState.text?]
  rw [htext] at hread
  show readToken ('"' :: (s.toList.flatMap escapeChar ++ ['"'] ++ rest)) = _
  rw [List.append_assoc, List.singleton_append]
  show (readString ⟨[], false⟩ (s.toList.flatMap escapeChar ++ '"' :: rest)).map _ = _
  rw [hread]
  rfl

/-! ## Numbers -/

/-- **Nothing goes on with a number** here: neither digits nor a fraction nor an exponent. -/
structure EndsNumeral (rest : List Char) : Prop where
  digit : EndsDigits rest
  fraction : ∀ cs, rest ≠ '.' :: cs
  exponent : ∀ cs, rest ≠ 'e' :: cs ∧ rest ≠ 'E' :: cs

theorem endsNumeral_nil : EndsNumeral [] :=
  ⟨endsDigits_nil, by simp, by simp⟩

theorem readFraction_ends {negative : Bool} {whole rest : List Char} (h : EndsNumeral rest) :
    readFraction negative whole rest = some (⟨negative, whole, [], none⟩, rest) := by
  unfold readFraction
  split
  · next cs => exact absurd rfl (h.fraction cs)
  · simp only [Option.bind_eq_bind, Option.bind_some]
    split
    · exact absurd rfl (h.exponent _).1
    · exact absurd rfl (h.exponent _).2
    · rfl

/-- **A number of digits reads back** up to what cannot go on with it. -/
theorem readNumeral_digits (negative : Bool) (n : Nat) {rest : List Char} (h : EndsNumeral rest) :
    readNumeral negative (Nat.toDigits 10 n ++ rest) =
      some (⟨negative, Nat.toDigits 10 n, [], none⟩, rest) := by
  have hspan : spanDigits (Nat.toDigits 10 n ++ rest) = (Nat.toDigits 10 n, rest) :=
    span_digits (fun _ hc => isDigit_of_mem_toDigits hc) h.digit
  unfold readNumeral
  rw [hspan]
  split
  · next heq => exact absurd (Prod.ext_iff.mp heq).1 Nat.toDigits_ne_nil
  · next heq => exact absurd (Prod.ext_iff.mp heq).1 (toDigits_ne_zero_cons n _ _)
  · next heq =>
    cases heq
    exact readFraction_ends h

/-- A number that is an integer of 64 bits, signed or not. -/
def Number.IsInteger : Number → Prop
  | .integer n => -(Nat.pow 2 63 : Nat) ≤ n ∧ n < UInt64.size
  | .real _ _ => False

theorem value?_natural {n : Nat} (h : n < UInt64.size) :
    Numeral.value? ⟨false, Nat.toDigits 10 n, [], none⟩ = some (.integer n) := by
  have hvalue : digitsValue 0 (Nat.toDigits 10 n) = n := Nat.ofDigitChars_ten_toDigits
  unfold Numeral.value?
  simp [hvalue, h]

theorem value?_negative {n : Nat} (hn : 0 < n) (h : n ≤ Nat.pow 2 63) :
    Numeral.value? ⟨true, Nat.toDigits 10 n, [], none⟩ = some (.integer (-(n : Int))) := by
  have hvalue : digitsValue 0 (Nat.toDigits 10 n) = n := Nat.ofDigitChars_ten_toDigits
  unfold Numeral.value?
  simp only [hvalue, List.isEmpty_nil, Option.isNone_none, Bool.and_self, if_true, decide_eq_true hn,
    decide_eq_true h]

/-- What begins with a digit is read as a number. -/
theorem readToken_digit {c : Char} {cs : List Char} (hc : c.isDigit = true) :
    readToken (c :: cs) =
      (readNumeral false (c :: cs)).map fun r => (.number r.1.value?, r.2) := by
  rw [readToken]
  all_goals
    rintro rest heq
    cases heq
    exact absurd hc (by decide)

theorem readToken_digits {n : Nat} {rest : List Char} (hn : n < UInt64.size)
    (h : EndsNumeral rest) :
    readToken (Nat.toDigits 10 n ++ rest) = some (.number (some (.integer n)), rest) := by
  have hread := readNumeral_digits false n h
  cases hds : Nat.toDigits 10 n with
  | nil => exact absurd hds Nat.toDigits_ne_nil
  | cons d ds =>
    have hd : d.isDigit = true := isDigit_of_mem_toDigits (hds ▸ List.mem_cons_self)
    rw [hds, List.cons_append] at hread
    rw [List.cons_append, readToken_digit hd, hread, Option.map_some, ← hds, value?_natural hn]

theorem render_natural (n : Nat) : (Number.integer (.ofNat n)).render = Nat.toDigits 10 n :=
  Nat.toList_repr

theorem render_negative (n : Nat) :
    (Number.integer (.negSucc n)).render = '-' :: Nat.toDigits 10 (n + 1) := by
  show ("-" ++ Nat.repr (n + 1)).toList = _
  rw [String.toList_append, Nat.toList_repr]
  rfl

theorem isSpace_of_isDigit {c : Char} (hc : c.isDigit = true) : isSpace c = false := by
  simp only [isSpace, Bool.or_eq_false_iff, beq_eq_false_iff_ne]
  refine ⟨⟨⟨?_, ?_⟩, ?_⟩, ?_⟩
  all_goals
    rintro rfl
    exact absurd hc (by decide)

/-- An integer is written without a blank at its beginning. -/
theorem exists_render_eq {n : Number} (hn : n.IsInteger) :
    ∃ c cs, n.render = c :: cs ∧ isSpace c = false := by
  cases n with
  | real negative m => exact hn.elim
  | integer n =>
    cases n with
    | negSucc n => exact ⟨_, _, render_negative n, by decide⟩
    | ofNat n =>
      rw [render_natural]
      cases hds : Nat.toDigits 10 n with
      | nil => exact absurd hds Nat.toDigits_ne_nil
      | cons d ds =>
        have hd : d.isDigit = true := isDigit_of_mem_toDigits (hds ▸ List.mem_cons_self)
        exact ⟨d, ds, rfl, isSpace_of_isDigit hd⟩

/-- **An integer reads back** up to what cannot go on with it. -/
theorem readToken_number {n : Number} {rest : List Char} (hn : n.IsInteger)
    (h : EndsNumeral rest) : readToken (n.render ++ rest) = some (.number (some n), rest) := by
  cases n with
  | real negative m => exact hn.elim
  | integer n =>
    obtain ⟨hlow, hhigh⟩ := hn
    cases n with
    | ofNat n =>
      rw [render_natural, readToken_digits (Int.ofNat_lt.mp hhigh) h]
      rfl
    | negSucc n =>
      rw [render_negative, List.cons_append]
      show (readNumeral true (Nat.toDigits 10 (n + 1) ++ rest)).map _ = _
      rw [readNumeral_digits true (n + 1) h, Option.map_some,
        value?_negative (Nat.succ_pos n) (by omega)]
      rfl

/-! ## Words of texts -/

/-- **The words of a piece of text**: reading it, with enough fuel, gives these words and goes on with
the rest with enough fuel. -/
def Reads (piece : List Char) (ts : List Token) (rest : List Char) : Prop :=
  ∀ fuel, (piece ++ rest).length ≤ fuel → ∃ left, rest.length ≤ left ∧
    tokensWithin fuel (piece ++ rest) = ts ++ tokensWithin left rest

theorem Reads.nil (rest : List Char) : Reads [] [] rest := fun fuel h => ⟨fuel, h, rfl⟩

/-- **One piece after another.** -/
theorem Reads.append {x y : List Char} {ts us : List Token} {rest : List Char}
    (hx : Reads x ts (y ++ rest)) (hy : Reads y us rest) : Reads (x ++ y) (ts ++ us) rest := by
  intro fuel h
  rw [List.append_assoc] at h ⊢
  obtain ⟨between, hbetween, hfirst⟩ := hx fuel h
  obtain ⟨left, hleft, hsecond⟩ := hy between hbetween
  exact ⟨left, hleft, by rw [hfirst, hsecond, List.append_assoc]⟩

/-- A piece that is one word. -/
theorem Reads.word {c : Char} {cs : List Char} {t : Token} {rest : List Char}
    (hc : isSpace c = false) (h : readToken (c :: cs ++ rest) = some (t, rest)) :
    Reads (c :: cs) [t] rest := by
  intro fuel hfuel
  cases fuel with
  | zero => exact absurd hfuel (by simp)
  | succ fuel =>
    have hle : rest.length ≤ fuel := by
      simp only [List.length_append, List.length_cons] at hfuel
      omega
    refine ⟨fuel, hle, ?_⟩
    rw [List.cons_append] at h ⊢
    rw [tokensWithin, List.dropWhile_cons_of_neg (by rw [hc]; decide)]
    simp only [h]
    rfl

/-- The words of items, with commas between them. -/
def commaWords : List (List Token) → List Token
  | [] => []
  | [x] => x
  | x :: xs => x ++ .comma :: commaWords xs

mutual

/-- **The words of a value.** -/
def Value.words : Value → List Token
  | .null => [.null]
  | .bool b => [.bool b]
  | .number n => [.number (some n)]
  | .string s => [.string (some s)]
  | .array vs => .openArray :: commaWords (itemWords vs) ++ [.closeArray]
  | .object ms => .openObject :: commaWords (memberWords ms) ++ [.closeObject]

/-- The words of each item. -/
def itemWords : List Value → List (List Token)
  | [] => []
  | v :: vs => v.words :: itemWords vs

/-- The words of each member. -/
def memberWords : List (String × Value) → List (List Token)
  | [] => []
  | (k, v) :: ms => (.string (some k) :: .colon :: v.words) :: memberWords ms

end

mutual

/-- **All numbers of a value are integers** of 64 bits. -/
def Value.IsIntegral : Value → Prop
  | .number n => n.IsInteger
  | .array vs => ItemsIntegral vs
  | .object ms => MembersIntegral ms
  | _ => True

def ItemsIntegral : List Value → Prop
  | [] => True
  | v :: vs => v.IsIntegral ∧ ItemsIntegral vs

def MembersIntegral : List (String × Value) → Prop
  | [] => True
  | m :: ms => m.2.IsIntegral ∧ MembersIntegral ms

end

theorem Reads.mark {c : Char} {t : Token} (rest : List Char) (hc : isSpace c = false)
    (h : readToken (c :: rest) = some (t, rest)) : Reads [c] [t] rest := Reads.word hc h

theorem Reads.quoted (s : String) (rest : List Char) :
    Reads (quoted s) [.string (some s)] rest :=
  Reads.word (by decide) (readToken_quoted s rest)

/-- What may follow a value inside of another one. -/
theorem endsNumeral_cons {c : Char} {rest : List Char} (hdigit : c.isDigit = false)
    (hpoint : c ≠ '.') (hsmall : c ≠ 'e') (hlarge : c ≠ 'E') : EndsNumeral (c :: rest) :=
  ⟨endsDigits_cons hdigit, fun _ h => hpoint (List.cons.inj h).1,
    fun _ => ⟨fun h => hsmall (List.cons.inj h).1, fun h => hlarge (List.cons.inj h).1⟩⟩

theorem Reads.number {n : Number} {rest : List Char} (hn : n.IsInteger) (h : EndsNumeral rest) :
    Reads n.render [.number (some n)] rest := by
  obtain ⟨c, cs, hrender, hc⟩ := exists_render_eq hn
  have hread := readToken_number hn h
  rw [hrender] at hread ⊢
  exact Reads.word hc hread

mutual

/-- **A written value is read** word by word. -/
theorem reads_value : ∀ (v : Value) {rest : List Char}, v.IsIntegral → EndsNumeral rest →
    Reads v.chars v.words rest
  | .null, _, _, _ => Reads.word (by decide) rfl
  | .bool true, _, _, _ => Reads.word (by decide) rfl
  | .bool false, _, _, _ => Reads.word (by decide) rfl
  | .number _, _, hv, h => Reads.number hv h
  | .string s, rest, _, _ => Reads.quoted s rest
  | .array vs, rest, hv, _ => by
    have hclose : EndsNumeral (']' :: rest) :=
      endsNumeral_cons (by decide) (by decide) (by decide) (by decide)
    exact ((Reads.mark _ (by decide) rfl).append (reads_items vs hv hclose)).append
      (Reads.mark rest (by decide) rfl)
  | .object ms, rest, hv, _ => by
    have hclose : EndsNumeral ('\x7d' :: rest) :=
      endsNumeral_cons (by decide) (by decide) (by decide) (by decide)
    exact ((Reads.mark _ (by decide) rfl).append (reads_members ms hv hclose)).append
      (Reads.mark rest (by decide) rfl)

theorem reads_items : ∀ (vs : List Value) {rest : List Char}, ItemsIntegral vs → EndsNumeral rest →
    Reads (commaSeparated (itemChars vs)) (commaWords (itemWords vs)) rest
  | [], rest, _, _ => Reads.nil rest
  | [v], _, hv, h => reads_value v hv.1 h
  | v :: v2 :: vs, rest, hv, h => by
    have hcomma : EndsNumeral (',' :: (commaSeparated (itemChars (v2 :: vs)) ++ rest)) :=
      endsNumeral_cons (by decide) (by decide) (by decide) (by decide)
    exact (reads_value v hv.1 hcomma).append
      ((Reads.mark _ (by decide) rfl).append (reads_items (v2 :: vs) hv.2 h))

theorem reads_members : ∀ (ms : List (String × Value)) {rest : List Char}, MembersIntegral ms →
    EndsNumeral rest → Reads (commaSeparated (memberChars ms)) (commaWords (memberWords ms)) rest
  | [], rest, _, _ => Reads.nil rest
  | [(k, v)], _, hv, h =>
    (Reads.quoted k _).append ((Reads.mark _ (by decide) rfl).append (reads_value v hv.1 h))
  | (k, v) :: m :: ms, rest, hv, h => by
    have hcomma : EndsNumeral (',' :: (commaSeparated (memberChars (m :: ms)) ++ rest)) :=
      endsNumeral_cons (by decide) (by decide) (by decide) (by decide)
    exact ((Reads.quoted k _).append
      ((Reads.mark _ (by decide) rfl).append (reads_value v hv.1 hcomma))).append
        ((Reads.mark _ (by decide) rfl).append (reads_members (m :: ms) hv.2 h))

end

/-- **The words of a written value** whose numbers are integers. -/
theorem tokens_render {v : Value} (h : v.IsIntegral) : tokens v.render = v.words := by
  have hread := reads_value v h endsNumeral_nil
  obtain ⟨left, -, htokens⟩ := hread v.chars.length (by simp)
  have hrest : tokensWithin left [] = [] := by cases left <;> rfl
  rw [List.append_nil, hrest, List.append_nil] at htokens
  show tokensWithin v.render.toList.length v.render.toList = v.words
  rw [Value.render, String.toList_ofList]
  exact htokens

end FederatedStorage.Json
