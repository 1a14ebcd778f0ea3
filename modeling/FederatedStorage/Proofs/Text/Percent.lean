import FederatedStorage.Text.Percent
import Mathlib.Data.List.Basic

/-!
# Percent-encoding read back

Every byte of a text is read back from what is written for it, whatever follows, so a text is read
back from its encoded form. That form holds none of the signs that cut a path.

## Main statements

* `decodeBytes_written`: a byte and what follows it.
* `decode?_encode`: a text.
* `plain_encode`: the characters of an encoded form.
-/

namespace FederatedStorage.Text.Percent

/-! ## Bytes -/

/-- What holds of 256 numbers holds of every byte. -/
theorem forall_byte {p : UInt8 → Prop} (h : ∀ n : Fin 256, p (UInt8.ofNat n.val)) (b : UInt8) :
    p b := by
  have hb := h ⟨b.toNat, b.toNat_lt⟩
  rwa [UInt8.ofNat_toNat] at hb

/-- The byte of a hexadecimal digit. -/
def hexByte (n : Nat) : UInt8 := UInt8.ofNat (upperHex n).toNat

/-- The bytes of the encoded form of a byte. -/
def written (b : UInt8) : List UInt8 := (encodeByte b).flatMap String.utf8EncodeChar

/-- A byte stands for itself, and is no percent sign, or its digits follow one. -/
theorem written_cases (b : UInt8) :
    (written b = [b] ∧ b ≠ 0x25) ∨
      (written b = [0x25, hexByte (b.toNat / 16), hexByte (b.toNat % 16)] ∧
        hexValue? (hexByte (b.toNat / 16)) = some (b / 16) ∧
        hexValue? (hexByte (b.toNat % 16)) = some (b % 16) ∧ b / 16 * 16 + b % 16 = b) := by
  revert b
  refine forall_byte ?_
  decide +kernel

/-- A byte that is no percent sign stands for itself. -/
theorem decodeBytes_cons {b : UInt8} (h : b ≠ 0x25) (rest : List UInt8) :
    decodeBytes (b :: rest) = b :: decodeBytes rest := by
  cases rest with
  | nil => rw [decodeBytes.eq_def]
  | cons h' rest =>
    cases rest with
    | nil => rw [decodeBytes.eq_def]
    | cons l rest =>
      rw [decodeBytes]
      simp [h]

/-- **A byte is read back**, whatever follows it. -/
theorem decodeBytes_written (b : UInt8) (rest : List UInt8) :
    decodeBytes (written b ++ rest) = b :: decodeBytes rest := by
  rcases written_cases b with ⟨hself, hne⟩ | ⟨hescaped, hhigh, hlow, hsum⟩
  · rw [hself, List.singleton_append, decodeBytes_cons hne]
  · rw [hescaped, List.cons_append, List.cons_append, List.cons_append, List.nil_append, decodeBytes,
      hhigh, hlow]
    simp [hsum]

theorem decodeBytes_flatMap_written (bytes : List UInt8) :
    decodeBytes (bytes.flatMap written) = bytes := by
  induction bytes with
  | nil => rw [List.flatMap_nil, decodeBytes]
  | cons b bytes ih => rw [List.flatMap_cons, decodeBytes_written, ih]

/-! ## Texts -/

/-- **A text is read back** from its encoded form. -/
theorem decode?_encode (s : String) : decode? (encode s) = some s := by
  have hwritten : Utf8.write (String.ofList (encode s)) = (Utf8.write s).flatMap written := by
    unfold Utf8.write encode
    rw [String.toList_ofList, List.flatMap_assoc]
    rfl
  rw [decode?, hwritten, decodeBytes_flatMap_written, Utf8.read?_write]

theorem encode_inj {s t : String} (h : encode s = encode t) : s = t := by
  have hread := decode?_encode s
  rw [h, decode?_encode] at hread
  exact (Option.some.inj hread).symm

theorem encode_ne_nil {s : String} (h : s ≠ "") : encode s ≠ [] := fun hnil =>
  h (encode_inj (hnil.trans (by decide)))

/-- A character that does not cut a path: no slash, question mark or number sign. -/
def isPlain (c : Char) : Bool := c != '/' && c != '?' && c != '#'

theorem plain_encodeByte (b : UInt8) : ∀ c ∈ encodeByte b, isPlain c = true := by
  refine List.all_eq_true.mp ?_
  revert b
  refine forall_byte ?_
  decide +kernel

/-- **An encoded form does not cut a path.** -/
theorem plain_encode (s : String) : ∀ c ∈ encode s, isPlain c = true := by
  intro c hc
  obtain ⟨b, -, hb⟩ := List.mem_flatMap.mp hc
  exact plain_encodeByte b c hb

end FederatedStorage.Text.Percent
