/-!
# UTF-8, read with losses

Bytes that come from outside need not be UTF-8. `readLossy` never fails: every longest piece that
could still have begun a character, but does not go on as one, becomes one replacement character.
-/

namespace FederatedStorage.Text.Utf8

/-- Stands for bytes that are no character. -/
def replacement : Char := Char.ofNat 0xFFFD

/-- What a first byte announces: how many bytes follow it, and where the first of them must lie. -/
structure Lead where
  following : Nat
  low : Nat
  high : Nat

/-- The announcement of a first byte; none for a byte that begins no character. The narrow ranges
shut out longer forms than needed, surrogates and code points above U+10FFFF. -/
def lead? (b : Nat) : Option Lead :=
  if b < 0x80 then some ⟨0, 0, 0⟩
  else if b < 0xC2 then none
  else if b < 0xE0 then some ⟨1, 0x80, 0xBF⟩
  else if b == 0xE0 then some ⟨2, 0xA0, 0xBF⟩
  else if b == 0xED then some ⟨2, 0x80, 0x9F⟩
  else if b < 0xF0 then some ⟨2, 0x80, 0xBF⟩
  else if b == 0xF0 then some ⟨3, 0x90, 0xBF⟩
  else if b < 0xF4 then some ⟨3, 0x80, 0xBF⟩
  else if b == 0xF4 then some ⟨3, 0x80, 0x8F⟩
  else none

/-- The bits a first byte contributes. -/
def leadBits (b : Nat) : Nat :=
  if b < 0x80 then b else if b < 0xE0 then b % 0x20 else if b < 0xF0 then b % 0x10 else b % 0x08

/-- A character under way: how many bytes are missing, where the next must lie, the bits so far. -/
structure Partial where
  missing : Nat
  low : Nat
  high : Nat
  bits : Nat

/-- Reads a byte that begins a character or replaces it. -/
def start (b : UInt8) : Option Partial × List Char :=
  match lead? b.toNat with
  | none => (none, [replacement])
  | some ⟨0, _, _⟩ => (none, [Char.ofNat b.toNat])
  | some l => (some ⟨l.following, l.low, l.high, leadBits b.toNat⟩, [])

/-- One byte further. A byte that does not continue the character under way replaces what was read
of it, and begins anew. -/
def push (under : Option Partial) (b : UInt8) : Option Partial × List Char :=
  match under with
  | none => start b
  | some p =>
    if p.low ≤ b.toNat && b.toNat ≤ p.high then
      let bits := p.bits * 0x40 + b.toNat % 0x40
      if p.missing ≤ 1 then (none, [Char.ofNat bits])
      else (some ⟨p.missing - 1, 0x80, 0xBF, bits⟩, [])
    else
      let next := start b
      (next.1, replacement :: next.2)

/-- The characters of a byte sequence, after `under`. -/
def readFrom (under : Option Partial) : List UInt8 → List Char
  | [] => if under.isSome then [replacement] else []
  | b :: bs => (push under b).2 ++ readFrom (push under b).1 bs

/-- **The text of a byte sequence**, replacing what is no UTF-8. -/
def readLossy (bytes : List UInt8) : String := String.ofList (readFrom none bytes)

/-- The bytes of a text. -/
def write (s : String) : List UInt8 := s.toList.flatMap String.utf8EncodeChar

/-- The text whose bytes these are, if they are UTF-8. -/
def read? (bytes : List UInt8) : Option String := String.fromUTF8? bytes.toByteArray

/-- **A text is read back from its bytes.** -/
theorem read?_write (s : String) : read? (write s) = some s := by
  have hs : (write s).toByteArray = s.toByteArray := by
    change s.toList.utf8Encode = s.toByteArray
    rw [← String.toByteArray_ofList, String.ofList_toList]
  simp [read?, hs, String.fromUTF8?, String.fromUTF8, String.isValidUTF8]

end FederatedStorage.Text.Utf8
