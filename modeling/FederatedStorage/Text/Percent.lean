import FederatedStorage.Text.Utf8

/-!
# Percent-encoding

Letters, digits and four signs stand for themselves; every other byte of the UTF-8 form is written
as a percent sign and two hexadecimal digits. Decoding reads both cases of digits, and leaves a
percent sign that no two digits follow as it is.

## Main definitions

* `encode`, `decode?`.
-/

namespace FederatedStorage.Text.Percent

/-- The bytes that stand for themselves. -/
def isUnreserved (b : UInt8) : Bool :=
  let n := b.toNat
  (0x30 ≤ n && n ≤ 0x39) || (0x41 ≤ n && n ≤ 0x5A) || (0x61 ≤ n && n ≤ 0x7A)
    || n == 0x2D || n == 0x5F || n == 0x2E || n == 0x7E

/-- A hexadecimal digit, in upper case. -/
def upperHex (n : Nat) : Char :=
  if n < 10 then Char.ofNat (0x30 + n) else Char.ofNat (0x37 + n)

/-- The characters of one byte. -/
def encodeByte (b : UInt8) : List Char :=
  if isUnreserved b then [Char.ofNat b.toNat]
  else ['%', upperHex (b.toNat / 16), upperHex (b.toNat % 16)]

/-- **The encoded form** of a text. -/
def encode (s : String) : List Char := (Utf8.write s).flatMap encodeByte

/-- The value of a byte that is a hexadecimal digit. -/
def hexValue? (b : UInt8) : Option UInt8 :=
  let n := b.toNat
  if 0x30 ≤ n && n ≤ 0x39 then some (b - 0x30)
  else if 0x41 ≤ n && n ≤ 0x46 then some (b - 0x37)
  else if 0x61 ≤ n && n ≤ 0x66 then some (b - 0x57)
  else none

/-- Resolves percent signs that two digits follow. -/
def decodeBytes : List UInt8 → List UInt8
  | [] => []
  | b :: h :: l :: rest =>
    if b == 0x25 then
      match hexValue? h, hexValue? l with
      | some high, some low => (high * 16 + low) :: decodeBytes rest
      | _, _ => b :: decodeBytes (h :: l :: rest)
    else b :: decodeBytes (h :: l :: rest)
  | b :: rest => b :: decodeBytes rest
termination_by bs => bs.length

/-- **The text of an encoded form**, unless its bytes are no text. -/
def decode? (cs : List Char) : Option String :=
  Utf8.read? (decodeBytes (Utf8.write (String.ofList cs)))

end FederatedStorage.Text.Percent
