import FederatedStorage.Json.Value
import FederatedStorage.Decimal.Shortest

/-!
# JSON text of a value

Compact text: no blanks, members in the order of the value. Strings escape the quote, the backslash
and the control characters, and nothing else.
-/

namespace FederatedStorage.Json

open FederatedStorage.Decimal

/-- A hexadecimal digit, in lower case. -/
def hexDigit (n : Nat) : Char :=
  if n < 10 then Char.ofNat (0x30 + n) else Char.ofNat (0x57 + n)

/-- One character of a string. -/
def escapeChar (c : Char) : List Char :=
  if c == '"' then ['\\', '"']
  else if c == '\\' then ['\\', '\\']
  else if c.toNat < 0x20 then
    if c == '\n' then ['\\', 'n']
    else if c == '\r' then ['\\', 'r']
    else if c == '\t' then ['\\', 't']
    else if c.toNat == 0x08 then ['\\', 'b']
    else if c.toNat == 0x0C then ['\\', 'f']
    else ['\\', 'u', '0', '0', hexDigit (c.toNat / 16), hexDigit (c.toNat % 16)]
  else [c]

/-- A string between its quotes. -/
def quoted (s : String) : List Char := '"' :: s.toList.flatMap escapeChar ++ ['"']

/-- Reals keep a fraction digit; places from -4 to 16 are written without an exponent. -/
def realLayout : Layout := ⟨-4, 16, ".0"⟩

/-- The text of a number. -/
def Number.render : Number → List Char
  | .integer n => (toString n).toList
  | .real negative m =>
    (if negative then ['-'] else []) ++ (realLayout.write (digitsOf m)).toList

/-- Puts a comma between items. -/
def commaSeparated : List (List Char) → List Char
  | [] => []
  | [x] => x
  | x :: xs => x ++ ',' :: commaSeparated xs

mutual

/-- The characters of a value. -/
def Value.chars : Value → List Char
  | .null => ['n', 'u', 'l', 'l']
  | .bool true => ['t', 'r', 'u', 'e']
  | .bool false => ['f', 'a', 'l', 's', 'e']
  | .number n => n.render
  | .string s => quoted s
  | .array vs => '[' :: commaSeparated (itemChars vs) ++ [']']
  | .object ms => '\x7b' :: commaSeparated (memberChars ms) ++ ['\x7d']

/-- The characters of each item. -/
def itemChars : List Value → List (List Char)
  | [] => []
  | v :: vs => v.chars :: itemChars vs

/-- The characters of each member. -/
def memberChars : List (String × Value) → List (List Char)
  | [] => []
  | (k, v) :: ms => (quoted k ++ ':' :: v.chars) :: memberChars ms

end

/-- **The JSON text of a value.** -/
def Value.render (v : Value) : String := String.ofList v.chars

end FederatedStorage.Json
