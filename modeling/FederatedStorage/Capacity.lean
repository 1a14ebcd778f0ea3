import FederatedStorage.Decimal.Binary64
import FederatedStorage.Text.Blank
import FederatedStorage.Text.Casing
import FederatedStorage.Text.Quoted

/-!
# Capacities

A capacity is a number and a unit, such as `1.5Gi`. The number is the longest front of digits and
points and must have a digit and at most one point. The unit is a letter for a power of 1024,
optionally followed by `B`, `I` or `IB`, in any case; without a unit the number counts bytes. The
number is taken to the nearest magnitude of the binary format, and a part of a byte is dropped.
-/

namespace FederatedStorage

open Decimal Text

/-- Why a text is no capacity. -/
inductive CapacityFault
  | invalid (text : String)
  | unknownUnit (unit : String)
  | tooLarge (text : String)
deriving DecidableEq, Repr

namespace CapacityFault

/-- The text of a fault. -/
def message : CapacityFault → String
  | .invalid text => "invalid capacity: " ++ quote text
  | .unknownUnit unit => "unknown capacity unit: " ++ unit
  | .tooLarge text => "capacity too large: " ++ quote text

end CapacityFault

namespace Capacity

/-- The characters of the number. -/
def isNumberChar (c : Char) : Bool := c.isDigit || c == '.'

/-- The number of a capacity: its digits as one number, and how many stand behind the point. -/
structure Amount where
  digits : Nat
  fraction : Nat
deriving DecidableEq, Repr

/-- The value of decimal digits. -/
def digitsValue (ds : List Char) : Nat := ds.foldl (fun n d => 10 * n + (d.toNat - 0x30)) 0

/-- The amount that digits and points stand for. -/
def amount? (cs : List Char) : Option Amount :=
  let whole := cs.takeWhile Char.isDigit
  match cs.dropWhile Char.isDigit with
  | [] => if whole.isEmpty then none else some ⟨digitsValue whole, 0⟩
  | _ :: fraction =>
    if fraction.all Char.isDigit && !(whole.isEmpty && fraction.isEmpty) then
      some ⟨digitsValue (whole ++ fraction), fraction.length⟩
    else none

/-- The units, by their letter: powers of two. -/
def scales : List (Char × Nat) := [('K', 10), ('M', 20), ('G', 30), ('T', 40), ('P', 50)]

/-- What may follow the letter of a unit. -/
def endings : List (List Char) := [[], ['B'], ['I'], ['I', 'B']]

/-- The power of two that a unit stands for. -/
def unitPower? (unit : List Char) : Option Nat :=
  match upper unit with
  | [] => some 0
  | ['B'] => some 0
  | letter :: ending => if endings.contains ending then scales.lookup letter else none

/-- The bytes of an amount in a unit. None from 2 ^ 64 on. -/
def bytes? (a : Amount) (power : Nat) : Option UInt64 := do
  let value ← Binary64.ofDecimal? a.digits a.fraction
  let product ← value.mul? (← Binary64.ofNat? (Nat.pow 2 power))
  let n := product.floor
  if n < UInt64.size then some (UInt64.ofNat n) else none

/-- **Reads a capacity.** -/
def parse (text : String) : Except CapacityFault UInt64 :=
  let cs := trim text.toList
  let shown := String.ofList cs
  let unit := trim (cs.dropWhile isNumberChar)
  match amount? (cs.takeWhile isNumberChar) with
  | none => .error (.invalid shown)
  | some amount =>
    match unitPower? unit with
    | none => .error (.unknownUnit (String.ofList unit))
    | some power =>
      match bytes? amount power with
      | none => .error (.tooLarge shown)
      | some n => .ok n

end Capacity

end FederatedStorage
