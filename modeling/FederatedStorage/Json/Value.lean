import FederatedStorage.Decimal.Binary64

/-!
# JSON values

A JSON value whose objects keep their members in the order given. A number is an integer of 64 bits,
signed or unsigned, or a floating-point number.
-/

namespace FederatedStorage.Json

open FederatedStorage.Decimal

/-- A number: an integer between `-2 ^ 63` and `2 ^ 64 - 1`, or a real in the binary format. -/
inductive Number
  | integer (n : Int)
  | real (negative : Bool) (magnitude : Binary64)
deriving DecidableEq, Repr, Inhabited

/-- A JSON value. -/
inductive Value
  | null
  | bool (b : Bool)
  | number (n : Number)
  | string (s : String)
  | array (items : List Value)
  | object (members : List (String × Value))
deriving Repr, Inhabited

namespace Value

/-- A natural number. -/
def natural (n : Nat) : Value := .number (.integer n)

/-- A list of texts. -/
def texts (ss : List String) : Value := .array (ss.map .string)

/-- Looks a member up; of members of one name the last counts. -/
def get? : Value → String → Option Value
  | .object members, name => (members.reverse.find? fun m => m.1 == name).map (·.2)
  | _, _ => none

/-- Whether a value is `null`. -/
def isNull : Value → Bool
  | .null => true
  | _ => false

/-- The members of an object. -/
def members : Value → List (String × Value)
  | .object ms => ms
  | _ => []

/-- The items of an array. -/
def items : Value → List Value
  | .array vs => vs
  | _ => []

/-- The text of a string. -/
def text? : Value → Option String
  | .string s => some s
  | _ => none

end Value

end FederatedStorage.Json
