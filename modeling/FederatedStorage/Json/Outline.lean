import FederatedStorage.Json.Token
import FederatedStorage.Keyed

/-!
# Outlines of JSON texts

The tree of a JSON text before anyone has asked what it should be. A text that stops being JSON
gives the tree of all that stood before that place: the containers around it stay open, and a value
that should have stood there is `broken`. Whoever reads an outline from left to right therefore
meets the first problem of the text, whether it lies in the grammar or in what the reader wanted.

The tree is built with a stack of open containers, so texts may nest as deep as they like.

## Main definitions

* `Outline.ofTokens`: the outline of the first value, and the tokens behind it.
* `Outline.toValue`: the value of an outline, down to a given depth.
* `Outline.ofValue`: the outline of a value that is already known.
-/

namespace FederatedStorage.Json

/-- Why a text cannot be read: it is no JSON, or not JSON of the wanted shape. -/
inductive Fault
  | malformed
  | mismatch
deriving DecidableEq, Repr

/-- The tree of a text, up to the place where it stops being JSON. -/
inductive Outline
  | broken
  | null
  | bool (b : Bool)
  | number (value? : Option Number)
  | string (text? : Option String)
  | array (items : List Outline) (closed : Bool)
  | object (members : List (Outline × Outline)) (closed : Bool)
deriving Inhabited

namespace Outline

/-- Nested containers that may be kept. -/
def depthLimit : Nat := 127

/-! ## Building -/

/-- A container that is still open: what it holds, latest first, and the key under way. -/
inductive Frame
  | items (done : List Outline)
  | members (done : List (Outline × Outline)) (key : Option Outline)

/-- What may come next. -/
inductive Next
  | value
  | valueOrClose
  | key
  | keyOrClose
  | colon
  | separator

/-- Closes the text off inside a container. -/
def Frame.cut : Frame → Outline → Outline
  | .items done, .broken => .array done.reverse false
  | .items done, last => .array (last :: done).reverse false
  | .members done none, _ => .object done.reverse false
  | .members done (some key), last => .object ((key, last) :: done).reverse false

/-- Closes the text off inside all open containers. -/
def cut (stack : List Frame) (last : Outline) : Outline := stack.foldl (fun o f => f.cut o) last

/-- Closes the text off where a key should stand. -/
def cutKey (done : List (Outline × Outline)) (stack : List Frame) : Outline :=
  cut stack (.object ((.broken, .broken) :: done).reverse false)

/-- The value that a token is on its own. -/
def ofToken? : Token → Option Outline
  | .null => some .null
  | .bool b => some (.bool b)
  | .number n => some (.number n)
  | .string s => some (.string s)
  | _ => none

/-- Puts a finished value into the innermost container. -/
def Frame.put : Frame → Outline → Frame
  | .items done, o => .items (o :: done)
  | .members done (some key), o => .members ((key, o) :: done) none
  | .members done none, _ => .members done none

/-- The container that a frame becomes when it is closed. -/
def Frame.close : Frame → Outline
  | .items done => .array done.reverse true
  | .members done _ => .object done.reverse true

/-- Builds the tree, token by token. -/
def build (stack : List Frame) (next : Next) : List Token → Outline × List Token
  | [] => (cut stack .broken, [])
  | t :: ts =>
    let finish (stack : List Frame) (o : Outline) : Outline × List Token :=
      match stack with
      | [] => (o, ts)
      | f :: fs => build (f.put o :: fs) .separator ts
    let startValue (_ : Unit) : Outline × List Token :=
      match t with
      | .openArray => build (.items [] :: stack) .valueOrClose ts
      | .openObject => build (.members [] none :: stack) .keyOrClose ts
      | t =>
        match ofToken? t with
        | some o => finish stack o
        | none => (cut stack .broken, t :: ts)
    match next, stack with
    | .value, _ => startValue ()
    | .valueOrClose, f :: fs =>
      match t with
      | .closeArray => finish fs f.close
      | _ => startValue ()
    | .separator, .items done :: fs =>
      match t with
      | .comma => build (.items done :: fs) .value ts
      | .closeArray => finish fs (Frame.items done).close
      | t => (cut stack .broken, t :: ts)
    | .separator, .members done key :: fs =>
      match t with
      | .comma => build (.members done key :: fs) .key ts
      | .closeObject => finish fs (Frame.members done key).close
      | t => (cut stack .broken, t :: ts)
    | .keyOrClose, .members done key :: fs =>
      match t with
      | .closeObject => finish fs (Frame.members done key).close
      | .string s => build (.members done (some (.string s)) :: fs) .colon ts
      | t => (cutKey done fs, t :: ts)
    | .key, .members done _ :: fs =>
      match t with
      | .string s => build (.members done (some (.string s)) :: fs) .colon ts
      | t => (cutKey done fs, t :: ts)
    | .colon, _ =>
      match t with
      | .colon => build stack .value ts
      | t => (cut stack .broken, t :: ts)
    | _, _ => (cut stack .broken, t :: ts)

/-- **The outline of the first value** of a text, and the tokens behind it. -/
def ofTokens (ts : List Token) : Outline × List Token := build [] .value ts

/-! ## Reading -/

/-- Why an outline is not what was wanted: words that cannot be kept are no JSON, all else is JSON
of another shape. Containers are refused at their opening. -/
def refusal : Outline → Fault
  | .broken => .malformed
  | .number none => .malformed
  | .string none => .malformed
  | _ => .mismatch

/-- Whether an outline is JSON to its end. -/
def isWhole : Outline → Bool
  | .broken => false
  | .array _ closed => closed
  | .object _ closed => closed
  | _ => true

/-- Skips a value that nobody wants. -/
def skip (o : Outline) : Except Fault Unit :=
  if o.isWhole then .ok () else .error .malformed

/-- The text of a string. -/
def readText : Outline → Except Fault String
  | .string (some s) => .ok s
  | o => .error o.refusal

/-- **The value of an outline** with at most `depth` nested containers. The members of its objects
come in ascending order; of members of one name the last counts. -/
def toValue (depth : Nat) (o : Outline) : Except Fault Value :=
  match depth, o with
  | _, .null => .ok .null
  | _, .bool b => .ok (.bool b)
  | _, .number (some n) => .ok (.number n)
  | _, .string (some s) => .ok (.string s)
  | depth + 1, .array items closed => do
    let vs ← items.mapM (toValue depth)
    if closed then .ok (.array vs) else .error .malformed
  | depth + 1, .object members closed => do
    let ms ← members.foldlM
      (fun ms m => do
        let name ← m.1.readText.mapError fun _ => .malformed
        return Keyed.insertEntry name (← toValue depth m.2) ms) []
    if closed then .ok (.object ms) else .error .malformed
  | _, _ => .error .malformed

mutual

/-- **The outline of a value.** -/
def ofValue : Value → Outline
  | .null => .null
  | .bool b => .bool b
  | .number n => .number (some n)
  | .string s => .string (some s)
  | .array vs => .array (ofItems vs) true
  | .object ms => .object (ofMembers ms) true

/-- The outlines of items. -/
def ofItems : List Value → List Outline
  | [] => []
  | v :: vs => ofValue v :: ofItems vs

/-- The outlines of members. -/
def ofMembers : List (String × Value) → List (Outline × Outline)
  | [] => []
  | (k, v) :: ms => (.string (some k), ofValue v) :: ofMembers ms

end

end Outline

/-- The value of a JSON text, with nothing but blanks behind it. -/
def Value.ofText? (text : String) : Option Value :=
  match Outline.ofTokens (tokens text) with
  | (o, []) => (o.toValue Outline.depthLimit).toOption
  | _ => none

end FederatedStorage.Json
