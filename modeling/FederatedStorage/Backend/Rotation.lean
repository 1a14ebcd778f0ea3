import FederatedStorage.Failure
import FederatedStorage.Text.Quoted

/-!
# Dialing in rotation

The endpoints of an array are equivalent. A dial begins at the endpoint whose turn it is and tries
every endpoint once until one answers; the turn moves on by one with every dial, whatever becomes of
it. Each endpoint counts its open connections and its failed attempts; the counts decide nothing.

A dial is a sequence of attempts, so that several dials can be under way at once: `beginDial` takes
a turn, and `attempt` records what became of one attempt.

## Main definitions

* `Rotation.beginDial`, `Rotation.attempt`, `Rotation.release`: the steps.
* `Rotation.dial`: a whole dial.
-/

namespace FederatedStorage

open Text

/-- An endpoint and its counts. -/
structure Endpoint where
  address : String
  active : Int
  errors : UInt64
deriving DecidableEq, Repr

/-- The endpoints of an array, and the number of dials so far. -/
structure Rotation where
  endpoints : List Endpoint
  dials : UInt64
deriving DecidableEq, Repr

/-- A dial under way: the endpoints still to be tried, by their places, and the last error. -/
structure Dial where
  untried : List Nat
  lastError : String
deriving DecidableEq, Repr

/-- An open connection, to the endpoint at a place. -/
structure Connection where
  place : Nat
  address : String
deriving DecidableEq, Repr

namespace Rotation

/-- A rotation over some addresses; it needs at least one. -/
def new (addresses : List String) : Except Failure Rotation :=
  if addresses.isEmpty then .error (.configuration "balancer needs at least one endpoint")
  else .ok ⟨addresses.map fun a => ⟨a, 0, 0⟩, 0⟩

/-- The number of endpoints. -/
def size (r : Rotation) : Nat := r.endpoints.length

/-- The places of `n` endpoints, from one of them around. -/
def placesFrom (n start : Nat) : List Nat := (List.range n).map fun offset => (start + offset) % n

/-- The place whose turn it is. -/
def turn (r : Rotation) : Nat := r.dials.toNat % r.size

/-- **Takes a turn.** -/
def beginDial (r : Rotation) : Rotation × Dial :=
  ({ r with dials := r.dials + 1 }, ⟨placesFrom r.size r.turn, ""⟩)

/-- Changes the endpoint at a place. -/
def modify (r : Rotation) (place : Nat) (f : Endpoint → Endpoint) : Rotation :=
  { r with endpoints := r.endpoints.modify place f }

/-- The address at a place. -/
def addressAt (r : Rotation) (place : Nat) : String :=
  ((r.endpoints[place]?).map (·.address)).getD ""

/-- Counts a failed attempt. -/
def countError (r : Rotation) (place : Nat) : Rotation :=
  r.modify place fun e => { e with errors := e.errors + 1 }

/-- Counts an opened connection. -/
def countOpened (r : Rotation) (place : Nat) : Rotation :=
  r.modify place fun e => { e with active := e.active + 1 }

/-- **Releases a connection.** -/
def release (r : Rotation) (c : Connection) : Rotation :=
  r.modify c.place fun e => { e with active := e.active - 1 }

/-- The failure of a dial that no endpoint answered. -/
def exhausted (r : Rotation) (d : Dial) : Failure := .allEndpointsFailed r.size d.lastError

/-- **Records an attempt** on the next untried endpoint: the dial goes on, or has ended. -/
def attempt (r : Rotation) (d : Dial) (outcome : Except String Unit) :
    Rotation × (Dial ⊕ Except Failure Connection) :=
  match d.untried with
  | [] => (r, .inr (.error (r.exhausted d)))
  | place :: rest =>
    match outcome with
    | .ok () => (r.countOpened place, .inr (.ok ⟨place, r.addressAt place⟩))
    | .error e =>
      let r := r.countError place
      let d : Dial := ⟨rest, r.addressAt place ++ ": " ++ e⟩
      if rest.isEmpty then (r, .inr (.error (r.exhausted d))) else (r, .inl d)

/-- Tries places until one answers. -/
def tryPlaces (reach : String → Except String Unit) (r : Rotation) (lastError : String) :
    List Nat → Rotation × Except Failure Connection
  | [] => (r, .error (r.exhausted ⟨[], lastError⟩))
  | place :: rest =>
    match r.attempt ⟨place :: rest, lastError⟩ (reach (r.addressAt place)) with
    | (r, .inr result) => (r, result)
    | (r, .inl d) => tryPlaces reach r d.lastError rest

/-- **A whole dial**, where `reach` says what becomes of an attempt on an address. -/
def dial (r : Rotation) (reach : String → Except String Unit) :
    Rotation × Except Failure Connection :=
  let (r, d) := r.beginDial
  r.tryPlaces reach d.lastError d.untried

/-! ## Shown forms -/

/-- An endpoint with its counts. -/
def shownEndpoint (e : Endpoint) : String :=
  showRecord "Endpoint"
    [("address", quote e.address), ("active", toString e.active), ("errors", toString e.errors)]

/-- A rotation with its counts. -/
def shown (r : Rotation) : String :=
  showRecord "RoundRobinBalancer"
    [("endpoints", "[" ++ ", ".intercalate (r.endpoints.map shownEndpoint) ++ "]"),
      ("dials", toString r.dials)]

end Rotation

/-- An open connection. -/
def Connection.shown (c : Connection) : String :=
  showRecord "BalancedConnection" [("address", quote c.address)]

end FederatedStorage
