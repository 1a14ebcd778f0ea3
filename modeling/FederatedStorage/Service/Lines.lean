import FederatedStorage.Http.Api
import FederatedStorage.Schedule.Pool

/-!
# Requests line by line

A gateway behind a stream of lines: every line is a request, written as a JSON object, and is
answered by a line with the response. Before a request is handled, the gateway learns what time it
is and what its configuration says.

## Main definitions

* `Exchange.answer`: one line.
-/

namespace FederatedStorage.Service

open Http Json Schedule Time

/-- The record of a request. -/
def requestRecord : Record Request where
  fields :=
    [.required "method" .text, .required "target" .text,
      .defaulted "content_type" Codec.text.optional (some "application/json"),
      .defaulted "body" .text ""]
  ofRow := fun (method, target, contentType, body, ()) => ⟨method, target, contentType, body⟩
  toRow r := (r.method, r.target, r.contentType, r.body, ())

/-- The body of a response, as a value. -/
def contentValue : Content → Value
  | .nothing => .null
  | .text s => .string s
  | .json v => v

/-- A response, as a value. -/
def responseValue (r : Response) : Value :=
  .object ([("status", .natural r.status), ("body", contentValue r.content)]
    ++ (r.allow.map fun methods => ("allow", Value.texts methods)).toList)

/-- A gateway that answers lines. -/
structure Exchange where
  pool : Pool Deployment
  requestTimeoutMs : Nat

namespace Exchange

/-- More turns than a request takes: each array is dialed a bounded number of times. -/
def turnLimit : Nat := Nat.pow 2 40

/-- What the surroundings of a gateway are now. -/
def observe (x : Exchange) (source : ClusterSource) (now : Timestamp) : Exchange :=
  { x with
    pool := { x.pool with
      world := x.pool.world.modify fun d => { d with source := source, now := now } } }

/-- Runs a pass, and says how it went. -/
def reload (x : Exchange) : Exchange × Option (Except Failure PassReport) :=
  let (pool, report) := x.pool.run (Deployment.reload ⟨.root, none⟩) turnLimit
  ({ x with pool := pool }, report)

/-- Handles a request. -/
def handle (x : Exchange) (r : Request) : Exchange × Option Response :=
  let (pool, response) := x.pool.run (Api.handle x.requestTimeoutMs r) turnLimit
  ({ x with pool := pool }, response)

/-- **Answers a line.** A line that is no request is a bad request. -/
def answer (x : Exchange) (line : String) : Exchange × String :=
  match requestRecord.codec.ofDocument line with
  | .error _ => (x, (responseValue (.bare 400)).render)
  | .ok r =>
    let (x, response) := x.handle r
    (x, (responseValue (response.getD (.bare 500))).render)

end Exchange

end FederatedStorage.Service
