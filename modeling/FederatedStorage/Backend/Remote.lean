import FederatedStorage.Backend.Call
import FederatedStorage.Backend.Rotation
import FederatedStorage.Http.Status
import FederatedStorage.Json.Record
import FederatedStorage.Storage.Wire
import FederatedStorage.Text.Percent

/-!
# Remote arrays

An array behind a management interface: JSON over HTTP, to one of several equivalent endpoints.
Every attempt dials anew. An attempt that fails is repeated as long as repeating it cannot do its
work twice: it has not been sent, or its method may be repeated, or the array refused it unexecuted.

## Main definitions

* `Remote.requestOf`, `Remote.answerOf`: a call as a request, and a payload as its answer.
* `Remote.attempt`: one attempt.
* `mayRepeat`, `Outcome.isFinal`: which attempts are repeated.
-/

namespace FederatedStorage

open Http Json Text

/-- The vendor name of remote arrays. -/
def remoteVendor : String := "rest"

/-- What must be configured of a remote array. -/
structure RemoteConfig where
  endpoints : List String
  token : Option String
  connectTimeoutMs : UInt64
  maxRetries : UInt32
  retryInitialMs : UInt64
deriving DecidableEq

namespace RemoteConfig

/-- The record of a configuration. -/
def record : Record RemoteConfig where
  fields :=
    [.required "endpoints" (.list .text), .optional "token" .text,
      .defaulted "connect_timeout_ms" .size 3000, .defaulted "max_retries" .shortCount 2,
      .defaulted "retry_initial_ms" .size 200]
  ofRow := fun (endpoints, token, connect, retries, initial, ()) =>
    ⟨endpoints, token, connect, retries, initial⟩
  toRow c :=
    (c.endpoints, c.token, c.connectTimeoutMs, c.maxRetries, c.retryInitialMs, ())

end RemoteConfig

/-- The methods of requests to an array. -/
inductive RemoteMethod
  | get
  | post
  | put
  | delete
deriving DecidableEq, Repr

/-- Whether doing a request twice does the same as doing it once. -/
def RemoteMethod.isIdempotent : RemoteMethod → Bool
  | .post => false
  | _ => true

/-- A request to an array, and the kind and the name of what it is about. -/
structure RemoteRequest where
  method : RemoteMethod
  path : String
  body : Option Value
  kind : String
  name : String

/-- What the array does not have, if it answers so. -/
def RemoteRequest.missing (request : RemoteRequest) : Failure :=
  .resourceNotFound request.kind request.name

/-- What becomes of a request that was sent: an answer, a connection that breaks, or nothing. -/
inductive Delivery
  | answered (status : Nat) (payload : List UInt8)
  | lost (reason : String)
  | silent

/-- **The network**, as far as the libraries that speak to it tell. -/
structure Network where
  /-- What becomes of a dial of an address. -/
  reach : String → Except String Unit
  /-- What becomes of the handshake over a connection that was opened. -/
  greet : String → Except String Unit
  /-- What becomes of a request that is sent to an address. -/
  deliver : String → RemoteRequest → Delivery
  /-- What is wrong with a payload that does not answer a request, in the words of the reader. -/
  complaint : RemoteRequest → List UInt8 → String

/-- A network without a route to anywhere. -/
def Network.unreachable : Network where
  reach _ := .error "Network is unreachable (os error 101)"
  greet _ := .ok ()
  deliver _ _ := .silent
  complaint _ _ := ""

/-- What became of an attempt. -/
inductive Outcome
  | answered (payload : List UInt8)
  | failed (failure : Failure) (sent : Bool)
  | waiting

/-- **Whether an attempt that failed may be made again** without doing its work twice. An array that
is unavailable has refused the request unexecuted. -/
def mayRepeat (failure : Failure) (sent idempotent : Bool) : Bool :=
  match failure with
  | .backendUnavailable _ => true
  | f => f.isTransient && (!sent || idempotent)

/-- Whether an outcome ends the sequence of attempts; that of the last attempt does. -/
def Outcome.isFinal (idempotent last : Bool) : Outcome → Bool
  | .failed failure sent => last || !mayRepeat failure sent idempotent
  | _ => true

/-- **Whether an attempt is the last**, by its number. The attempts are counted with 32 bits, and the
last has a number past that of the repetitions; there is none past the largest. -/
def isLastAttempt (maxRetries number : UInt32) : Bool := maxRetries < number

/-- The longest pause between attempts, in milliseconds. -/
def longestPauseMs : Nat := 60000

/-- The pause after an attempt: half as long again every time, up to the longest. -/
def pauseMs (initialMs number : Nat) : Nat :=
  min longestPauseMs (initialMs * Nat.pow 3 number / Nat.pow 2 number)

/-- **A remote array.** -/
structure Remote where
  clusterId : String
  config : RemoteConfig
  rotation : Rotation
deriving DecidableEq

namespace Remote

/-- A remote array; it needs at least one endpoint. -/
def new (clusterId : String) (config : RemoteConfig) : Except Failure Remote := do
  return ⟨clusterId, config, ← Rotation.new config.endpoints⟩

/-! ## Requests -/

/-- The path of all volumes. -/
def volumesPath : String := "/v1/volumes"

/-- The path of all snapshots. -/
def snapshotsPath : String := "/v1/snapshots"

/-- **The path of a volume.** -/
def volumePath (id : String) : String := volumesPath ++ "/" ++ String.ofList (Percent.encode id)

/-- **The path of a snapshot.** -/
def snapshotPath (id : String) : String :=
  snapshotsPath ++ "/" ++ String.ofList (Percent.encode id)

/-- The body that names a host. -/
def hostBody (host : String) : Value := .object [("host", .string host)]

/-- **The request of a call.** -/
def requestOf : Call → RemoteRequest
  | .getVolume id => ⟨.get, volumePath id, none, "Volume", id⟩
  | .createVolume r =>
    ⟨.post, volumesPath, some (CreateVolume.record.codec.write r), "Volume", r.name⟩
  | .resizeVolume r =>
    ⟨.put, volumePath r.volumeId ++ "/size",
      some (.object [("size_bytes", .natural r.newSizeBytes.toNat)]), "Volume", r.volumeId⟩
  | .deleteVolume id => ⟨.delete, volumePath id, none, "Volume", id⟩
  | .attachVolume l =>
    ⟨.post, volumePath l.volumeId ++ "/attach", some (hostBody l.host), "Volume", l.volumeId⟩
  | .detachVolume l =>
    ⟨.post, volumePath l.volumeId ++ "/detach", some (hostBody l.host), "Volume", l.volumeId⟩
  | .getSnapshot id => ⟨.get, snapshotPath id, none, "Snapshot", id⟩
  | .createSnapshot r =>
    ⟨.post, snapshotsPath, some (CreateSnapshot.record.codec.write r), "Snapshot", r.name⟩
  | .deleteSnapshot id => ⟨.delete, snapshotPath id, none, "Snapshot", id⟩

/-- The request of a listing. -/
def listRequest : ResourceKind → RemoteRequest
  | .volume => ⟨.get, volumesPath, none, "Volume", "*"⟩
  | .snapshot => ⟨.get, snapshotsPath, none, "Snapshot", "*"⟩

/-- The request of a health check. -/
def healthRequest : RemoteRequest := ⟨.get, "/v1/health", none, "Health", ""⟩

/-! ## Answers -/

/-- The typed content of a payload; what the reader complains of is not typed. -/
def readPayload {α : Type} (complaint : String) (codec : Codec α) (payload : List UInt8) :
    Except Failure α :=
  match (Utf8.read? payload).map codec.ofDocument with
  | some (.ok a) => .ok a
  | _ => .error (.jsonText complaint)

/-- **The answer of a call**, from the payload of a success. -/
def answerOf (complaint : String) : (c : Call) → List UInt8 → Except Failure c.Answer
  | .getVolume _, p => readPayload complaint Volume.record.codec p
  | .createVolume _, p => readPayload complaint Volume.record.codec p
  | .resizeVolume _, p => readPayload complaint Volume.record.codec p
  | .deleteVolume _, _ => .ok ()
  | .attachVolume _, p => readPayload complaint Attachment.record.codec p
  | .detachVolume _, _ => .ok ()
  | .getSnapshot _, p => readPayload complaint Snapshot.record.codec p
  | .createSnapshot _, p => readPayload complaint Snapshot.record.codec p
  | .deleteSnapshot _, _ => .ok ()

/-- The items of a listing, from the payload of a success. -/
def itemsOf (complaint : String) :
    (kind : ResourceKind) → List UInt8 → Except Failure (List kind.Item)
  | .volume, p => readPayload complaint (.list Volume.record.codec) p
  | .snapshot, p => readPayload complaint (.list Snapshot.record.codec) p

/-- The name of the array in failures. -/
def backendName (r : Remote) : String := remoteVendor ++ "/" ++ r.clusterId

/-- What a received response means. -/
def judge (r : Remote) (request : RemoteRequest) (status : Nat) (payload : List UInt8) : Outcome :=
  if isSuccess status then .answered payload
  else if status == 401 || status == 403 then .failed (.unauthorized r.backendName) true
  else if status == 404 then .failed request.missing true
  else if status == 503 then .failed (.backendUnavailable r.backendName) true
  else
    .failed (.operationFailed remoteVendor request.path
      (statusText status ++ ": " ++ Utf8.readLossy payload)) true

/-! ## Attempts -/

/-- The most bytes that a path may have. -/
def longestPath : Nat := 65534

/-- Whether a text can stand in a header: no control character but a tab. -/
def isHeaderText (s : String) : Bool :=
  s.toList.all fun c => (0x20 ≤ c.toNat && c.toNat != 0x7F) || c == '\t'

/-- Whether the array's token can stand in a header. -/
def hasUsableToken (r : Remote) : Bool := (r.config.token.map isHeaderText).getD true

/-- Why a request to a host cannot be written, if it cannot. The path is looked at first. -/
def defect? (r : Remote) (request : RemoteRequest) (host : String) : Option String :=
  if longestPath < request.path.utf8ByteSize then some "uri too long"
  else if isHeaderText host && r.hasUsableToken then none
  else some "failed to parse header value"

/-- What becomes of a request over a connection that can be used. -/
def exchange (network : Network) (r : Remote) (request : RemoteRequest) (host : String) : Outcome :=
  match r.defect? request host with
  | some reason => .failed (.internal s!"invalid vendor request: {reason}") true
  | none =>
    match network.deliver host request with
    | .answered status payload => r.judge request status payload
    | .lost reason => .failed (.exchange reason) true
    | .silent => .waiting

/-- What becomes of a request over a connection that was opened: the handshake comes first. -/
def converse (network : Network) (r : Remote) (request : RemoteRequest) (host : String) : Outcome :=
  match network.greet host with
  | .error reason => .failed (.exchange reason) false
  | .ok () => exchange network r request host

/-- **One attempt**: a dial, and the request over the connection that it opened. -/
def attempt (network : Network) (r : Remote) (request : RemoteRequest) : Remote × Outcome :=
  match r.rotation.dial network.reach with
  | (rotation, .error failure) => ({ r with rotation := rotation }, .failed failure false)
  | (rotation, .ok connection) =>
    let outcome := converse network r request connection.address
    -- the connection is given up with the attempt, unless it still waits for its response
    let rotation :=
      match outcome with
      | .waiting => rotation
      | _ => rotation.release connection
    ({ r with rotation := rotation }, outcome)

/-- The array without its token. -/
def shown (r : Remote) : String :=
  showRecord "RestVendorClient"
    [("cluster_id", quote r.clusterId), ("endpoints", quoteList r.config.endpoints),
      ("has_token", toString r.config.token.isSome)]

end Remote

end FederatedStorage
