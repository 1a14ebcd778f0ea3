import FederatedStorage.Gateway.Deployment
import FederatedStorage.Http.Body
import FederatedStorage.Http.MediaType
import FederatedStorage.Http.Route

/-!
# The gateway over HTTP

A request is routed by its path, then by its method; then the ID in the path is resolved, then the
body is read, and then the gateway is asked, within the time that requests may take. A failure is
answered with its status, its kind and its text.

## Main definitions

* `Api.handle`: a request as an activity that ends with a response.
* `Api.readBody`: a body of a type.
-/

namespace FederatedStorage.Http

open Json Schedule

/-- A request. -/
structure Request where
  method : String
  target : String
  contentType : Option String
  body : String

/-- The body of a response. -/
inductive Content
  | nothing
  | text (s : String)
  | json (v : Value)

/-- A response. The methods that a path takes are told where another was tried. -/
structure Response where
  status : Nat
  content : Content
  allow : Option (List String)

namespace Response

/-- A response without a body. -/
def bare (status : Nat) : Response := ⟨status, .nothing, none⟩

/-- A response with a value. -/
def json (status : Nat) (v : Value) : Response := ⟨status, .json v, none⟩

/-- **The response to a failure.** -/
def ofFailure (f : Failure) : Response :=
  .json f.status (.object [("error", .string f.kind), ("message", .string f.message)])

/-- The response to a result. -/
def ofResult {α : Type} (respond : α → Response) : Except Failure α → Response
  | .ok a => respond a
  | .error f => ofFailure f

/-- The response without its body. -/
def headersOnly (r : Response) : Response := { r with content := .nothing }

end Response

namespace Api

open Deployment

/-! ## Reading requests -/

/-- Why a body was not read. -/
inductive BodyFault
  | contentType
  | tooLong
  | malformed
  | mismatch
deriving DecidableEq, Repr

/-- The text of a fault. -/
def BodyFault.message : BodyFault → String
  | .contentType => "Expected request with \x60Content-Type: application/json\x60"
  | .tooLong => "Failed to buffer the request body: length limit exceeded"
  | .malformed => "Failed to parse the request body as JSON"
  | .mismatch => "Failed to deserialize the JSON body into the target type"

/-- The greatest number of bytes in a body. -/
def bodyLimit : Nat := 2 * 1024 * 1024

/-- The body of a request. What follows its first value is ignored. -/
def decodeBody {α : Type} (codec : Codec α) (r : Request) : Except BodyFault α :=
  if !(r.contentType.map MediaType.isJson).getD false then .error .contentType
  else if bodyLimit < r.body.utf8ByteSize then .error .tooLong
  else
    match codec.ofLeading r.body with
    | .ok a => .ok a
    | .error .malformed => .error .malformed
    | .error .mismatch => .error .mismatch

/-- **Reads the body of a request.** -/
def readBody {α : Type} (codec : Codec α) (r : Request) : Except Failure α :=
  (decodeBody codec r).mapError fun fault => .invalidRequest fault.message

/-- The response to a path whose ID is no text. -/
def badId : Response := ⟨400, .text "Invalid URL: Invalid UTF-8 in \x60id\x60", none⟩

/-- Goes on with the ID in a path. -/
def withId (raw : List Char) (go : String → Work Response) : Work Response :=
  match Text.Percent.decode? raw with
  | some id => go id
  | none => .done badId

/-- Goes on with what could be read, or answers the failure. -/
def withRead {α : Type} (read : Except Failure α) (go : α → Work Response) : Work Response :=
  match read with
  | .ok a => go a
  | .error f => .done (.ofFailure f)

/-! ## Answering -/

/-- What may be asked, once a request has been read. -/
def respond {α : Type} (f : α → Response) (p : Work (Except Failure α)) : Work Response :=
  p.map (Response.ofResult f)

/-- A response with the value of an answer. -/
def shown {α : Type} (status : Nat) (codec : Codec α) (a : α) : Response :=
  .json status (codec.write a)

/-- A response to what was done. -/
def noContent (_ : Unit) : Response := .bare 204

/-- All volumes. -/
def listVolumes (b : Bound) : Work Response :=
  respond (fun l => .json 200 (Listing.toValue "volumes" Volume.record.codec l)) (listAll b .volume)

/-- All snapshots. -/
def listSnapshots (b : Bound) : Work Response :=
  respond (fun l => .json 200 (Listing.toValue "snapshots" Snapshot.record.codec l))
    (listAll b .snapshot)

/-- A new volume. -/
def createVolume (b : Bound) (r : Request) : Work Response :=
  withRead (do (← readBody CreateVolumeBody.record.codec r).toRequest) fun request =>
    respond (shown 201 Volume.record.codec) (perform b (.createVolume request))

/-- A larger volume. -/
def resizeVolume (b : Bound) (r : Request) (id : String) : Work Response :=
  withRead (do (← readBody ResizeVolumeBody.record.codec r).toRequest id) fun request =>
    respond (shown 200 Volume.record.codec) (perform b (.resizeVolume request))

/-- A volume for a host. -/
def attachVolume (b : Bound) (r : Request) (id : String) : Work Response :=
  withRead (readBody HostBody.record.codec r) fun body =>
    respond (shown 200 Attachment.record.codec) (perform b (.attachVolume ⟨id, body.host⟩))

/-- A volume that a host leaves. -/
def detachVolume (b : Bound) (r : Request) (id : String) : Work Response :=
  withRead (readBody HostBody.record.codec r) fun body =>
    respond noContent (perform b (.detachVolume ⟨id, body.host⟩))

/-- A new snapshot. -/
def createSnapshot (b : Bound) (r : Request) : Work Response :=
  withRead (readBody CreateSnapshot.record.codec r) fun request =>
    respond (shown 201 Snapshot.record.codec) (perform b (.createSnapshot request))

/-- The owner of a resource. -/
def showOwner (id : String) : Work Response :=
  ask fun d =>
    Response.ofResult
      (fun owner =>
        .json 200 (.object [("resource_id", .string id), ("cluster_id", .string owner)]))
      (d.gateway.resources.owner id)

/-- One resource, to be taken for a cluster's. -/
def resyncOne (b : Bound) (r : Request) : Work Response :=
  withRead (readBody Resync.record.codec r) fun request =>
    respond (fun a => .json 200 a.toValue) (resync b request)

/-- Whether each cluster is well. -/
def showHealth (b : Bound) : Work Response :=
  (health b).map fun hs => .json 200 (.object (hs.map fun h => (h.1, .bool h.2)))

/-- A state in one word. -/
def word (status : Nat) (s : String) : Response :=
  .json status (.object [("status", .string s)])

/-- Whether a pass has been completed. -/
def showReady : Work Response :=
  ask fun d => if d.gateway.isReady then word 200 "ready" else word 503 "not_ready"

/-- **The answer of a route** to one of its methods. -/
def answer (b : Bound) (r : Request) (method : String) : Route → Work Response
  | .volumes => if method == "POST" then createVolume b r else listVolumes b
  | .volume raw =>
    withId raw fun id =>
      if method == "DELETE" then respond noContent (perform b (.deleteVolume id))
      else respond (shown 200 Volume.record.codec) (perform b (.getVolume id))
  | .volumeSize raw => withId raw (resizeVolume b r)
  | .volumeAttach raw => withId raw (attachVolume b r)
  | .volumeDetach raw => withId raw (detachVolume b r)
  | .snapshots => if method == "POST" then createSnapshot b r else listSnapshots b
  | .snapshot raw =>
    withId raw fun id =>
      if method == "DELETE" then respond noContent (perform b (.deleteSnapshot id))
      else respond (shown 200 Snapshot.record.codec) (perform b (.getSnapshot id))
  | .resource raw => withId raw showOwner
  | .resync => resyncOne b r
  | .resyncAll => (resyncAll b).map (shown 200 ResourceSyncReport.record.codec)
  | .reload => respond (fun report => .json 200 report.toValue) (reload b)
  | .clusters => ask fun d => .json 200 (.array (d.gateway.listClusters.map ClusterSummary.toValue))
  | .clusterHealth => showHealth b
  | .status => status.map fun s => .json 200 s.toValue
  | .health => .done (word 200 "healthy")
  | .ready => showReady

/-- **A request**, as an activity that ends with a response. Requests may take `timeoutMs`. -/
def handle (timeoutMs : Nat) (r : Request) : Work Response :=
  match Route.ofPath? (pathOf r.target) with
  | none => .done (.bare 404)
  | some route =>
    if !route.methods.contains r.method then
      .done { Response.bare 405 with allow := some route.methods }
    else
      .follow fun w =>
        let b : Bound := ⟨.root, some (w.clock + timeoutMs)⟩
        if r.method == "HEAD" then (answer b r "GET" route).map Response.headersOnly
        else answer b r r.method route

/-- The failure of a server that cannot have its address. -/
def bindFailure (reason : String) : Failure :=
  .internal s!"Failed to bind REST server: {reason}"

end Api

end FederatedStorage.Http
