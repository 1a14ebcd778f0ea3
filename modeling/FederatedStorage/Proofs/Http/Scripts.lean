import FederatedStorage.Http.Api
import FederatedStorage.Proofs.Gateway.Services

/-!
# Requests over HTTP as scripts

What comes of a request is told by its route, its method and its body: it is refused, or something is
looked up, or the gateway is asked for one thing and the answer is put into words. So a request is a
script with at most one demand, and one that is refused demands nothing: its answer is given as the
world is, and the world stays so.

## Main definitions

* `Api.Outlook`, `Api.outlook`: what comes of a request.
* `Api.script`: a request as a script.
* `Api.Refused`: requests that are refused before anything is asked.

## Main statements

* `Api.activity_script`: the script of a request is what the gateway does for it.
* `Api.refused_advance`: a request that is refused changes nothing.
-/

namespace FederatedStorage.Http.Api

open Schedule Deployment

/-- **What comes of a request**, once its route and its method are known. -/
inductive Outlook
  | refused (response : Response)
  | looked (f : Deployment → Response)
  | asked (k : Asking) (f : k.Answer → Response)

namespace Outlook

/-- Changes the response. -/
def map (g : Response → Response) : Outlook → Outlook
  | refused response => refused (g response)
  | looked f => looked fun d => g (f d)
  | asked k f => asked k fun a => g (f a)

/-- Goes on with the ID in a path. -/
def withId (raw : List Char) (go : String → Outlook) : Outlook :=
  match Text.Percent.decode? raw with
  | some id => go id
  | none => refused badId

/-- Goes on with what could be read, or refuses it. -/
def withRead {α : Type} (read : Except Failure α) (go : α → Outlook) : Outlook :=
  match read with
  | .ok a => go a
  | .error f => refused (.ofFailure f)

/-- A call, and the response to its success. -/
def call (c : Call) (respond : c.Answer → Response) : Outlook :=
  asked (.request (.call c)) (Response.ofResult respond)

/-- What is done, within a bound. -/
def work (b : Bound) : Outlook → Work Response
  | refused response => .done response
  | looked f => ask f
  | asked k f => (Clients.arrays.serve ⟨b, k⟩).map f

/-- What is done, as a script. -/
def script (b : Bound) : Outlook → Script Deployment Demand.Answer Response
  | refused response => .done response
  | looked f => .look fun w => f w.state
  | asked k f => .ask ⟨b, k⟩ f

theorem activity_script (b : Bound) (o : Outlook) :
    (o.script b).activity Clients.arrays.serve = o.work b := by
  cases o <;> rfl

theorem work_map (b : Bound) (g : Response → Response) (o : Outlook) :
    (o.map g).work b = (o.work b).map g := by
  cases o with
  | refused response => rfl
  | looked f => rfl
  | asked k f =>
    show (Clients.arrays.serve ⟨b, k⟩).bind _ = ((Clients.arrays.serve ⟨b, k⟩).bind _).bind _
    rw [Activity.bind_assoc]
    rfl

theorem work_withId (b : Bound) (raw : List Char) (go : String → Outlook) :
    (withId raw go).work b = Api.withId raw fun id => (go id).work b := by
  unfold withId Api.withId
  cases Text.Percent.decode? raw <;> rfl

theorem work_withRead {α : Type} (b : Bound) (read : Except Failure α) (go : α → Outlook) :
    (withRead read go).work b = Api.withRead read fun a => (go a).work b := by
  unfold withRead Api.withRead
  cases read <;> rfl

theorem script_does (b : Bound) (o : Outlook) : (o.script b).Does Detached := by
  cases o with
  | refused response => trivial
  | looked f => exact fun w => ⟨rfl, trivial⟩
  | asked k f => exact fun a => trivial

end Outlook

/-! ## Routes -/

/-- The request for a new volume. -/
def createRequest (r : Request) : Except Failure CreateVolume := do
  (← readBody CreateVolumeBody.record.codec r).toRequest

/-- The request for a larger volume. -/
def resizeRequest (r : Request) (id : String) : Except Failure ResizeVolume := do
  (← readBody ResizeVolumeBody.record.codec r).toRequest id

/-- **What comes of a request** to a route, by one of its methods. -/
def outlook (r : Request) (method : String) : Route → Outlook
  | .volumes =>
    if method == "POST" then
      .withRead (createRequest r) fun request =>
        .call (.createVolume request) (shown 201 Volume.record.codec)
    else
      .asked (.request (.list .volume)) <|
        Response.ofResult fun l => .json 200 (Listing.toValue "volumes" Volume.record.codec l)
  | .volume raw =>
    .withId raw fun id =>
      if method == "DELETE" then .call (.deleteVolume id) noContent
      else .call (.getVolume id) (shown 200 Volume.record.codec)
  | .volumeSize raw =>
    .withId raw fun id =>
      .withRead (resizeRequest r id) fun request =>
        .call (.resizeVolume request) (shown 200 Volume.record.codec)
  | .volumeAttach raw =>
    .withId raw fun id =>
      .withRead (readBody HostBody.record.codec r) fun body =>
        .call (.attachVolume ⟨id, body.host⟩) (shown 200 Attachment.record.codec)
  | .volumeDetach raw =>
    .withId raw fun id =>
      .withRead (readBody HostBody.record.codec r) fun body =>
        .call (.detachVolume ⟨id, body.host⟩) noContent
  | .snapshots =>
    if method == "POST" then
      .withRead (readBody CreateSnapshot.record.codec r) fun request =>
        .call (.createSnapshot request) (shown 201 Snapshot.record.codec)
    else
      .asked (.request (.list .snapshot)) <|
        Response.ofResult fun l => .json 200 (Listing.toValue "snapshots" Snapshot.record.codec l)
  | .snapshot raw =>
    .withId raw fun id =>
      if method == "DELETE" then .call (.deleteSnapshot id) noContent
      else .call (.getSnapshot id) (shown 200 Snapshot.record.codec)
  | .resource raw =>
    .withId raw fun id =>
      .looked fun d =>
        Response.ofResult
          (fun owner =>
            .json 200 (.object [("resource_id", .string id), ("cluster_id", .string owner)]))
          (d.gateway.resources.owner id)
  | .resync =>
    .withRead (readBody Resync.record.codec r) fun request =>
      .asked (.resync request) (Response.ofResult fun a => .json 200 a.toValue)
  | .resyncAll => .asked .resyncAll (shown 200 ResourceSyncReport.record.codec)
  | .reload => .asked .reload (Response.ofResult fun report => .json 200 report.toValue)
  | .clusters =>
    .looked fun d => .json 200 (.array (d.gateway.listClusters.map ClusterSummary.toValue))
  | .clusterHealth =>
    .asked (.request .health) fun hs => .json 200 (.object (hs.map fun h => (h.1, .bool h.2)))
  | .status => .asked (.request .status) fun s => .json 200 s.toValue
  | .health => .refused (word 200 "healthy")
  | .ready =>
    .looked fun d => if d.gateway.isReady then word 200 "ready" else word 503 "not_ready"

/-- **What is done for a route** is what comes of it. -/
theorem work_outlook (b : Bound) (r : Request) (method : String) (route : Route) :
    (outlook r method route).work b = answer b r method route := by
  cases route with
  | volumes =>
    unfold outlook answer
    by_cases hpost : (method == "POST") = true
    · simp only [hpost, if_true, Outlook.work_withRead]
      rfl
    · simp only [hpost]
      rfl
  | snapshots =>
    unfold outlook answer
    by_cases hpost : (method == "POST") = true
    · simp only [hpost, if_true, Outlook.work_withRead]
      rfl
    · simp only [hpost]
      rfl
  | volume raw =>
    unfold outlook answer
    rw [Outlook.work_withId]
    by_cases hdelete : (method == "DELETE") = true
    · simp only [hdelete, if_true]
      rfl
    · simp only [hdelete]
      rfl
  | snapshot raw =>
    unfold outlook answer
    rw [Outlook.work_withId]
    by_cases hdelete : (method == "DELETE") = true
    · simp only [hdelete, if_true]
      rfl
    · simp only [hdelete]
      rfl
  | volumeSize raw =>
    simp only [outlook, Outlook.work_withId, Outlook.work_withRead]
    rfl
  | volumeAttach raw =>
    simp only [outlook, Outlook.work_withId, Outlook.work_withRead]
    rfl
  | volumeDetach raw =>
    simp only [outlook, Outlook.work_withId, Outlook.work_withRead]
    rfl
  | resource raw =>
    simp only [outlook, Outlook.work_withId]
    rfl
  | resync =>
    simp only [outlook, Outlook.work_withRead]
    rfl
  | _ => rfl

/-! ## Requests -/

/-- A response without its body, where only the headers were asked for. -/
def fitted (r : Request) (response : Response) : Response :=
  if r.method == "HEAD" then response.headersOnly else response

/-- What comes of a request to a route that takes its method. -/
def outlookAt (r : Request) (route : Route) : Outlook :=
  if r.method == "HEAD" then (outlook r "GET" route).map Response.headersOnly
  else outlook r r.method route

/-- **A request as a script.** -/
def script (timeoutMs : Nat) (r : Request) : Script Deployment Demand.Answer Response :=
  match Route.ofPath? (pathOf r.target) with
  | none => .done (.bare 404)
  | some route =>
    if !route.methods.contains r.method then
      .done { Response.bare 405 with allow := some route.methods }
    else .follow fun w => (outlookAt r route).script ⟨.root, some (w.clock + timeoutMs)⟩

/-- **The script of a request** is what the gateway does for it. -/
theorem activity_script (timeoutMs : Nat) (r : Request) :
    (script timeoutMs r).activity Clients.arrays.serve = handle timeoutMs r := by
  unfold script handle
  cases Route.ofPath? (pathOf r.target) with
  | none => rfl
  | some route =>
    dsimp only
    by_cases hmethod : (!route.methods.contains r.method) = true
    · rw [if_pos hmethod, if_pos hmethod]
      rfl
    · rw [if_neg hmethod, if_neg hmethod]
      refine congrArg (Activity.act id) (funext fun w => ?_)
      rw [Outlook.activity_script]
      unfold outlookAt
      by_cases hhead : (r.method == "HEAD") = true
      · rw [if_pos hhead, if_pos hhead, Outlook.work_map, work_outlook]
      · rw [if_neg hhead, if_neg hhead, work_outlook]

/-- Beside its demand a request leaves the gateway alone. -/
theorem script_does (timeoutMs : Nat) (r : Request) : (script timeoutMs r).Does Detached := by
  unfold script
  cases Route.ofPath? (pathOf r.target) with
  | none => trivial
  | some route =>
    dsimp only
    split
    · trivial
    · exact fun w => ⟨rfl, Outlook.script_does _ _⟩

/-! ## Refusals -/

/-- Why something could not be read. -/
def failureOf? {α : Type} : Except Failure α → Option Failure
  | .ok _ => none
  | .error failure => some failure

/-- The ID that stands in the path of a route. -/
def rawId? : Route → Option (List Char)
  | .volume raw => some raw
  | .volumeSize raw => some raw
  | .volumeAttach raw => some raw
  | .volumeDetach raw => some raw
  | .snapshot raw => some raw
  | .resource raw => some raw
  | _ => none

/-- **Why the body of a request is refused**, if the route and the method take one. -/
def bodyFailure? (r : Request) : Route → Option Failure
  | .volumes => if r.method == "POST" then failureOf? (createRequest r) else none
  | .volumeSize raw =>
    (Text.Percent.decode? raw).bind fun id => failureOf? (resizeRequest r id)
  | .volumeAttach raw =>
    (Text.Percent.decode? raw).bind fun _ => failureOf? (readBody HostBody.record.codec r)
  | .volumeDetach raw =>
    (Text.Percent.decode? raw).bind fun _ => failureOf? (readBody HostBody.record.codec r)
  | .snapshots =>
    if r.method == "POST" then failureOf? (readBody CreateSnapshot.record.codec r) else none
  | .resync => failureOf? (readBody Resync.record.codec r)
  | _ => none

/-- **A request that is refused** before the gateway is asked, and the response to it. -/
inductive Refused (r : Request) : Response → Prop
  | path (h : Route.ofPath? (pathOf r.target) = none) : Refused r (.bare 404)
  | method {route : Route} (h : Route.ofPath? (pathOf r.target) = some route)
      (hmethod : r.method ∉ route.methods) :
      Refused r { Response.bare 405 with allow := some route.methods }
  | id {route : Route} {raw : List Char} (h : Route.ofPath? (pathOf r.target) = some route)
      (hmethod : r.method ∈ route.methods) (hraw : rawId? route = some raw)
      (hid : Text.Percent.decode? raw = none) : Refused r (fitted r badId)
  | body {route : Route} {failure : Failure} (h : Route.ofPath? (pathOf r.target) = some route)
      (hmethod : r.method ∈ route.methods)
      (hbody : bodyFailure? r route = some failure) : Refused r (.ofFailure failure)

theorem withRead_of_failureOf? {α : Type} {read : Except Failure α} {failure : Failure}
    (h : failureOf? read = some failure) (go : α → Outlook) :
    Outlook.withRead read go = .refused (.ofFailure failure) := by
  cases read with
  | ok a => cases h
  | error f =>
    cases h
    rfl

/-- An ID that is no text is refused by every route, whatever the method. -/
theorem outlook_of_badId {route : Route} {raw : List Char} (method : String) (r : Request)
    (hraw : rawId? route = some raw) (hid : Text.Percent.decode? raw = none) :
    outlook r method route = .refused badId := by
  cases route <;> cases hraw <;> simp [outlook, Outlook.withId, hid]

theorem outlookAt_of_badId {r : Request} {route : Route} {raw : List Char}
    (hraw : rawId? route = some raw) (hid : Text.Percent.decode? raw = none) :
    outlookAt r route = .refused (fitted r badId) := by
  unfold outlookAt fitted
  by_cases hhead : (r.method == "HEAD") = true
  · rw [if_pos hhead, if_pos hhead, outlook_of_badId "GET" r hraw hid]
    rfl
  · rw [if_neg hhead, if_neg hhead, outlook_of_badId r.method r hraw hid]

/-- A body that is read behind an ID. -/
theorem withId_of_failureOf? {α : Type} {raw : List Char} {read : String → Except Failure α}
    {failure : Failure}
    (h : ((Text.Percent.decode? raw).bind fun id => failureOf? (read id)) = some failure)
    (go : String → α → Outlook) :
    (Outlook.withId raw fun id => Outlook.withRead (read id) (go id)) =
      .refused (.ofFailure failure) := by
  unfold Outlook.withId
  cases hid : Text.Percent.decode? raw with
  | none =>
    rw [hid] at h
    cases h
  | some id =>
    rw [hid] at h
    exact withRead_of_failureOf? h (go id)

/-- A body that is read of a request to be posted. -/
theorem posted_of_failure {α : Type} {r : Request} {failure : Failure} (read : Except Failure α)
    (h : (if r.method == "POST" then failureOf? read else none) = some failure) :
    r.method = "POST" ∧ failureOf? read = some failure := by
  by_cases hpost : (r.method == "POST") = true
  · rw [if_pos hpost] at h
    exact ⟨beq_iff_eq.mp hpost, h⟩
  · rw [if_neg hpost] at h
    cases h

/-- What is not asked for its headers only. -/
theorem outlookAt_of_ne {r : Request} {route : Route} (h : r.method ≠ "HEAD") :
    outlookAt r route = outlook r r.method route := if_neg (by simpa using h)

/-- **A body that is not read is refused.** -/
theorem outlookAt_of_bodyFailure {r : Request} {route : Route} {failure : Failure}
    (hmethod : r.method ∈ route.methods) (hbody : bodyFailure? r route = some failure) :
    outlookAt r route = .refused (.ofFailure failure) := by
  have hbodied : "HEAD" ∉ route.methods → outlookAt r route = outlook r r.method route :=
    fun hnone => outlookAt_of_ne fun hhead => hnone (hhead ▸ hmethod)
  cases route with
  | volumes =>
    obtain ⟨hpost, hread⟩ := posted_of_failure (createRequest r) hbody
    rw [outlookAt_of_ne (by rw [hpost]; decide), hpost]
    exact withRead_of_failureOf? hread _
  | snapshots =>
    obtain ⟨hpost, hread⟩ := posted_of_failure (readBody CreateSnapshot.record.codec r) hbody
    rw [outlookAt_of_ne (by rw [hpost]; decide), hpost]
    exact withRead_of_failureOf? hread _
  | volumeSize raw =>
    rw [hbodied (by simp [Route.methods])]
    exact withId_of_failureOf? hbody _
  | volumeAttach raw =>
    rw [hbodied (by simp [Route.methods])]
    exact withId_of_failureOf? hbody _
  | volumeDetach raw =>
    rw [hbodied (by simp [Route.methods])]
    exact withId_of_failureOf? hbody _
  | resync =>
    rw [hbodied (by simp [Route.methods])]
    exact withRead_of_failureOf? hbody _
  | _ => cases hbody

/-- **A request that is refused demands nothing.** -/
theorem script_of_refused {r : Request} {response : Response} (timeoutMs : Nat)
    (h : Refused r response) :
    script timeoutMs r = .done response ∨ script timeoutMs r = .follow fun _ => .done response := by
  -- once the route takes the method, it is a matter of what comes of the request
  have hat : ∀ {route : Route}, Route.ofPath? (pathOf r.target) = some route →
      r.method ∈ route.methods → outlookAt r route = .refused response →
        script timeoutMs r = .follow fun _ => .done response := by
    intro route hroute hmethod houtlook
    simp [script, hroute, hmethod, houtlook, Outlook.script]
  cases h with
  | path h => exact Or.inl (by simp [script, h])
  | method h hmethod => exact Or.inl (by simp [script, h, hmethod])
  | id h hmethod hraw hid => exact Or.inr (hat h hmethod (outlookAt_of_badId hraw hid))
  | body h hmethod hbody => exact Or.inr (hat h hmethod (outlookAt_of_bodyFailure hmethod hbody))

/-- **A request that is refused changes nothing**, and is answered at once. -/
theorem refused_advance {r : Request} {response : Response} (timeoutMs : Nat)
    (h : Refused r response) (w : World Deployment) (moved : Bool) :
    ((handle timeoutMs r).advance w moved).1 = w ∧
      ((handle timeoutMs r).advance w moved).2.1 = .done response := by
  rw [← activity_script]
  rcases script_of_refused timeoutMs h with hscript | hscript
  · rw [hscript]
    exact ⟨rfl, rfl⟩
  · rw [hscript]
    exact ⟨rfl, rfl⟩

end FederatedStorage.Http.Api
