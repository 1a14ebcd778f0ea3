import FederatedStorage.Text.Percent

/-!
# Routes

The paths that the gateway answers, and the methods each of them takes. A path is cut at its slashes
before its percent signs are resolved, so that an ID may hold anything. An ID that ends a path is
not empty; one with an action behind it may be.

## Main definitions

* `Route.ofPath?`: the route of a raw path.
* `Route.methods`: what a route takes.
* `pathOf`: the raw path of a target.
-/

namespace FederatedStorage.Http

open Text

/-- **What a path is about.** IDs are kept as they stand in the path. -/
inductive Route
  | volumes
  | volume (id : List Char)
  | volumeSize (id : List Char)
  | volumeAttach (id : List Char)
  | volumeDetach (id : List Char)
  | snapshots
  | snapshot (id : List Char)
  | resource (id : List Char)
  | resync
  | resyncAll
  | reload
  | clusters
  | clusterHealth
  | status
  | health
  | ready
deriving DecidableEq, Repr

/-- The pieces of a path between its slashes. -/
def segments : List Char → List (List Char)
  | [] => [[]]
  | c :: cs =>
    if c = '/' then [] :: segments cs
    else
      match segments cs with
      | [] => [[c]]
      | s :: rest => (c :: s) :: rest

/-- The route of an ID that ends its path. -/
def ending (make : List Char → Route) (id : List Char) : Option Route :=
  if id.isEmpty then none else some (make id)

namespace Route

/-- The route of the pieces of a path, as texts, where no ID is involved. -/
def fixed? : List String → Option Route
  | ["", "v1", "volumes"] => some volumes
  | ["", "v1", "snapshots"] => some snapshots
  | ["", "v1", "resync"] => some resync
  | ["", "v1", "resync", "all"] => some resyncAll
  | ["", "v1", "reload"] => some reload
  | ["", "v1", "clusters"] => some clusters
  | ["", "v1", "clusters", "health"] => some clusterHealth
  | ["", "v1", "status"] => some status
  | ["", "health"] => some health
  | ["", "ready"] => some ready
  | _ => none

/-- The route of what stands before an ID, the ID, and what stands behind it. -/
def withId? (kind : List Char) (id : List Char) (action : Option (List Char)) : Option Route :=
  match String.ofList kind, action.map String.ofList with
  | "volumes", none => ending volume id
  | "volumes", some "size" => some (volumeSize id)
  | "volumes", some "attach" => some (volumeAttach id)
  | "volumes", some "detach" => some (volumeDetach id)
  | "snapshots", none => ending snapshot id
  | "resources", none => ending resource id
  | _, _ => none

/-- The route of the pieces of a path. -/
def ofSegments? (ss : List (List Char)) : Option Route :=
  match fixed? (ss.map String.ofList) with
  | some route => some route
  | none =>
    match ss with
    | [[], ['v', '1'], kind, id] => withId? kind id none
    | [[], ['v', '1'], kind, id, action] => withId? kind id (some action)
    | _ => none

/-- **The route of a raw path.** -/
def ofPath? (path : List Char) : Option Route := ofSegments? (segments path)

/-- **The methods that a route takes**, in ascending order. What takes GET takes HEAD. -/
def methods : Route → List String
  | volumes => ["GET", "HEAD", "POST"]
  | volume _ => ["DELETE", "GET", "HEAD"]
  | volumeSize _ => ["PUT"]
  | volumeAttach _ => ["POST"]
  | volumeDetach _ => ["POST"]
  | snapshots => ["GET", "HEAD", "POST"]
  | snapshot _ => ["DELETE", "GET", "HEAD"]
  | resource _ => ["GET", "HEAD"]
  | resync => ["POST"]
  | resyncAll => ["POST"]
  | reload => ["POST"]
  | clusters => ["GET", "HEAD"]
  | clusterHealth => ["GET", "HEAD"]
  | status => ["GET", "HEAD"]
  | health => ["GET", "HEAD"]
  | ready => ["GET", "HEAD"]

end Route

/-- What follows the scheme and the host of a full address. -/
def dropAuthority : List Char → Option (List Char)
  | [] => none
  | ':' :: '/' :: '/' :: rest =>
    let path := rest.dropWhile fun c => c != '/' && c != '?' && c != '#'
    some (if path.head? == some '/' then path else '/' :: path)
  | c :: rest => if c == '/' then none else dropAuthority rest

/-- **The raw path of a target**: without scheme, host, query and fragment. -/
def pathOf (target : String) : List Char :=
  let cs := target.toList
  ((dropAuthority cs).getD cs).takeWhile fun c => c != '?' && c != '#'

end FederatedStorage.Http
