import FederatedStorage.Backend.Remote
import FederatedStorage.Http.Api
import FederatedStorage.Proofs.Http.Route
import FederatedStorage.Proofs.Text.Percent

/-!
# Paths of resources

The path that a remote array is asked under names the resource in its encoded form. Whatever its ID,
the path leads to the one route that is meant, the ID comes out of it as it went in, and no two
resources have one path.

## Main statements

* `Errand.segments_path`: the pieces of a path.
* `Errand.path_inj`: a path belongs to one resource.
* `Errand.paths_reach`: where a path leads, and what is answered there.
-/

namespace FederatedStorage.Http

open Schedule Text

/-- What a path about one resource asks for. -/
inductive Errand
  | volume
  | volumeSize
  | volumeAttach
  | volumeDetach
  | snapshot
deriving DecidableEq, Repr

namespace Errand

/-- The path of an errand about a resource. -/
def path (id : String) : Errand → String
  | volume => Remote.volumePath id
  | volumeSize => Remote.volumePath id ++ "/size"
  | volumeAttach => Remote.volumePath id ++ "/attach"
  | volumeDetach => Remote.volumePath id ++ "/detach"
  | snapshot => Remote.snapshotPath id

/-- The route of an errand. -/
def route (raw : List Char) : Errand → Route
  | volume => .volume raw
  | volumeSize => .volumeSize raw
  | volumeAttach => .volumeAttach raw
  | volumeDetach => .volumeDetach raw
  | snapshot => .snapshot raw

/-- The call that is made in an errand, and the resource it is about. -/
def ofCall? : Call → Option (Errand × String)
  | .getVolume id => some (volume, id)
  | .createVolume _ => none
  | .resizeVolume r => some (volumeSize, r.volumeId)
  | .deleteVolume id => some (volume, id)
  | .attachVolume l => some (volumeAttach, l.volumeId)
  | .detachVolume l => some (volumeDetach, l.volumeId)
  | .getSnapshot id => some (snapshot, id)
  | .createSnapshot _ => none
  | .deleteSnapshot id => some (snapshot, id)

/-- The name of a method. -/
def verb : RemoteMethod → String
  | .get => "GET"
  | .post => "POST"
  | .put => "PUT"
  | .delete => "DELETE"

/-- What is answered in an errand about a resource. -/
def answer (b : Bound) (r : Request) (method id : String) : Errand → Deployment.Work Response
  | volume =>
    if method == "DELETE" then Api.respond Api.noContent (Deployment.perform b (.deleteVolume id))
    else Api.respond (Api.shown 200 Volume.record.codec) (Deployment.perform b (.getVolume id))
  | volumeSize => Api.resizeVolume b r id
  | volumeAttach => Api.attachVolume b r id
  | volumeDetach => Api.detachVolume b r id
  | snapshot =>
    if method == "DELETE" then Api.respond Api.noContent (Deployment.perform b (.deleteSnapshot id))
    else Api.respond (Api.shown 200 Snapshot.record.codec) (Deployment.perform b (.getSnapshot id))

/-- **What is answered to a request** on the path of an errand: by its method, within its time. -/
def served (e : Errand) (timeoutMs : Nat) (r : Request) (id : String) : Deployment.Work Response :=
  let methods := (e.route (Percent.encode id)).methods
  if r.method ∈ methods then
    .follow fun w =>
      let b : Bound := ⟨.root, some (w.clock + timeoutMs)⟩
      if r.method == "HEAD" then (e.answer b r "GET" id).map Response.headersOnly
      else e.answer b r r.method id
  else .done { Response.bare 405 with allow := some methods }

/-! ## Pieces -/

/-- The word before the ID. -/
def collection : Errand → String
  | snapshot => "snapshots"
  | _ => "volumes"

/-- The words behind the ID. -/
def action : Errand → List String
  | volumeSize => ["size"]
  | volumeAttach => ["attach"]
  | volumeDetach => ["detach"]
  | _ => []

/-- An errand is known by its words. -/
theorem eq_of_words {e e' : Errand} (hcollection : e.collection = e'.collection)
    (haction : e.action = e'.action) : e = e' := by
  have hall : ∀ e ∈ [volume, volumeSize, volumeAttach, volumeDetach, snapshot],
      ∀ e' ∈ [volume, volumeSize, volumeAttach, volumeDetach, snapshot],
      e.collection = e'.collection → e.action = e'.action → e = e' := by decide
  exact hall e (by cases e <;> decide) e' (by cases e' <;> decide) hcollection haction

/-- What follows the ID. -/
def tail (e : Errand) : List Char := e.action.flatMap fun a => '/' :: a.toList

theorem toList_path (e : Errand) (id : String) :
    (e.path id).toList = '/' :: ("v1".toList ++ '/' :: (e.collection.toList ++ '/' ::
      (Percent.encode id ++ e.tail))) := by
  cases e <;> simp [path, Remote.volumePath, Remote.snapshotPath, Remote.volumesPath,
    Remote.snapshotsPath, collection, action, tail]

theorem slash_not_mem_encode (id : String) : '/' ∉ Percent.encode id := fun h => by
  have hplain := Percent.plain_encode id '/' h
  cases hplain

theorem segments_tail (e : Errand) (id : String) :
    segments (Percent.encode id ++ e.tail) = Percent.encode id :: e.action.map String.toList := by
  have hid := slash_not_mem_encode id
  have haction : ∀ a ∈ e.action, '/' ∉ a.toList := by cases e <;> decide
  have hone : e.action = [] ∨ ∃ a, e.action = [a] := by cases e <;> simp [action]
  unfold tail
  rcases hone with hnone | ⟨a, ha⟩
  · rw [hnone, List.flatMap_nil, List.append_nil]
    exact segments_of_not_mem hid
  · rw [ha, List.flatMap_singleton, segments_append hid]
    exact congrArg _ (segments_of_not_mem (haction a (ha ▸ List.mem_singleton_self a)))

/-- **The pieces of a path**: the ID is one of them, whatever it holds. -/
theorem segments_path (e : Errand) (id : String) :
    segments (e.path id).toList = [] :: "v1".toList :: e.collection.toList ::
      Percent.encode id :: e.action.map String.toList := by
  have hcollection : '/' ∉ e.collection.toList := by cases e <;> decide
  have hroot (rest : List Char) : segments ('/' :: rest) = [] :: segments rest :=
    segments_append List.not_mem_nil rest
  rw [toList_path, hroot, segments_append (by decide), segments_append hcollection, segments_tail]

/-- **A path belongs to one errand about one resource.** -/
theorem path_inj {e e' : Errand} {id id' : String} (h : e.path id = e'.path id') :
    e = e' ∧ id = id' := by
  have hsegments := congrArg (fun p : String => segments p.toList) h
  simp only [segments_path, List.cons.injEq, true_and] at hsegments
  obtain ⟨hcollection, hid, haction⟩ := hsegments
  have hwords := List.map_injective_iff.mpr (fun _ _ => String.toList_inj.mp) haction
  exact ⟨eq_of_words (String.toList_inj.mp hcollection) hwords, Percent.encode_inj hid⟩

/-! ## Targets -/

/-- A path is cut by nothing but its slashes. -/
theorem pathOf_path (e : Errand) (id : String) : pathOf (e.path id) = (e.path id).toList := by
  have hall : (('/' :: "v1".toList ++ '/' :: e.collection.toList ++ '/' :: e.tail).all fun c =>
      c != '?' && c != '#') = true := by cases e <;> decide
  have hwords : ∀ c ∈ '/' :: "v1".toList ++ '/' :: e.collection.toList ++ '/' :: e.tail,
      c ≠ '?' ∧ c ≠ '#' := by
    simpa only [List.all_eq_true, Bool.and_eq_true, bne_iff_ne] using hall
  refine pathOf_eq (by rw [toList_path]; rfl) fun c hc => ?_
  by_cases hid : c ∈ Percent.encode id
  · have hplain := Percent.plain_encode id c hid
    constructor <;> rintro rfl <;> cases hplain
  · refine hwords c ?_
    rw [toList_path] at hc
    simp only [List.mem_cons, List.mem_append, hid, false_or] at hc ⊢
    tauto

theorem leadsTo_path (e : Errand) {id : String} (hid : id ≠ "") :
    Route.LeadsTo (pathOf (e.path id)) (e.route (Percent.encode id)) := by
  have hraw := Percent.encode_ne_nil hid
  refine ⟨_, (congrArg segments (pathOf_path e id)).trans (segments_path e id), ?_⟩
  cases e with
  | volume => exact .word "v1" (.word "volumes" (.id _ (fun _ => hraw) .nil))
  | volumeSize => exact .word "v1" (.word "volumes" (.id _ nofun (.word "size" .nil)))
  | volumeAttach => exact .word "v1" (.word "volumes" (.id _ nofun (.word "attach" .nil)))
  | volumeDetach => exact .word "v1" (.word "volumes" (.id _ nofun (.word "detach" .nil)))
  | snapshot => exact .word "v1" (.word "snapshots" (.id _ (fun _ => hraw) .nil))

/-! ## Requests -/

theorem requestOf_path {c : Call} {e : Errand} {id : String} (h : ofCall? c = some (e, id)) :
    (Remote.requestOf c).path = e.path id ∧
      ∀ raw, verb (Remote.requestOf c).method ∈ (e.route raw).methods := by
  cases c <;> cases h <;>
    exact ⟨rfl, fun _ => by simp [verb, Remote.requestOf, route, Route.methods]⟩

theorem withId_encode (id : String) (go : String → Deployment.Work Response) :
    Api.withId (Percent.encode id) go = go id := by
  rw [Api.withId, Percent.decode?_encode]

/-- **The ID comes out of the path as it went in.** -/
theorem answer_route (e : Errand) (b : Bound) (r : Request) (method id : String) :
    Api.answer b r method (e.route (Percent.encode id)) = e.answer b r method id := by
  cases e <;> exact withId_encode id _

theorem handle_path (e : Errand) {id : String} (hid : id ≠ "") (timeoutMs : Nat) {r : Request}
    (htarget : r.target = e.path id) : Api.handle timeoutMs r = e.served timeoutMs r id := by
  have hroute : Route.ofPath? (pathOf r.target) = some (e.route (Percent.encode id)) := by
    rw [htarget]
    exact Route.ofPath?_eq_some_iff.mpr (e.leadsTo_path hid)
  rw [Api.handle, hroute, served]
  by_cases hmethod : r.method ∈ (e.route (Percent.encode id)).methods
  · simp only [List.contains_iff_mem.mpr hmethod, Bool.not_true, Bool.false_eq_true, if_false,
      if_pos hmethod, answer_route]
  · have hno := Bool.eq_false_iff.mpr (mt List.contains_iff_mem.mp hmethod)
    simp only [hno, Bool.not_false, if_true, if_neg hmethod]

/-- **The paths of a resource lead to its routes and to it**: each fits the pattern of the one route
that is meant, its ID is read back as it was written, no other path is the same, calls about the
resource use them with a method of the route, and what is answered there is about the resource. -/
theorem paths_reach (e : Errand) {id : String} (hid : id ≠ "") :
    (∀ route, Route.LeadsTo (pathOf (e.path id)) route ↔ route = e.route (Percent.encode id)) ∧
    Route.ofPath? (pathOf (e.path id)) = some (e.route (Percent.encode id)) ∧
    Percent.decode? (Percent.encode id) = some id ∧
    (∀ (e' : Errand) (id' : String), e'.path id' = e.path id → e' = e ∧ id' = id) ∧
    (∀ c, ofCall? c = some (e, id) → (Remote.requestOf c).path = e.path id ∧
      verb (Remote.requestOf c).method ∈ (e.route (Percent.encode id)).methods) ∧
    ∀ (timeoutMs : Nat) (r : Request), r.target = e.path id →
      Api.handle timeoutMs r = e.served timeoutMs r id := by
  have hleads := e.leadsTo_path hid
  refine ⟨fun route => ⟨fun h => h.unique hleads, fun h => h ▸ hleads⟩,
    Route.ofPath?_eq_some_iff.mpr hleads, Percent.decode?_encode id, fun e' id' h => path_inj h,
    fun c hc => ?_, fun timeoutMs r htarget => e.handle_path hid timeoutMs htarget⟩
  exact ⟨(requestOf_path hc).1, (requestOf_path hc).2 _⟩

/-- An ID that looks like a path, a query and an escape at once. -/
theorem paths_reach_tricky :
    "a/b%2F?x=1#é /attach" ≠ "" ∧
      Route.ofPath? (pathOf (volumeSize.path "a/b%2F?x=1#é /attach")) =
        some (.volumeSize "a%2Fb%252F%3Fx%3D1%23%C3%A9%20%2Fattach".toList) :=
  ⟨by decide, (paths_reach volumeSize (by decide)).2.1.trans (by decide)⟩

end Errand

end FederatedStorage.Http
