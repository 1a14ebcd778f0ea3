import FederatedStorage.Http.Route
import Mathlib.Data.List.Basic
import Mathlib.Data.List.TakeWhile

/-!
# The route table

Every route has a pattern: words, and places for an ID. A path has a route exactly if the pieces
between its slashes fit the route's pattern with the IDs that the route names, so no path fits two
patterns.

## Main statements

* `segments_append`: a path is cut at its slashes.
* `Route.ofPath?_eq_some_iff`: the routes of a path are those whose pattern it fits.
-/

namespace FederatedStorage.Http

open Text

/-! ## Pieces -/

theorem segments_of_not_mem {cs : List Char} (h : '/' ∉ cs) : segments cs = [cs] := by
  induction cs with
  | nil => rfl
  | cons c cs ih =>
    have hc : c ≠ '/' := fun heq => h (heq ▸ List.mem_cons_self)
    rw [segments, if_neg hc, ih fun hmem => h (List.mem_cons_of_mem c hmem)]

/-- **A path is cut at its slashes.** -/
theorem segments_append {cs : List Char} (h : '/' ∉ cs) (rest : List Char) :
    segments (cs ++ '/' :: rest) = cs :: segments rest := by
  induction cs with
  | nil => rw [List.nil_append, segments, if_pos rfl]
  | cons c cs ih =>
    have hc : c ≠ '/' := fun heq => h (heq ▸ List.mem_cons_self)
    rw [List.cons_append, segments, if_neg hc, ih fun hmem => h (List.mem_cons_of_mem c hmem)]

/-- A path without a query or a fragment is its target. -/
theorem pathOf_eq {target : String} (hslash : target.toList.head? = some '/')
    (hplain : ∀ c ∈ target.toList, c ≠ '?' ∧ c ≠ '#') : pathOf target = target.toList := by
  have hauthority : dropAuthority target.toList = none := by
    cases hcs : target.toList with
    | nil => rfl
    | cons c cs =>
      rw [hcs] at hslash
      cases hslash
      rfl
  unfold pathOf
  simp only [hauthority, Option.getD_none]
  have hfront : ∀ c ∈ target.toList, (c != '?' && c != '#') = true := fun c hc => by
    simp [hplain c hc]
  exact List.takeWhile_eq_self_iff.mpr hfront

/-! ## Patterns -/

/-- A piece of a pattern: a word, or a place for an ID. -/
inductive Piece
  | word (s : String)
  | id
deriving DecidableEq, Repr

/-- **Pieces of a path fit a pattern**, with the IDs at its places. An ID at the end is not empty. -/
inductive Fits : List Piece → List (List Char) → List (List Char) → Prop
  | nil : Fits [] [] []
  | word {pieces : List Piece} {ss ids : List (List Char)} (s : String) (h : Fits pieces ss ids) :
      Fits (.word s :: pieces) (s.toList :: ss) ids
  | id {pieces : List Piece} {ss ids : List (List Char)} (raw : List Char)
      (hend : pieces = [] → raw ≠ []) (h : Fits pieces ss ids) :
      Fits (.id :: pieces) (raw :: ss) (raw :: ids)

namespace Route

/-- **The pattern of a route.** -/
def pattern : Route → List Piece
  | volumes => [.word "v1", .word "volumes"]
  | volume _ => [.word "v1", .word "volumes", .id]
  | volumeSize _ => [.word "v1", .word "volumes", .id, .word "size"]
  | volumeAttach _ => [.word "v1", .word "volumes", .id, .word "attach"]
  | volumeDetach _ => [.word "v1", .word "volumes", .id, .word "detach"]
  | snapshots => [.word "v1", .word "snapshots"]
  | snapshot _ => [.word "v1", .word "snapshots", .id]
  | resource _ => [.word "v1", .word "resources", .id]
  | resync => [.word "v1", .word "resync"]
  | resyncAll => [.word "v1", .word "resync", .word "all"]
  | reload => [.word "v1", .word "reload"]
  | clusters => [.word "v1", .word "clusters"]
  | clusterHealth => [.word "v1", .word "clusters", .word "health"]
  | status => [.word "v1", .word "status"]
  | health => [.word "health"]
  | ready => [.word "ready"]

/-- The IDs that a route names. -/
def ids : Route → List (List Char)
  | volume raw => [raw]
  | volumeSize raw => [raw]
  | volumeAttach raw => [raw]
  | volumeDetach raw => [raw]
  | snapshot raw => [raw]
  | resource raw => [raw]
  | _ => []

/-- **A path leads to a route**: behind its first slash its pieces fit the route's pattern. -/
def LeadsTo (path : List Char) (route : Route) : Prop :=
  ∃ ss, segments path = [] :: ss ∧ Fits route.pattern ss route.ids

/-! ## Fitting -/

theorem fits_nil_iff {ss ids : List (List Char)} : Fits [] ss ids ↔ ss = [] ∧ ids = [] := by
  constructor
  · rintro ⟨⟩
    exact ⟨rfl, rfl⟩
  · rintro ⟨rfl, rfl⟩
    exact .nil

theorem fits_word_iff {s : String} {pieces : List Piece} {ss ids : List (List Char)} :
    Fits (.word s :: pieces) ss ids ↔ ∃ rest, ss = s.toList :: rest ∧ Fits pieces rest ids := by
  constructor
  · rintro (_ | ⟨_, h⟩)
    exact ⟨_, rfl, h⟩
  · rintro ⟨rest, rfl, h⟩
    exact .word s h

theorem fits_id_iff {pieces : List Piece} {ss ids : List (List Char)} :
    Fits (.id :: pieces) ss ids ↔ ∃ raw rest more, ss = raw :: rest ∧ ids = raw :: more ∧
      (pieces = [] → raw ≠ []) ∧ Fits pieces rest more := by
  constructor
  · rintro (_ | _ | ⟨raw, hend, h⟩)
    exact ⟨raw, _, _, rfl, rfl, hend, h⟩
  · rintro ⟨raw, rest, more, rfl, rfl, hend, h⟩
    exact .id raw hend h

theorem eq_of_map_ofList {ss : List (List Char)} {words : List String}
    (h : ss.map String.ofList = words) : ss = words.map String.toList := by
  rw [← h, List.map_map]
  conv_lhs => rw [← List.map_id ss]
  exact List.map_congr_left fun cs _ => String.toList_ofList.symm

theorem fits_of_fixed? {ss : List (List Char)} {route : Route}
    (h : fixed? (ss.map String.ofList) = some route) :
    ∃ rest, ss = [] :: rest ∧ Fits route.pattern rest route.ids := by
  unfold fixed? at h
  split at h
  all_goals cases h
  all_goals
    rename_i heq
    cases eq_of_map_ofList heq
    refine ⟨_, rfl, ?_⟩
    simp [pattern, ids, fits_word_iff, fits_nil_iff]

/-- An ID that ends its path is not empty. -/
theorem ending_eq_some {make : List Char → Route} {raw : List Char} {route : Route}
    (h : ending make raw = some route) : raw ≠ [] ∧ make raw = route := by
  unfold ending at h
  split at h
  · cases h
  · next hne => exact ⟨by simpa using hne, Option.some.inj h⟩

theorem eq_of_map_some {action : Option (List Char)} {word : String}
    (h : action.map String.ofList = some word) : action = some word.toList := by
  obtain ⟨cs, rfl, rfl⟩ := Option.map_eq_some_iff.mp h
  rw [String.toList_ofList]

theorem fits_of_withId? {kind raw : List Char} {route : Route} {action : Option (List Char)}
    (h : withId? kind raw action = some route) :
    Fits route.pattern ("v1".toList :: kind :: raw :: action.toList) route.ids := by
  unfold withId? at h
  split at h
  · next hkind haction =>
    obtain ⟨hne, rfl⟩ := ending_eq_some h
    rw [Option.map_eq_none_iff.mp haction, ← String.toList_ofList (l := kind), hkind]
    exact .word "v1" (.word "volumes" (.id raw (fun _ => hne) .nil))
  · next hkind haction =>
    cases h
    rw [eq_of_map_some haction, ← String.toList_ofList (l := kind), hkind]
    exact .word "v1" (.word "volumes" (.id raw nofun (.word "size" .nil)))
  · next hkind haction =>
    cases h
    rw [eq_of_map_some haction, ← String.toList_ofList (l := kind), hkind]
    exact .word "v1" (.word "volumes" (.id raw nofun (.word "attach" .nil)))
  · next hkind haction =>
    cases h
    rw [eq_of_map_some haction, ← String.toList_ofList (l := kind), hkind]
    exact .word "v1" (.word "volumes" (.id raw nofun (.word "detach" .nil)))
  · next hkind haction =>
    obtain ⟨hne, rfl⟩ := ending_eq_some h
    rw [Option.map_eq_none_iff.mp haction, ← String.toList_ofList (l := kind), hkind]
    exact .word "v1" (.word "snapshots" (.id raw (fun _ => hne) .nil))
  · next hkind haction =>
    obtain ⟨hne, rfl⟩ := ending_eq_some h
    rw [Option.map_eq_none_iff.mp haction, ← String.toList_ofList (l := kind), hkind]
    exact .word "v1" (.word "resources" (.id raw (fun _ => hne) .nil))
  · cases h

/-- What fits the pattern of a route has that route. -/
theorem ofSegments?_of_fits {route : Route} {rest : List (List Char)}
    (h : Fits route.pattern rest route.ids) : ofSegments? ([] :: rest) = some route := by
  cases route with
  | volume raw | snapshot raw | resource raw =>
    simp only [pattern, ids, fits_word_iff, fits_id_iff, fits_nil_iff, List.cons.injEq,
      List.nil_eq, forall_const, existsAndEq, exists_and_left, and_true, true_and] at h
    obtain ⟨rfl, hne⟩ := h
    simp [ofSegments?, fixed?, withId?, ending, hne]
  | _ =>
    simp only [pattern, ids, fits_word_iff, fits_id_iff, fits_nil_iff, List.cons.injEq,
      List.nil_eq, List.cons_ne_self, ne_eq, IsEmpty.forall_iff, existsAndEq, exists_and_left,
      exists_eq_right, exists_eq_right', exists_eq_right_right, and_true, true_and] at h
    subst h
    rfl

/-- **The routes of a path** are those whose pattern it fits. -/
theorem ofPath?_eq_some_iff {path : List Char} {route : Route} :
    ofPath? path = some route ↔ LeadsTo path route := by
  unfold LeadsTo
  constructor
  · intro h
    unfold ofPath? ofSegments? at h
    split at h
    · next heq =>
      cases h
      exact fits_of_fixed? heq
    · split at h
      · next heq => exact ⟨_, heq, fits_of_withId? h⟩
      · next heq => exact ⟨_, heq, fits_of_withId? h⟩
      · cases h
  · rintro ⟨rest, hss, h⟩
    rw [ofPath?, hss]
    exact ofSegments?_of_fits h

/-- **No path leads to two routes.** -/
theorem LeadsTo.unique {path : List Char} {route other : Route} (h : LeadsTo path route)
    (hother : LeadsTo path other) : route = other := by
  rw [← ofPath?_eq_some_iff] at h hother
  exact Option.some.inj (h.symm.trans hother)

end Route

end FederatedStorage.Http
