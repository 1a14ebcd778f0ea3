import FederatedStorage.Proofs.Capacity.Grammar
import FederatedStorage.Proofs.Http.Scripts

/-!
# Requests that give a size

A request for a new or a larger volume gives its size in bytes or as a capacity. Which texts are
capacities is a matter of their form alone, but for those that stand for too many bytes. A request
with any other text, with both or with neither is refused as one that is no good: nobody is asked for
anything, and nothing changes.

## Main definitions

* `Api.SizeRefused`: requests that are read but for their size.

## Main statements

* `Api.SizeRefused.refused`: such a request is refused before the gateway is asked.
* `sizes_accepted`: which sizes are accepted, and what comes of all others.
-/

namespace FederatedStorage.Http

open Capacity Schedule

/-- A size that is refused is a request that is no good. -/
theorem invalid_of_resolveSize {size : Option UInt64} {capacity : Option String} {failure : Failure}
    (h : resolveSize size capacity = .error failure) : ∃ text, failure = .invalidRequest text := by
  cases size with
  | some bytes =>
    cases capacity with
    | none => cases h
    | some text =>
      cases h
      exact ⟨_, rfl⟩
  | none =>
    cases capacity with
    | none =>
      cases h
      exact ⟨_, rfl⟩
    | some text =>
      rw [resolveSize_capacity] at h
      cases hparse : parse text with
      | ok bytes =>
        rw [hparse] at h
        cases h
      | error fault =>
        rw [hparse] at h
        cases h
        exact ⟨_, rfl⟩

namespace Api

/-- **A request whose size is refused**: one for a new or a larger volume that is read but for its
size. -/
inductive SizeRefused (r : Request) (failure : Failure) : Prop
  | create (b : CreateVolumeBody) (hroute : Route.ofPath? (pathOf r.target) = some .volumes)
      (hmethod : r.method = "POST") (hbody : readBody CreateVolumeBody.record.codec r = .ok b)
      (hsize : resolveSize b.sizeBytes b.capacity = .error failure)
  | resize (raw : List Char) (id : String) (b : ResizeVolumeBody)
      (hroute : Route.ofPath? (pathOf r.target) = some (.volumeSize raw)) (hmethod : r.method = "PUT")
      (hid : Text.Percent.decode? raw = some id)
      (hbody : readBody ResizeVolumeBody.record.codec r = .ok b)
      (hsize : resolveSize b.newSizeBytes b.capacity = .error failure)

variable {r : Request} {failure : Failure}

/-- It is refused before the gateway is asked. -/
theorem SizeRefused.refused (h : SizeRefused r failure) : Refused r (.ofFailure failure) := by
  cases h with
  | create b hroute hmethod hbody hsize =>
    have hread : createRequest r = .error failure := by
      simp [createRequest, hbody, CreateVolumeBody.toRequest, hsize, bind, Except.bind]
    refine .body hroute (by simp [hmethod, Route.methods]) ?_
    simp [bodyFailure?, hmethod, hread, failureOf?]
  | resize raw id b hroute hmethod hid hbody hsize =>
    have hread : resizeRequest r id = .error failure := by
      simp [resizeRequest, hbody, ResizeVolumeBody.toRequest, hsize, bind, Except.bind]
    refine .body hroute (by simp [hmethod, Route.methods]) ?_
    simp [bodyFailure?, hid, hread, failureOf?]

theorem SizeRefused.invalid (h : SizeRefused r failure) : ∃ text, failure = .invalidRequest text := by
  cases h with
  | create b hroute hmethod hbody hsize => exact invalid_of_resolveSize hsize
  | resize raw id b hroute hmethod hid hbody hsize => exact invalid_of_resolveSize hsize

end Api

/-- A text that is read or too large is of the form of a capacity. -/
theorem written_of_parse {text : String}
    (h : (∃ n, parse text = .ok n) ∨ ∃ shown, parse text = .error (.tooLarge shown)) :
    ∃ number unit power, Written text number unit power := by
  by_contra hnone
  have hnot : ∀ number unit power, ¬ Written text number unit power :=
    fun number unit power hw => hnone ⟨number, unit, power, hw⟩
  rcases parse_of_not_written hnot with ⟨hparse, -⟩ | ⟨hparse, -⟩
  · simp [hparse] at h
  · simp [hparse] at h

/-- **Which sizes are accepted**, and what comes of the others.

Every text is cut between two characters. It is read, or stands for too many bytes, exactly if it has
the form of a capacity: a number and a unit amid white space. Then the number is the longest front of
digits and points, it comes first, and behind it there is no letter but those of units; and too many
are the bytes from half a unit of the last of 53 places below `2 ^ 64` on. Whatever is refused is
refused as a request that is no good.

A request whose size is refused is answered at once with the status of such a failure. Nobody is
asked for anything, and the world stays as it is. -/
theorem sizes_accepted :
    (∀ text : String,
      (∃ h : String.Pos.Raw.IsValid (.ofList (core text)) ⟨cutByte (.ofList (core text))⟩,
        (String.Pos.mk _ h).Splits (.ofList (front text))
          (.ofList ((core text).dropWhile isNumberChar))) ∧
      (((∃ n, parse text = .ok n) ∨ ∃ shown, parse text = .error (.tooLarge shown)) ↔
        ∃ number unit power, Written text number unit power) ∧
      (∀ number unit power, Written text number unit power →
        front text = number ∧ back text = unit ∧
        (∃ c ∈ (core text).head?, isNumberChar c = true) ∧
        (∀ c ∈ (core text).dropWhile isNumberChar,
          Text.isBlank c = true ∨ ∀ u ∈ Text.upperForm c, u ∈ unitChars) ∧
        ((∃ shown, parse text = .error (.tooLarge shown)) ↔ Overflows number power)) ∧
      ∀ fault, parse text = .error fault →
        resolveSize none (some text) = .error (.invalidRequest fault.message)) ∧
    (∀ size text, ∃ reason, resolveSize (some size) (some text) = .error (.invalidRequest reason)) ∧
    (∃ reason, resolveSize none none = .error (.invalidRequest reason)) ∧
    ∀ r failure, Api.SizeRefused r failure →
      (∃ reason, failure = .invalidRequest reason) ∧ (Response.ofFailure failure).status = 400 ∧
      ∀ timeoutMs,
        (Api.script timeoutMs r = .done (.ofFailure failure) ∨
          Api.script timeoutMs r = .follow fun _ => .done (.ofFailure failure)) ∧
        ∀ w moved, ((Api.handle timeoutMs r).advance w moved).1 = w ∧
          ((Api.handle timeoutMs r).advance w moved).2.1 = .done (.ofFailure failure) := by
  refine ⟨?_, fun size text => ⟨_, rfl⟩, ⟨_, rfl⟩, ?_⟩
  · intro text
    refine ⟨?_, ⟨written_of_parse, ?_⟩, ?_, ?_⟩
    · have hcut := cutByte_splits (.ofList (core text))
      rwa [String.toList_ofList] at hcut
    · rintro ⟨number, unit, power, h⟩
      rcases parse_written h with ⟨hok, -⟩ | ⟨hlarge, -⟩
      · exact Or.inl hok
      · exact Or.inr ⟨_, hlarge⟩
    · intro number unit power h
      refine ⟨h.eq.1, h.eq.2, h.head, h.letters, ?_⟩
      rcases parse_written h with ⟨⟨n, hok⟩, hfits⟩ | ⟨hlarge, hover⟩
      · simp [hok, hfits]
      · simp [hlarge, hover]
    · intro fault h
      rw [resolveSize_capacity, h]
      rfl
  · intro r failure h
    have hrefused := h.refused
    obtain ⟨reason, rfl⟩ := h.invalid
    refine ⟨⟨reason, rfl⟩, rfl, ?_⟩
    intro timeoutMs
    exact ⟨Api.script_of_refused timeoutMs hrefused, Api.refused_advance timeoutMs hrefused⟩

/-- A request for a larger volume that gives its size twice. -/
def bothSizes : Request :=
  ⟨"PUT", "/v1/volumes/v/size", some "application/json",
    "\x7b\"new_size_bytes\": 1, \"capacity\": \"1Gi\"\x7d"⟩

/-- A number with a part and a unit is accepted, one with an exponent is not, and neither is a size
that is given twice. -/
theorem sizes_accepted_both :
    (∃ n, parse " 1.5 gI" = .ok n) ∧ (∀ n, parse "1e3" ≠ .ok n) ∧
      resolveSize none (some "1e3") =
        .error (.invalidRequest (CapacityFault.unknownUnit "e3").message) ∧
      ∀ w moved, ((Api.handle 1000 bothSizes).advance w moved).1 = w := by
  obtain ⟨htexts, -, -, hrequests⟩ := sizes_accepted
  refine ⟨?_, fun n hn => ?_, ?_, ?_⟩
  · have hwritten : Written " 1.5 gI" ['1', '.', '5'] ['g', 'I'] 30 := by
      refine ⟨⟨[' '], [' '], [], rfl, List.all_eq_true.mp (by decide)⟩,
        ⟨List.all_eq_true.mp (by decide), ⟨'1', by decide, by decide⟩, by decide⟩, Or.inr ?_⟩
      exact ⟨'G', ['I'], by decide, by decide, by decide⟩
    obtain ⟨-, hform, hread, -⟩ := htexts " 1.5 gI"
    obtain ⟨-, -, -, -, hlarge⟩ := hread _ _ _ hwritten
    have hfits : ¬ Overflows ['1', '.', '5'] 30 := by
      unfold Overflows
      decide
    exact (hform.mpr ⟨_, _, _, hwritten⟩).resolve_right (mt hlarge.mp hfits)
  · obtain ⟨-, hform, hread, -⟩ := htexts "1e3"
    obtain ⟨number, unit, power, hwritten⟩ := hform.mp (Or.inl ⟨n, hn⟩)
    obtain ⟨-, -, -, hletters, -⟩ := hread _ _ _ hwritten
    rcases hletters 'e' (by decide) with hblank | hupper
    · exact absurd hblank (by decide)
    · exact absurd (hupper 'E' (by decide)) (by decide)
  · obtain ⟨-, -, -, hrefused⟩ := htexts "1e3"
    exact hrefused (.unknownUnit "e3") rfl
  · have hbody : Api.readBody ResizeVolumeBody.record.codec bothSizes = .ok ⟨some 1, some "1Gi"⟩ := by
      decide +kernel
    have hbad : Api.SizeRefused bothSizes _ :=
      .resize ['v'] "v" _ (by decide +kernel) rfl (by decide +kernel) hbody rfl
    obtain ⟨-, -, hanswer⟩ := hrequests _ _ hbad
    exact fun w moved => ((hanswer 1000).2 w moved).1

end FederatedStorage.Http
