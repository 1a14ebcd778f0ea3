import FederatedStorage.Json.Codec
import FederatedStorage.Proofs.Json.Words

/-!
# Outlines of written values

The tree that is built of a value's words is the outline of the value, whatever containers are open
around it.

## Main statements

* `build_value`: the words of a value, inside of any containers.
* `ofDocument_render`: a text that was written is read as its value.
-/

namespace FederatedStorage.Json

namespace Outline

/-- What is done with a finished value. -/
def finish (stack : List Frame) (o : Outline) (ts : List Token) : Outline × List Token :=
  match stack with
  | [] => (o, ts)
  | f :: fs => build (f.put o :: fs) .separator ts

/-- Items begin with the words of the first. -/
theorem exists_commaWords (v : Value) (vs : List Value) :
    ∃ us, commaWords (itemWords (v :: vs)) = v.words ++ us := by
  cases vs with
  | nil => exact ⟨[], (List.append_nil _).symm⟩
  | cons v2 vs => exact ⟨_, rfl⟩

/-- A value may also stand where a container may be closed. -/
theorem build_valueOrClose (v : Value) (f : Frame) (fs : List Frame) (ts : List Token) :
    build (f :: fs) .valueOrClose (v.words ++ ts) = build (f :: fs) .value (v.words ++ ts) := by
  cases v <;> rfl

mutual

/-- **The words of a value build its outline**, whatever is open around it. -/
theorem build_value : ∀ (v : Value) (stack : List Frame) (ts : List Token),
    build stack .value (v.words ++ ts) = finish stack (ofValue v) ts
  | .null, stack, _ => by cases stack <;> rfl
  | .bool _, stack, _ => by cases stack <;> rfl
  | .number _, stack, _ => by cases stack <;> rfl
  | .string _, stack, _ => by cases stack <;> rfl
  | .array [], stack, _ => by cases stack <;> rfl
  | .array (v :: vs), stack, ts => by
    have hitems := build_items (v :: vs) (List.cons_ne_nil v vs) [] stack ts
    obtain ⟨us, hwords⟩ := exists_commaWords v vs
    show build (.items [] :: stack) .valueOrClose
      ((commaWords (itemWords (v :: vs)) ++ [.closeArray]) ++ ts) = _
    rw [List.append_assoc, List.singleton_append]
    rw [hwords, List.append_assoc] at hitems ⊢
    rw [build_valueOrClose, hitems]
    rfl
  | .object [], stack, _ => by cases stack <;> rfl
  | .object (m :: ms), stack, ts => by
    have hmembers := build_members (m :: ms) (List.cons_ne_nil m ms) [] stack ts
    show build (.members [] none :: stack) .keyOrClose
      ((commaWords (memberWords (m :: ms)) ++ [.closeObject]) ++ ts) = _
    rw [List.append_assoc, List.singleton_append]
    cases ms <;> exact hmembers

theorem build_items : ∀ (vs : List Value), vs ≠ [] → ∀ (done : List Outline)
    (stack : List Frame) (ts : List Token),
    build (.items done :: stack) .value (commaWords (itemWords vs) ++ .closeArray :: ts) =
      finish stack (.array (done.reverse ++ ofItems vs) true) ts
  | [], h, _, _, _ => absurd rfl h
  | [v], _, done, stack, ts => by
    show build _ .value (v.words ++ .closeArray :: ts) = _
    rw [build_value v]
    show finish stack (.array (ofValue v :: done).reverse true) ts = _
    rw [List.reverse_cons]
    rfl
  | v :: v2 :: vs, _, done, stack, ts => by
    show build _ .value ((v.words ++ .comma :: commaWords (itemWords (v2 :: vs))) ++ _) = _
    rw [List.append_assoc, build_value v]
    have hrest := build_items (v2 :: vs) (List.cons_ne_nil v2 vs) (ofValue v :: done) stack ts
    refine hrest.trans ?_
    rw [List.reverse_cons, List.append_assoc]
    rfl

theorem build_members : ∀ (ms : List (String × Value)), ms ≠ [] →
    ∀ (done : List (Outline × Outline)) (stack : List Frame) (ts : List Token),
    build (.members done none :: stack) .key (commaWords (memberWords ms) ++ .closeObject :: ts) =
      finish stack (.object (done.reverse ++ ofMembers ms) true) ts
  | [], h, _, _, _ => absurd rfl h
  | [(k, v)], _, done, stack, ts => by
    show build (.members done (some (.string (some k))) :: stack) .value
      (v.words ++ .closeObject :: ts) = _
    rw [build_value v]
    show finish stack (.object ((.string (some k), ofValue v) :: done).reverse true) ts = _
    rw [List.reverse_cons]
    rfl
  | (k, v) :: m :: ms, _, done, stack, ts => by
    show build (.members done (some (.string (some k))) :: stack) .value
      ((v.words ++ .comma :: commaWords (memberWords (m :: ms))) ++ _) = _
    rw [List.append_assoc, build_value v]
    have hrest := build_members (m :: ms) (List.cons_ne_nil m ms)
      ((.string (some k), ofValue v) :: done) stack ts
    refine hrest.trans ?_
    rw [List.reverse_cons, List.append_assoc]
    rfl

end

/-- **The outline of a written value** whose numbers are integers, with nothing behind it. -/
theorem ofTokens_render {v : Value} (h : v.IsIntegral) :
    ofTokens (tokens v.render) = (ofValue v, []) := by
  have hbuild := build_value v [] []
  rw [List.append_nil] at hbuild
  rw [tokens_render h]
  exact hbuild

end Outline

/-- **A text that was written** is read as its value. -/
theorem Codec.ofDocument_render {α : Type} {codec : Codec α} {v : Value} (h : v.IsIntegral) :
    codec.ofDocument v.render = codec.read Outline.depthLimit (.ofValue v) := by
  unfold Codec.ofDocument
  rw [Outline.ofTokens_render h]
  dsimp only
  cases codec.read Outline.depthLimit (.ofValue v) <;> rfl

end FederatedStorage.Json
