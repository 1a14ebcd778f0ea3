/-!
# A world with a clock

The world that activities act on: a clock in milliseconds, the tokens that have been cancelled, and
a state. A token is named by its way from the root of its family, nearest first, so that cancelling
a token cancels all that descend from it.

## Main definitions

* `World`: the world.
* `Part`: a part of a larger state, from which the world is seen with that part for its state.

## Main statements

* `World.isCancelled_cancel`: cancelling a token cancels it.
* `World.isCancelled_child`: what descends from a cancelled token is cancelled.
-/

namespace FederatedStorage.Schedule

/-- A cancellation token: its own number, then those of its ancestors. -/
structure Token where
  path : List Nat
deriving DecidableEq, Repr, Inhabited

/-- The token that all others descend from. It is never cancelled. -/
def Token.root : Token := ⟨[]⟩

/-- A token that descends from another. -/
def Token.child (t : Token) (n : Nat) : Token := ⟨n :: t.path⟩

/-- **The world.** -/
structure World (σ : Type) where
  /-- Milliseconds since the beginning. -/
  clock : Nat
  cancelled : List Token
  /-- The number of the next token. -/
  nextToken : Nat
  state : σ

namespace World

variable {σ : Type}

/-- The world at the beginning. -/
def start (s : σ) : World σ := ⟨0, [], 0, s⟩

/-- **Whether a token is cancelled**: itself or an ancestor. -/
def isCancelled (w : World σ) (t : Token) : Bool :=
  w.cancelled.any fun c => c.path.isSuffixOf t.path

/-- **Cancels a token** and all that descend from it. -/
def cancel (w : World σ) (t : Token) : World σ := { w with cancelled := t :: w.cancelled }

/-- A token that descends from no other, or from the given one. -/
def newToken (w : World σ) (parent : Token) : Token × World σ :=
  (parent.child w.nextToken, { w with nextToken := w.nextToken + 1 })

/-- Changes the state. -/
def modify (w : World σ) (f : σ → σ) : World σ := { w with state := f w.state }

/-- **A cancelled token is cancelled.** -/
theorem isCancelled_cancel (w : World σ) (t : Token) : (w.cancel t).isCancelled t = true := by
  simp [isCancelled, cancel]

/-- **What descends from a cancelled token** is cancelled. -/
theorem isCancelled_of_suffix {w : World σ} {t own : Token} (hown : t.path <:+ own.path)
    (h : w.isCancelled t = true) : w.isCancelled own = true := by
  simp only [isCancelled, List.any_eq_true, List.isSuffixOf_iff_suffix] at h ⊢
  obtain ⟨c, hc, hs⟩ := h
  exact ⟨c, hc, hs.trans hown⟩

theorem isCancelled_child {w : World σ} {t : Token} (n : Nat) (h : w.isCancelled t = true) :
    w.isCancelled (t.child n) = true := isCancelled_of_suffix (List.suffix_cons n t.path) h

end World

/-! ## Parts -/

/-- **A part of a larger state**: how it is found, and how it is replaced. -/
structure Part (τ σ : Type) where
  get : τ → σ
  set : σ → τ → τ
  get_set : ∀ s t, get (set s t) = s := by intros; rfl

namespace Part

variable {τ σ : Type}

/-- The world as it is seen from the part. -/
def view (part : Part τ σ) (w : World τ) : World σ :=
  ⟨w.clock, w.cancelled, w.nextToken, part.get w.state⟩

/-- Replaces what is seen from the part. -/
def put (part : Part τ σ) (w : World τ) (seen : World σ) : World τ :=
  ⟨seen.clock, seen.cancelled, seen.nextToken, part.set seen.state w.state⟩

/-- What was put is seen. -/
@[simp] theorem view_put (part : Part τ σ) (w : World τ) (seen : World σ) :
    part.view (part.put w seen) = seen := by
  simp [view, put, part.get_set]

end Part

end FederatedStorage.Schedule
