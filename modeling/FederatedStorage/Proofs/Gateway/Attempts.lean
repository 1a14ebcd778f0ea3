import FederatedStorage.Gateway.Deployment
import FederatedStorage.Proofs.Schedule.Bounded

/-!
# Attempts on a remote array

What a request to a remote array may do twice. An attempt can come to grief before anything was
written, or when the array may have done what was asked already, or with a response that says what it
has done. Only an attempt that cannot have had an effect is made again, or one whose effect is the same
the second time.

The attempts are taken as they come: each is an activity of any length that ends with what became of
it, and the others move as they like. `Tries` says which attempts a run of the loop has made, and
`Told` when they are over. Attempts are counted with 32 bits; with the largest number of repetitions
none is the last.

## Main statements

* `Try.ends_iff`, `Try.ends_iff_of_largest`: which attempt is the last.
* `repeating_tries`: the attempts of a run.
* `Told.last_of_not_repeatable`, `Told.length_le`: what may follow, and how many there are.
* `repeating_limit`: the limit of the loop decides nothing.
-/

namespace FederatedStorage

open Http Schedule

/-- **What becomes of an attempt**: no endpoint could be dialed, the handshake failed, the request could
not be written, or it was written. -/
inductive Fate
  | unreachable (endpoints : Nat) (lastError : String)
  | unusable (reason : String)
  | unwritable (reason : String)
  | written (delivery : Delivery)

namespace Fate

/-- The outcome of an attempt on an array. -/
def outcome (r : Remote) (request : RemoteRequest) : Fate → Outcome
  | .unreachable endpoints lastError => .failed (.allEndpointsFailed endpoints lastError) false
  | .unusable reason => .failed (.exchange reason) false
  | .unwritable reason => .failed (.internal s!"invalid vendor request: {reason}") true
  | .written (.answered status payload) => r.judge request status payload
  | .written (.lost reason) => .failed (.exchange reason) true
  | .written .silent => .waiting

/-- Whether the array may have done what was asked. It says of itself if it has not: with a 503. -/
def mayHaveRun : Fate → Bool
  | .written (.answered status _) => status != 503
  | .written _ => true
  | _ => false

/-- **Whether another attempt may follow.** What may have been done already is asked again unless it is
posted. -/
def isRepeatable (method : RemoteMethod) : Fate → Bool
  | .unreachable _ _ => true
  | .unusable _ => true
  | .unwritable _ => false
  | .written (.answered status _) => status == 503
  | .written (.lost _) => method != .post
  | .written .silent => false

/-- What is posted and may have had its effect is not repeated. -/
theorem not_mayHaveRun_of_isRepeatable {fate : Fate} (h : fate.isRepeatable .post = true) :
    fate.mayHaveRun = false := by
  cases fate with
  | unreachable endpoints lastError => rfl
  | unusable reason => rfl
  | unwritable reason => rfl
  | written delivery =>
    cases delivery with
    | answered status payload =>
      have hstatus : status = 503 := by simpa [isRepeatable] using h
      rw [hstatus]
      rfl
    | lost reason => cases h
    | silent => cases h

/-- A response repeats nothing but a 503. -/
theorem status_of_isRepeatable {method : RemoteMethod} {status : Nat} {payload : List UInt8}
    (h : (written (.answered status payload)).isRepeatable method = true) : status = 503 := by
  simpa [isRepeatable] using h

/-- **The fate of an attempt** as the network has it. -/
def of (network : Network) (r : Remote) (request : RemoteRequest) : Fate :=
  match (r.rotation.dial network.reach).2 with
  | .error (.allEndpointsFailed endpoints lastError) => .unreachable endpoints lastError
  | .error failure => .unusable failure.message
  | .ok connection =>
    match network.greet connection.address with
    | .error reason => .unusable reason
    | .ok () =>
      match r.defect? request connection.address with
      | some reason => .unwritable reason
      | none => .written (network.deliver connection.address request)

end Fate

/-- Only what is posted is not the same when it is done twice. -/
theorem isIdempotent_eq (method : RemoteMethod) : method.isIdempotent = (method != .post) := by
  cases method <;> rfl

/-- A response ends the attempts unless it is a 503. -/
theorem isFinal_judge (r : Remote) (request : RemoteRequest) (status : Nat) (payload : List UInt8)
    (idempotent last : Bool) :
    (r.judge request status payload).isFinal idempotent last = (last || status != 503) := by
  unfold Remote.judge
  by_cases hbusy : status = 503
  · subst hbusy
    simp [isSuccess, Outcome.isFinal, mayRepeat]
  · -- whatever else the response means, it does not pass by itself
    have hfinal : (last || status != 503) = true := by simp [hbusy]
    rw [hfinal]
    split
    · rfl
    · split
      · simp [Outcome.isFinal, mayRepeat, Failure.isTransient]
      · split
        · simp [Outcome.isFinal, mayRepeat, Failure.isTransient, RemoteRequest.missing]
        · simp [hbusy, Outcome.isFinal, mayRepeat, Failure.isTransient]

/-- **An outcome is final** with the last attempt, or if no other may follow. -/
theorem isFinal_outcome (r : Remote) (request : RemoteRequest) (fate : Fate) (last : Bool) :
    (fate.outcome r request).isFinal request.method.isIdempotent last =
      (last || !fate.isRepeatable request.method) := by
  cases fate with
  | unreachable endpoints lastError =>
    simp [Fate.outcome, Outcome.isFinal, mayRepeat, Failure.isTransient, Fate.isRepeatable]
  | unusable reason =>
    simp [Fate.outcome, Outcome.isFinal, mayRepeat, Failure.isTransient, Fate.isRepeatable]
  | unwritable reason =>
    simp [Fate.outcome, Outcome.isFinal, mayRepeat, Failure.isTransient, Fate.isRepeatable]
  | written delivery =>
    cases delivery with
    | answered status payload => exact isFinal_judge r request status payload _ last
    | lost reason =>
      simp [Fate.outcome, Outcome.isFinal, mayRepeat, Failure.isTransient, Fate.isRepeatable,
        isIdempotent_eq]
    | silent => simp [Fate.outcome, Outcome.isFinal, Fate.isRepeatable]

/-! ## Counting attempts -/

section Last

variable {maxRetries : UInt32} {number : Nat}

/-- **The last attempt** is the one after all repetitions, if their number is not the largest. -/
theorem isLastAttempt_iff (hmax : maxRetries.toNat + 1 < UInt32.size)
    (hnumber : number ≤ maxRetries.toNat + 1) :
    isLastAttempt maxRetries (UInt32.ofNat number) = true ↔ number = maxRetries.toNat + 1 := by
  have hword : (UInt32.ofNat number).toNat = number := by
    rw [UInt32.toNat_ofNat']
    exact Nat.mod_eq_of_lt (Nat.lt_of_le_of_lt hnumber hmax)
  unfold isLastAttempt
  rw [decide_eq_true_iff, UInt32.lt_iff_toNat_lt, hword]
  omega

/-- **No attempt is the last** if the number of repetitions is the largest. -/
theorem isLastAttempt_largest (hmax : maxRetries.toNat + 1 = UInt32.size) (word : UInt32) :
    isLastAttempt maxRetries word = false := by
  have hword : word.toNat < UInt32.size := word.toNat_lt
  unfold isLastAttempt
  rw [decide_eq_false_iff_not, UInt32.lt_iff_toNat_lt]
  omega

end Last

/-! ## The loop -/

/-- An attempt that was made: the array as it was then, and what became of it. -/
structure Try where
  remote : Remote
  fate : Fate

namespace Try

/-- Its outcome. -/
def outcome (x : Try) (request : RemoteRequest) : Outcome := x.fate.outcome x.remote request

/-- **Whether it ends the attempts**, by its number: no other may follow it, or it is the last. -/
def Ends (x : Try) (request : RemoteRequest) (maxRetries : UInt32) (number : Nat) : Prop :=
  x.fate.isRepeatable request.method = false ∨
    isLastAttempt maxRetries (UInt32.ofNat number) = true

/-- That is whether its outcome is final. -/
theorem isFinal_iff {x : Try} {request : RemoteRequest} {maxRetries : UInt32} {number : Nat} :
    (x.outcome request).isFinal request.method.isIdempotent
        (isLastAttempt maxRetries (UInt32.ofNat number)) = true ↔
      x.Ends request maxRetries number := by
  rw [outcome, isFinal_outcome, Bool.or_eq_true, Bool.not_eq_true', Or.comm]
  rfl

/-- **Which attempts end them**: those that no other may follow, and the one after all repetitions. -/
theorem ends_iff {x : Try} {request : RemoteRequest} {maxRetries : UInt32} {number : Nat}
    (hmax : maxRetries.toNat + 1 < UInt32.size) (hnumber : number ≤ maxRetries.toNat + 1) :
    x.Ends request maxRetries number ↔
      x.fate.isRepeatable request.method = false ∨ number = maxRetries.toNat + 1 := by
  rw [Ends, isLastAttempt_iff hmax hnumber]

/-- With the largest number of repetitions, only those that no other may follow. -/
theorem ends_iff_of_largest {x : Try} {request : RemoteRequest} {maxRetries : UInt32} {number : Nat}
    (hmax : maxRetries.toNat + 1 = UInt32.size) :
    x.Ends request maxRetries number ↔ x.fate.isRepeatable request.method = false := by
  rw [Ends, isLastAttempt_largest hmax, or_iff_left Bool.false_ne_true]

end Try

variable {σ ε : Type}

/-- **Attempts until an outcome is final**, each made in any way, with the pause that follows it. -/
def repeating (request : RemoteRequest) (make : Nat → Activity σ (Try × Nat))
    (maxRetries made : UInt32) (number : Nat) : Nat → Activity σ Outcome
  | 0 => (Activity.await fun _ => false).map fun _ => .waiting
  | limit + 1 =>
    (make number).bind fun x =>
      if (x.1.outcome request).isFinal request.method.isIdempotent
          (isLastAttempt maxRetries (made + 1)) then
        .done (x.1.outcome request)
      else
        (Activity.sleep x.2).bind fun _ =>
          repeating request make maxRetries (made + 1) (number + 1) limit

/-- **The attempts that a run has made**, in their order: the next has not begun, or is not complete,
or it is and no more than its pause has followed, or more have followed after the pause. -/
inductive Tries (moves : Scene σ ε → Scene σ ε → Prop) (make : Nat → Activity σ (Try × Nat)) :
    Nat → Scene σ ε → List Try → Scene σ ε → Prop
  | before {number : Nat} {s s' : Scene σ ε} {t : List (Scene σ ε)}
      (h : Runs moves (make number) s t (make number) s') : Tries moves make number s [] s'
  | under {number : Nat} {s s' : Scene σ ε} {t : List (Scene σ ε)} {r : Activity σ (Try × Nat)}
      (h : Runs moves (make number) s t r s') (hunder : r.result? = none) :
      Tries moves make number s [] s'
  | made {number pause : Nat} {s s1 s' : Scene σ ε} {t t1 : List (Scene σ ε)} {x : Try}
      {r : Activity σ Unit} (h : Runs moves (make number) s t (.done (x, pause)) s1)
      (hpause : Runs moves (Activity.sleep pause) s1 t1 r s') :
      Tries moves make number s [x] s'
  | more {number pause : Nat} {s s1 s2 s' : Scene σ ε} {t t1 : List (Scene σ ε)} {x : Try}
      {xs : List Try} (h : Runs moves (make number) s t (.done (x, pause)) s1)
      (hpause : Runs moves (Activity.sleep pause) s1 t1 (.done ()) s2)
      (hrest : Tries moves make (number + 1) s2 xs s') :
      Tries moves make number s (x :: xs) s'

/-- **How attempts and what is left to do go together**, after so many others: another has followed
only what does not end them, and with the first that does they are over, with its outcome. -/
structure Told (request : RemoteRequest) (maxRetries : UInt32) (made : Nat) (xs : List Try)
    (q : Activity σ Outcome) : Prop where
  earlier : ∀ init x y rest, xs = init ++ x :: y :: rest →
    ¬ x.Ends request maxRetries (made + init.length + 1)
  over_iff : ∀ o, q = .done o ↔ ∃ init x, xs = init ++ [x] ∧
    x.Ends request maxRetries (made + init.length + 1) ∧ o = x.outcome request

section Loop

variable {moves : Scene σ ε → Scene σ ε → Prop} {make : Nat → Activity σ (Try × Nat)}
  {s s' : Scene σ ε} {t : List (Scene σ ε)} {request : RemoteRequest} {maxRetries : UInt32}
  {made number limit : Nat} {x : Try} {xs : List Try} {q : Activity σ Outcome}

/-- No attempt is complete. -/
theorem Told.nil (hq : q.result? = none) : Told request maxRetries made [] q where
  earlier init x y rest h := by cases init <;> cases h
  over_iff o := by
    constructor
    · rintro rfl
      cases hq
    · rintro ⟨init, x, h, -⟩
      cases init <;> cases h

/-- One attempt is complete, and it ends them. -/
theorem Told.last (hx : x.Ends request maxRetries (made + 1)) :
    Told request maxRetries made [x] (.done (x.outcome request) : Activity σ Outcome) where
  earlier init y z rest h := by
    have hlength := congrArg List.length h
    simp only [List.length_append, List.length_cons, List.length_nil] at hlength
    omega
  over_iff o := by
    constructor
    · intro h
      cases h
      exact ⟨[], x, rfl, hx, rfl⟩
    · rintro ⟨init, y, h, -, rfl⟩
      cases init with
      | nil =>
        cases h
        rfl
      | cons z init => cases init <;> cases h

/-- Another attempt before those, which does not end them. -/
theorem Told.cons (hx : ¬ x.Ends request maxRetries (made + 1))
    (h : Told request maxRetries (made + 1) xs q) : Told request maxRetries made (x :: xs) q where
  earlier init y z rest hxs := by
    cases init with
    | nil =>
      cases hxs
      exact hx
    | cons w init =>
      cases hxs
      have hlater := h.earlier init y z rest rfl
      rwa [Nat.add_right_comm made 1] at hlater
  over_iff o := by
    rw [h.over_iff]
    constructor
    · rintro ⟨init, y, rfl, hy, rfl⟩
      refine ⟨x :: init, y, rfl, ?_, rfl⟩
      rwa [Nat.add_right_comm made 1] at hy
    · rintro ⟨init, y, hxs, hy, rfl⟩
      cases init with
      | nil =>
        cases hxs
        exact absurd hy hx
      | cons w init =>
        cases hxs
        refine ⟨init, y, rfl, ?_, rfl⟩
        rwa [Nat.add_right_comm made 1]

/-- **The attempts of a run** of the loop. -/
theorem repeating_tries
    (h : Runs moves (repeating request make maxRetries (UInt32.ofNat number) number limit) s t q s') :
    ∃ xs, Tries moves make number s xs s' ∧ Told request maxRetries number xs q := by
  induction limit generalizing number s t with
  | zero =>
    obtain ⟨rfl, hothers⟩ := h.of_never
    exact ⟨[], .before (hothers (make number)), .nil rfl⟩
  | succ limit ih =>
    rcases h.bind_cases with ⟨r, hr, hq, hrun⟩ | ⟨⟨x, pause⟩, t1, s1, t2, h1, h2⟩
    · exact ⟨[], .under hrun hr, .nil hq⟩
    · have hnumber : UInt32.ofNat number + 1 = UInt32.ofNat (number + 1) :=
        (UInt32.ofNat_add number 1).symm
      dsimp only at h2
      rw [hnumber] at h2
      by_cases hx : x.Ends request maxRetries (number + 1)
      · rw [if_pos (Try.isFinal_iff.mpr hx)] at h2
        obtain ⟨rfl, hothers⟩ := h2.of_done
        exact ⟨[x], .made h1 (hothers (Activity.sleep pause)), .last hx⟩
      · rw [if_neg (mt Try.isFinal_iff.mp hx)] at h2
        rcases h2.bind_cases with ⟨r, -, hq, hrun⟩ | ⟨_, t3, s2, t4, h3, h4⟩
        · exact ⟨[x], .made h1 hrun, .cons hx (.nil hq)⟩
        · obtain ⟨xs, htries, htold⟩ := ih h4
          exact ⟨x :: xs, .more h1 h3 htries, .cons hx htold⟩

/-- A list with more than `n + 1` members has one after the first `n` that is not its last. -/
theorem exists_split {α : Type} {xs : List α} {n : Nat} (h : n + 1 < xs.length) :
    ∃ init x y rest, xs = init ++ x :: y :: rest ∧ init.length = n := by
  refine ⟨xs.take n, xs[n], xs[n + 1], xs.drop (n + 2), ?_, List.length_take_of_le (by omega)⟩
  rw [List.getElem_cons_drop, List.getElem_cons_drop, List.take_append_drop]

/-- **What no other may follow, none has followed.** -/
theorem Told.last_of_not_repeatable (h : Told request maxRetries made xs q) {init rest : List Try}
    (hxs : xs = init ++ x :: rest) (hx : x.fate.isRepeatable request.method = false) :
    rest = [] := by
  cases rest with
  | nil => rfl
  | cons y rest => exact absurd (Or.inl hx) (h.earlier init x y rest hxs)

/-- **No more attempts than allowed** are made, if the number of repetitions is not the largest. -/
theorem Told.length_le (hmax : maxRetries.toNat + 1 < UInt32.size)
    (h : Told request maxRetries 0 xs q) : xs.length ≤ maxRetries.toNat + 1 := by
  by_contra hlong
  obtain ⟨init, x, y, rest, hxs, hinit⟩ := exists_split (Nat.lt_of_not_le hlong)
  refine h.earlier init x y rest hxs ((Try.ends_iff hmax ?_).mpr (Or.inr ?_))
  · omega
  · omega

/-- **The limit decides nothing** if the attempts that are followed are as many as may be made. -/
theorem repeating_limit (hmax : maxRetries.toNat + 1 < UInt32.size) (more : Nat)
    (hnumber : number ≤ maxRetries.toNat) (hlimit : maxRetries.toNat + 1 ≤ number + limit) :
    repeating request make maxRetries (UInt32.ofNat number) number (limit + more) =
      repeating request make maxRetries (UInt32.ofNat number) number limit := by
  induction limit generalizing number with
  | zero => omega
  | succ limit ih =>
    have hnext : UInt32.ofNat number + 1 = UInt32.ofNat (number + 1) :=
      (UInt32.ofNat_add number 1).symm
    rw [Nat.add_right_comm, repeating, repeating, hnext]
    refine congrArg _ (funext fun x => ?_)
    by_cases hx : x.1.Ends request maxRetries (number + 1)
    · rw [if_pos (Try.isFinal_iff.mpr hx), if_pos (Try.isFinal_iff.mpr hx)]
    · -- it is not the last, so there is one more to be followed
      rw [if_neg (mt Try.isFinal_iff.mp hx), if_neg (mt Try.isFinal_iff.mp hx)]
      have hne : number + 1 ≠ maxRetries.toNat + 1 := fun heq =>
        hx ((Try.ends_iff hmax (Nat.le_of_eq heq)).mpr (Or.inr heq))
      refine congrArg _ (funext fun _ => ih ?_ ?_)
      · omega
      · omega

end Loop

end FederatedStorage
