import FederatedStorage.Proofs.Backend.Rotation
import FederatedStorage.Proofs.Gateway.Arrays
import FederatedStorage.Proofs.Gateway.Attempts

/-!
# Requests as they are sent

A request to a remote array is sent by the loop of attempts, each made on the array as it is by then.
Its caller's bound does not disturb the loop: it cuts the attempts off, wherever they have come.

## Main statements

* `send_eq_repeating`: requests are sent by the loop.
* `isIdempotent_requestOf`: the calls that must not be done twice.
* `sendWithin_sends`: what a bound does to the attempts.
* `send_repeats_safely`: no effect is brought about twice.
-/

namespace FederatedStorage

open Http Schedule

/-! ## The calls that are made once -/

/-- Whether a call does something else when it is done twice: those that create, attach and detach. -/
def Call.isOnceOnly : Call → Bool
  | .createVolume _ => true
  | .createSnapshot _ => true
  | .attachVolume _ => true
  | .detachVolume _ => true
  | _ => false

/-- **Those are the calls whose requests are not idempotent.** -/
theorem isIdempotent_requestOf (c : Call) :
    (Remote.requestOf c).method.isIdempotent = !c.isOnceOnly := by
  cases c <;> rfl

theorem method_requestOf {c : Call} (h : c.isOnceOnly = true) :
    (Remote.requestOf c).method = .post := by
  have hmethod := isIdempotent_requestOf c
  rw [h, isIdempotent_eq] at hmethod
  simpa using hmethod

/-! ## Attempts on an array -/

/-- The fate of an attempt gives its outcome. -/
theorem Fate.outcome_of (network : Network) (r : Remote) (request : RemoteRequest) :
    (Fate.of network r request).outcome r request = (r.attempt network request).2 := by
  unfold Fate.of Remote.attempt
  cases hdial : r.rotation.dial network.reach with
  | mk rotation result =>
    cases result with
    | error failure =>
      obtain ⟨n, e, rfl⟩ := Rotation.dial_error (congrArg Prod.snd hdial)
      rfl
    | ok connection =>
      dsimp only
      unfold Remote.converse Remote.exchange
      cases network.greet connection.address with
      | error reason => rfl
      | ok _ =>
        dsimp only
        cases r.defect? request connection.address with
        | some reason => rfl
        | none => cases network.deliver connection.address request <;> rfl

theorem attempt_config (network : Network) (r : Remote) (request : RemoteRequest) :
    (r.attempt network request).1.config = r.config := by
  unfold Remote.attempt
  split <;> rfl

namespace Deployment

/-- What stands for an array that is not there. -/
def nobody : Remote := ⟨"", ⟨[], none, 0, 0, 0⟩, ⟨[], 0⟩⟩

/-- One attempt, with what became of it. -/
def trying (client : Client) (request : RemoteRequest) (number : Nat) : Work (Try × Nat) :=
  .onState fun d =>
    match d.shelf.get? client with
    | some (.remote r) =>
      ({ d with shelf := d.shelf.set client (.remote (r.attempt d.network request).1) },
        (⟨r, .of d.network r request⟩, pauseMs r.config.retryInitialMs.toNat number))
    | _ => (d, (⟨nobody, .written .silent⟩, 0))

theorem attempt_eq_trying (client : Client) (request : RemoteRequest) (number : Nat) :
    attempt client request number =
      (trying client request number).map fun x => (x.1.outcome request, x.2) := by
  refine congrArg₂ Activity.act (funext fun w => ?_) (funext fun w => ?_)
  · cases hr : w.state.shelf.get? client with
    | none => simp [hr]
    | some backend => cases backend <;> simp [hr]
  · cases hr : w.state.shelf.get? client with
    | none => simp [hr, Activity.bind, Try.outcome, Fate.outcome]
    | some backend =>
      cases backend with
      | loopback a => simp [hr, Activity.bind, Try.outcome, Fate.outcome]
      | remote r => simp [hr, Activity.bind, Try.outcome, Fate.outcome_of, attempt_config]

/-- **Requests are sent by the loop**, each attempt being one on the array. -/
theorem send_eq_repeating (client : Client) (request : RemoteRequest) (maxRetries made : UInt32)
    (number limit : Nat) :
    send client request maxRetries made number limit =
      repeating request (trying client request) maxRetries made number limit := by
  induction limit generalizing made number with
  | zero => rfl
  | succ limit ih =>
    rw [send, repeating, attempt_eq_trying, Activity.map, Activity.bind_assoc]
    refine congrArg _ (funext fun x => ?_)
    dsimp only [Activity.bind]
    rw [funext fun _ => ih (made + 1) (number + 1)]

/-! ## Bounded requests -/

/-- What an outcome says of the whole request. -/
def resultOf? : Outcome → Option (Except Failure (List UInt8))
  | .answered payload => some (.ok payload)
  | .failed failure _ => some (.error failure)
  | .waiting => none

section Bounded

variable {ε : Type} {moves : Scene Deployment ε → Scene Deployment ε → Prop}
  {s s' : Scene Deployment ε} {t : List (Scene Deployment ε)} {b : Bound} {operation : String}
  {client : Client} {request : RemoteRequest} {r : Remote} {o : Outcome}
  {q : Work (Except Failure (List UInt8))}

/-- What a request does with the outcome of its attempts. -/
def conclude (operation : String) : Outcome → Work (Except Failure (List UInt8))
  | .answered payload => .done (.ok payload)
  | .failed failure _ => .done (.error failure)
  | .waiting => (Activity.await fun _ => false).bind fun _ => .done (.error (.timeout operation))

theorem sendWithin_eq (b : Bound) (operation : String) (client : Client) (r : Remote)
    (request : RemoteRequest) :
    sendWithin b operation client r request = b.run operation
      ((send client request r.config.maxRetries 0 0 attemptLimit).bind (conclude operation)) := by
  refine congrArg (b.run operation) (congrArg _ (funext fun o => ?_))
  cases o <;> rfl

/-- It ends with that outcome at once, or never. -/
theorem conclude_runs (h : Runs moves (conclude operation o) s t q s') :
    (∀ {β : Type} (p : Work β), Runs moves p s t p s') ∧
      ∀ result, q = .done result ↔ resultOf? o = some result := by
  cases o with
  | answered payload =>
    obtain ⟨rfl, hothers⟩ := h.of_done
    exact ⟨hothers, fun result => by simp [resultOf?]⟩
  | failed failure sent =>
    obtain ⟨rfl, hothers⟩ := h.of_done
    exact ⟨hothers, fun result => by simp [resultOf?]⟩
  | waiting =>
    obtain ⟨rfl, hothers⟩ := h.of_never
    exact ⟨hothers, fun result => by simp [resultOf?]⟩

/-- **A run of a request that is not bounded** is one of its attempts, and their outcome is its
result. -/
theorem concluded_runs
    (h : Runs moves ((send client request r.config.maxRetries 0 0 attemptLimit).bind
      (conclude operation)) s t q s') :
    ∃ p t', Runs moves (send client request r.config.maxRetries 0 0 attemptLimit) s t' p s' ∧
      ∀ result, q = .done result ↔ ∃ o, p = .done o ∧ resultOf? o = some result := by
  rcases h.bind_cases with ⟨p, hp, hq, hsend⟩ | ⟨o, t1, s1, t2, hsend, hconclude⟩
  · refine ⟨p, t, hsend, fun result => ?_⟩
    constructor
    · rintro rfl
      cases hq
    · rintro ⟨o, rfl, -⟩
      cases hp
  · obtain ⟨hothers, hresult⟩ := conclude_runs hconclude
    refine ⟨.done o, t1 ++ t2, hsend.trans (hothers _), fun result => ?_⟩
    rw [hresult result]
    constructor
    · exact fun ho => ⟨o, rfl, ho⟩
    · rintro ⟨o', ho', hresult'⟩
      cases ho'
      exact hresult'

/-- Remote arrays take no time for their turns. -/
theorem timely_dial : LetsDial Rely.timely := fun _ _ _ _ _ _ _ => ⟨Nat.le_refl _, fun _ h => h⟩

/-- The attempts wait for instants only, or for ever. -/
theorem concluding_safe (w : World Deployment) :
    Safe .timely (fun _ => True) ((send client request r.config.maxRetries 0 0 attemptLimit).bind
      (conclude operation)) w := by
  refine Safe.bind (fun o v _ => ?_) (send_safe timely_dial request _ 0 0 attemptLimit)
  cases o with
  | answered payload => trivial
  | failed failure sent => trivial
  | waiting =>
    refine Safe.bind (fun _ _ _ => ?_) (Safe.forever fun _ => .never)
    trivial

/-- **A bound only cuts the attempts off.** A request within its caller's bound comes as far as its
attempts do. It ends with the outcome of the last of them, or is given up in a scene in which the bound
says so; and it has ended once they have. -/
theorem sendWithin_sends (hmoves : ∀ x y, moves x y → TimePasses x.world y.world)
    (h : Runs moves (sendWithin b operation client r request) s t q s') :
    ∃ p t', Runs moves (send client request r.config.maxRetries 0 0 attemptLimit) s t' p s' ∧
      (∀ result, q = .done result →
        (∃ o, p = .done o ∧ resultOf? o = some result) ∨
          ∃ x ∈ s :: t, b.interrupts x.world = true ∧
            result = .error (b.interruption x.world operation)) ∧
      ∀ o result, p = .done o → resultOf? o = some result → ∃ given, q = .done given := by
  rw [sendWithin_eq] at h
  have hbounded := Runs.run_inv (R := Rely.timely) (fun x y hxy _ => hmoves x y hxy)
    (fun x _ => TimePasses.refl x.world) (concluding_safe s.world) h
  obtain ⟨p0, t0, hrun, hq⟩ := hbounded
  obtain ⟨p, t', hsend, hresult⟩ := concluded_runs hrun
  refine ⟨p, t', hsend, fun result hdone => ?_, fun o result hp ho => ?_⟩
  · rcases hq with ⟨-, hq⟩ | hq
    · rw [hdone] at hq
      cases hq
    · rw [hdone] at hq
      rcases hq.of_done with hp0 | ⟨x, hx, hstop, hgiven⟩
      · exact Or.inl ((hresult result).mp hp0)
      · exact Or.inr ⟨x, hx, hstop trivial, hgiven⟩
  · have hp0 : p0 = .done result := (hresult result).mpr ⟨o, hp, ho⟩
    rcases hq with ⟨hbegun, -⟩ | hq
    · -- a request that has not begun has made no attempt
      rw [hp0] at hbegun
      cases hbegun
    · rw [hp0] at hq
      exact hq.ended

end Bounded

/-! ## What may be done twice -/

/-- **No effect is brought about twice.** Requests are sent by the loop of attempts. Whatever becomes of
them, it goes on after an attempt unless that ends them, and is over with the first that does, with its
outcome. An attempt ends them if no other may follow, or if it is the one after all repetitions; so
there is at most one more than those, if their number is not the largest, and then no limit is ever
come to. A call that does something else when it is done twice may have been done in one attempt at
most, and that is the last; and after a response there is none, unless that is a 503. A bound on the
request changes nothing of this but that it may cut the attempts off. -/
theorem send_repeats_safely :
    (∀ (client : Client) (request : RemoteRequest) (maxRetries : UInt32) (limit : Nat),
      send client request maxRetries 0 0 limit =
        repeating request (trying client request) maxRetries 0 0 limit) ∧
    (∀ {σ ε : Type} (moves : Scene σ ε → Scene σ ε → Prop) (make : Nat → Activity σ (Try × Nat))
      (request : RemoteRequest) (maxRetries : UInt32) (limit : Nat) (s s' : Scene σ ε)
      (t : List (Scene σ ε)) (q : Activity σ Outcome),
      Runs moves (repeating request make maxRetries 0 0 limit) s t q s' →
      ∃ xs, Tries moves make 0 s xs s' ∧ Told request maxRetries 0 xs q ∧
        (maxRetries.toNat + 1 < UInt32.size → xs.length ≤ maxRetries.toNat + 1) ∧
        (∀ c : Call, request = Remote.requestOf c → c.isOnceOnly = true →
          ∀ init x rest, xs = init ++ x :: rest → x.fate.mayHaveRun = true → rest = []) ∧
        ∀ init x rest status payload, xs = init ++ x :: rest →
          x.fate = .written (.answered status payload) → status ≠ 503 → rest = []) ∧
    (∀ (x : Try) (request : RemoteRequest) (maxRetries : UInt32) (number : Nat),
      (maxRetries.toNat + 1 < UInt32.size → number ≤ maxRetries.toNat + 1 →
        (x.Ends request maxRetries number ↔
          x.fate.isRepeatable request.method = false ∨ number = maxRetries.toNat + 1)) ∧
      (maxRetries.toNat + 1 = UInt32.size →
        (x.Ends request maxRetries number ↔ x.fate.isRepeatable request.method = false))) ∧
    (∀ {σ : Type} (make : Nat → Activity σ (Try × Nat)) (request : RemoteRequest)
      (maxRetries : UInt32) (limit : Nat), maxRetries.toNat + 1 < UInt32.size →
      maxRetries.toNat + 1 ≤ limit →
      repeating request make maxRetries 0 0 limit =
        repeating request make maxRetries 0 0 (maxRetries.toNat + 1)) ∧
    (∀ c : Call, (Remote.requestOf c).method.isIdempotent = !c.isOnceOnly) ∧
    ∀ {ε : Type} (moves : Scene Deployment ε → Scene Deployment ε → Prop) (b : Bound)
      (operation : String) (client : Client) (r : Remote) (request : RemoteRequest)
      (s s' : Scene Deployment ε) (t : List (Scene Deployment ε))
      (q : Work (Except Failure (List UInt8))),
      (∀ x y, moves x y → TimePasses x.world y.world) →
      Runs moves (sendWithin b operation client r request) s t q s' →
      ∃ p t', Runs moves (send client request r.config.maxRetries 0 0 attemptLimit) s t' p s' ∧
        (∀ result, q = .done result →
          (∃ o, p = .done o ∧ resultOf? o = some result) ∨
            ∃ x ∈ s :: t, b.interrupts x.world = true ∧
              result = .error (b.interruption x.world operation)) ∧
        ∀ o result, p = .done o → resultOf? o = some result → ∃ given, q = .done given := by
  refine ⟨fun client request maxRetries limit => send_eq_repeating client request maxRetries 0 0 limit,
    ?_, fun x request maxRetries number => ⟨fun hmax hnumber => Try.ends_iff hmax hnumber,
      fun hmax => Try.ends_iff_of_largest hmax⟩, ?_, isIdempotent_requestOf, ?_⟩
  · intro σ ε moves make request maxRetries limit s s' t q h
    have h : Runs moves (repeating request make maxRetries (UInt32.ofNat 0) 0 limit) s t q s' := h
    obtain ⟨xs, htries, htold⟩ := repeating_tries h
    refine ⟨xs, htries, htold, fun hmax => htold.length_le hmax, ?_, ?_⟩
    · rintro c rfl honce init x rest hxs hran
      refine htold.last_of_not_repeatable hxs ?_
      rw [method_requestOf honce, ← Bool.not_eq_true]
      intro hrepeat
      rw [Fate.not_mayHaveRun_of_isRepeatable hrepeat] at hran
      cases hran
    · intro init x rest status payload hxs hfate hstatus
      refine htold.last_of_not_repeatable hxs ?_
      rw [← Bool.not_eq_true, hfate]
      exact fun hrepeat => hstatus (Fate.status_of_isRepeatable hrepeat)
  · intro σ make request maxRetries limit hmax hlimit
    obtain ⟨more, rfl⟩ := Nat.exists_eq_add_of_le hlimit
    exact repeating_limit hmax more (Nat.zero_le _) (Nat.le_of_eq (Nat.zero_add _).symm)
  · intro ε moves b operation client r request s s' t q hmoves h
    exact sendWithin_sends hmoves h

/-- Attempts that are complete at once: the first reaches nobody, the others are lost. -/
def losing (number : Nat) : Activity Unit (Try × Nat) :=
  .done (⟨nobody, if number = 0 then .unreachable 1 "a: refused" else .written (.lost "reset")⟩, 0)

/-- A call that attaches a volume. -/
def attaching : Call := .attachVolume ⟨"data", "host"⟩

/-- An array of which one repetition is made at once, and no address can be reached. -/
def cutOff : Remote := ⟨"a", ⟨["ep-0"], none, 3000, 1, 0⟩, ⟨[⟨"ep-0", 0, 0⟩], 0⟩⟩

/-- A deployment with that array. -/
def withCutOff : Deployment :=
  .new 1 .standard ⟨[.remote cutOff], .empty⟩ (.list []) ⟨false, none⟩ (.yearStart 2000)

/-- A volume is not attached once more after an attempt that may have attached it, though another
repetition is left. And a request that reaches nobody ends with the failure of its last dial. -/
theorem attaching_sends_once :
    (∃ xs : List Try, xs.length ≤ 3 ∧
      (∀ init x rest, xs = init ++ x :: rest → x.fate.mayHaveRun = true → rest = []) ∧
      ∃ init x, xs = init ++ [x] ∧
        Outcome.failed (.exchange "reset") true = x.outcome (Remote.requestOf attaching)) ∧
    ∃ p t s', Runs (fun _ _ => False) (send ⟨0⟩ (Remote.requestOf attaching) 1 0 0 attemptLimit)
        (⟨.start withCutOff, ()⟩ : Scene Deployment Unit) t p s' ∧
      ∃ o, p = .done o ∧ resultOf? o = some (.error (.allEndpointsFailed 1
        "ep-0: Network is unreachable (os error 101)")) := by
  obtain ⟨-, hruns, -, -, -, hwithin⟩ := send_repeats_safely
  constructor
  · have hrun := runs_of_result (fun _ _ => False)
      (p := repeating (Remote.requestOf attaching) losing 2 0 0 3) (w := ⟨0, [], 0, ()⟩) ()
      (a := .failed (.exchange "reset") true) rfl
    obtain ⟨xs, -, htold, hlength, honce, -⟩ := hruns _ _ _ _ _ _ _ _ _ hrun
    obtain ⟨init, x, hxs, -, houtcome⟩ := (htold.over_iff _).mp rfl
    exact ⟨xs, hlength (by decide), honce attaching rfl rfl, init, x, hxs, houtcome⟩
  · have hend : ((sendWithin ⟨.root, none⟩ "attach_volume" ⟨0⟩ cutOff
        (Remote.requestOf attaching)).advance (.start withCutOff) false).2.1.result? =
          some (.error (.allEndpointsFailed 1 "ep-0: Network is unreachable (os error 101)")) := by
      decide +kernel
    obtain ⟨p, t, hsend, hresult, -⟩ :=
      hwithin _ _ _ _ _ _ _ _ _ _ (fun _ _ h => h.elim) (runs_of_result (fun _ _ => False) () hend)
    refine ⟨p, t, _, hsend, ?_⟩
    rcases hresult _ rfl with ho | ⟨x, -, -, hgiven⟩
    · exact ho
    · unfold Bound.interruption at hgiven
      split at hgiven <;> cases hgiven

/-- Attempts that are complete at once and reach nobody. -/
def refusing (_ : Nat) : Activity Unit (Try × Nat) :=
  .done (⟨nobody, .unreachable 1 "a: refused"⟩, 0)

/-- The largest number of repetitions. -/
def mostRetries : UInt32 := 4294967295

/-- With the largest number of repetitions, the attempts go on as long as they are followed. -/
theorem refusing_runs (request : RemoteRequest) (w : World Unit) (limit number : Nat) :
    ∃ xs t q, xs.length = limit ∧
      Runs (fun _ _ => False)
        (repeating request refusing mostRetries (UInt32.ofNat number) number limit)
        (⟨w, ()⟩ : Scene Unit Unit) t q ⟨w, ()⟩ ∧
      Tries (fun _ _ => False) refusing number (⟨w, ()⟩ : Scene Unit Unit) xs ⟨w, ()⟩ ∧
      q.result? = none := by
  induction limit generalizing number with
  | zero => exact ⟨[], [], _, rfl, .here _ _, .before (.here _ _), rfl⟩
  | succ limit ih =>
    obtain ⟨xs, t, q, hxs, hrun, htries, hq⟩ := ih (number + 1)
    let x : Try := ⟨nobody, .unreachable 1 "a: refused"⟩
    have hlast : isLastAttempt mostRetries (UInt32.ofNat number + 1) = false :=
      isLastAttempt_largest rfl _
    have hpause : Runs (fun _ _ => False) (Activity.sleep 0) (⟨w, ()⟩ : Scene Unit Unit)
        [⟨w, ()⟩, ⟨w, ()⟩] (.done ()) ⟨w, ()⟩ :=
      .step (.act id _ w) (.step (.wake (decide_eq_true (Nat.le_refl w.clock))) (.here _ _))
    have hnext : repeating request refusing mostRetries (UInt32.ofNat number) number (limit + 1) =
        (Activity.sleep 0).bind fun _ =>
          repeating request refusing mostRetries (UInt32.ofNat (number + 1)) (number + 1) limit := by
      rw [repeating]
      dsimp only [refusing, Activity.bind]
      rw [hlast, UInt32.ofNat_add]
      rfl
    have hlength : (x :: xs).length = limit + 1 := congrArg (· + 1) hxs
    rw [hnext]
    exact ⟨x :: xs, _, q, hlength, hpause.bind hrun, .more (.here _ _) hpause htries, hq⟩

/-- With the largest number of repetitions any number of attempts may be complete, and the request is
not over. And a request whose token is cancelled already ends without an attempt, though its first
would have had another outcome. -/
theorem attempts_without_end :
    (∀ limit : Nat, ∃ (xs : List Try) (t : List (Scene Unit Unit)) (q : Activity Unit Outcome),
      xs.length = limit ∧
      Runs (fun _ _ => False) (repeating (Remote.requestOf attaching) refusing mostRetries 0 0 limit)
        ⟨⟨0, [], 0, ()⟩, ()⟩ t q ⟨⟨0, [], 0, ()⟩, ()⟩ ∧
      Tries (fun _ _ => False) refusing 0 (⟨⟨0, [], 0, ()⟩, ()⟩ : Scene Unit Unit) xs
        ⟨⟨0, [], 0, ()⟩, ()⟩ ∧
      q.result? = none) ∧
    Runs (fun _ _ => False) (sendWithin ⟨⟨[0]⟩, none⟩ "attach_volume" ⟨0⟩ cutOff
        (Remote.requestOf attaching))
      (⟨⟨0, [⟨[0]⟩], 1, withCutOff⟩, ()⟩ : Scene Deployment Unit)
      [⟨⟨0, [⟨[0]⟩], 1, withCutOff⟩, ()⟩]
      (.done (.error (.cancelled "attach_volume"))) ⟨⟨0, [⟨[0]⟩], 1, withCutOff⟩, ()⟩ ∧
    resultOf? (cutOff.attempt withCutOff.network (Remote.requestOf attaching)).2 =
      some (.error (.allEndpointsFailed 1 "ep-0: Network is unreachable (os error 101)")) := by
  refine ⟨fun limit => refusing_runs _ _ limit 0, ?_, by decide +kernel⟩
  exact .step (.act id _ _) (.here _ _)

end Deployment

end FederatedStorage
