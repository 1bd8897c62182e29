import MetricsAgent.Retry.Policy

/-!
# Retry runs

An action is invoked until it succeeds, fails for good, or has used up its retries, or until the run
is cancelled.  Cancellation is looked at before each invocation and during each delay, never while
an invocation is in flight.

* `RetrySetup` is what a run works with.  The action is given as a function: how long its `n`-th
  invocation takes, what comes of it, and whether it fires the token of the run on the way.  So is
  the callback that is told of each retry, which may crash without harm.
* `RetryRun` is the state of a run: where it stands, the clock, and everything it did so far — its
  invocations, what the callback was told, its delays with the windows they were drawn from.
* `RetryRun.step` is the stretch from one point where the run may have to wait to the next.
* Time passes and the token fires between stretches, in any way: `RetryRun.Reachable` holds the
  states of all runs.

What a run did is part of its state, rather than of a trace beside it, because a run is short and
everything that one wants to know of it is about its end (`RetryRun.outcome?`).  `RetryError` tells
a run that was cancelled from one that has failed for good and from one that has used up its
retries.
-/

set_option autoImplicit false

namespace MetricsAgent

/-- How a retry run failed. -/
inductive RetryError (ε : Type) where
  | cancelled
  | exhausted (attempts : Nat) (error : ε)
  | fatal (attempts : Nat) (error : ε)
  deriving DecidableEq

namespace RetryError

variable {ε : Type}

/-- The wording of a failure. -/
def message (describe : ε → String) : RetryError ε → String
  | cancelled => "retry cancelled"
  | exhausted n e => s!"retries exhausted after {n} attempts: " ++ describe e
  | fatal n e => s!"non-transient failure after {n} attempts: " ++ describe e

/-- Whether the run was cancelled. -/
def isCancelled : RetryError ε → Bool
  | cancelled => true
  | _ => false

/-- The number of invocations, where it is told. -/
def attempts? : RetryError ε → Option Nat
  | cancelled => none
  | exhausted n _ | fatal n _ => some n

/-- The last error of the action. -/
def inner? : RetryError ε → Option ε
  | cancelled => none
  | exhausted _ e | fatal _ e => some e

end RetryError

/-- What a callback did. A crash is swallowed. -/
inductive Callback where
  | returned
  | crashed
  deriving DecidableEq, Repr

/-- What a retry run works with: the policy, the classifier, and for each invocation its duration in
milliseconds and its result. Invocations and callbacks may fire the token. -/
structure RetrySetup (α ε : Type) where
  policy : RetryPolicy
  isTransient : ε → Bool
  result : Nat → Except ε α
  actionMs : Nat → Nat
  actionCancels : Nat → Bool
  callback : Nat → ε → Callback
  callbackCancels : Nat → Bool

namespace RetryRun

/-- Where a run stands. -/
inductive Phase (α ε : Type) where
  /-- Before an invocation. -/
  | deciding
  /-- In an invocation. -/
  | acting (until_ : Nat)
  /-- In a delay. -/
  | waiting (until_ : Nat)
  | ended (outcome : Except (RetryError ε) α)

end RetryRun

/-- A retry run: the clock, whether the token has fired, where it stands, and what it did so far. -/
structure RetryRun (α ε : Type) where
  now : Nat
  fired : Bool
  phase : RetryRun.Phase α ε
  retries : Nat
  /-- The numbers of the invocations. -/
  calls : List Nat
  /-- The calls of the callback: the number of the retry and the error that caused it. -/
  notices : List (Nat × ε)
  /-- The delays begun. -/
  backoffs : List Backoff

namespace RetryRun

variable {α ε : Type}

/-- Before the first invocation. -/
def start : RetryRun α ε := ⟨0, false, .deciding, 0, [], [], []⟩

/-- The number of times the jitter source was asked. -/
def asked (r : RetryRun α ε) : Nat := (r.backoffs.filter (·.asked)).length

/-- The windows that the jitter source was asked about. -/
def windows (r : RetryRun α ε) : List Duration := (r.backoffs.filter (·.asked)).map (·.window)

/-- An invocation failed. -/
def afterFailure (s : RetrySetup α ε) (r : RetryRun α ε) (e : ε) : RetryRun α ε :=
  match s.policy.decision r.retries (s.isTransient e) with
  | .fatal => { r with phase := .ended (.error (.fatal (r.retries + 1) e)) }
  | .exhausted => { r with phase := .ended (.error (.exhausted (r.retries + 1) e)) }
  | .retry =>
    let n := r.retries + 1
    match s.callback n e with
    | .returned | .crashed =>
      let b := s.policy.backoff r.asked n
      { r with
        retries := n
        notices := r.notices ++ [(n, e)]
        fired := r.fired || s.callbackCancels n
        backoffs := r.backoffs ++ [b]
        phase := .waiting (r.now + b.delay.ceilMillis) }

/-- The next stretch; `none` while an invocation or a delay lasts, and after the end. -/
def step (s : RetrySetup α ε) (r : RetryRun α ε) : Option (RetryRun α ε) :=
  match r.phase with
  | .deciding =>
    if r.fired then some { r with phase := .ended (.error .cancelled) }
    else
      let n := r.retries + 1
      some { r with
        calls := r.calls ++ [n]
        fired := r.fired || s.actionCancels n
        phase := .acting (r.now + s.actionMs n) }
  | .acting t =>
    if r.now < t then none
    else
      match s.result (r.retries + 1) with
      | .ok x => some { r with phase := .ended (.ok x) }
      | .error e => some (r.afterFailure s e)
  | .waiting t =>
    if r.fired then some { r with phase := .ended (.error .cancelled) }
    else if r.now < t then none
    else some { r with phase := .deciding }
  | .ended _ => none

/-- How the run ended. -/
def outcome? (r : RetryRun α ε) : Option (Except (RetryError ε) α) :=
  match r.phase with
  | .ended o => some o
  | _ => none

/-- The states of all runs: stretches, time that passes, and the token that fires at any moment. -/
inductive Reachable (s : RetrySetup α ε) : RetryRun α ε → Prop where
  | start : Reachable s start
  | step {r r' : RetryRun α ε} (h : Reachable s r) (e : r.step s = some r') : Reachable s r'
  | elapse {r : RetryRun α ε} (h : Reachable s r) (ms : Nat) :
    Reachable s { r with now := r.now + ms }
  | fire {r : RetryRun α ε} (h : Reachable s r) : Reachable s { r with fired := true }

end RetryRun

end MetricsAgent
