import MetricsAgent.Duration.Basic

/-!
# Backoff

After the `n`-th failure a retry waits for a random time below a window.  The window doubles with
each failure up to a limit; where the factor or the product leaves its range, the window is the
limit.

* `RetryPolicy` is the number of retries, the first window, the limit, and a source of jitter.  The
  source is a function of how often it has been asked and of the window, so that a statement about
  all policies is one about all sequences of random numbers.
* `backoffWindow` is the window after the `n`-th failure.  The factor is a number of 32 bits
  (`factor?`), which `2 ^ n` is for `n` up to 31, and the product has to be a duration.
* `backoff` asks the source.  An empty window needs none, and whatever a source answers is cut to
  the longest delay below the window (`below`).
* `decision` is what follows from a failure: another attempt, or the end with the last error.

The window is meant to be the least of the limit and the base multiplied by a power of two, and so
it is except where the base is zero: `MetricsAgent.Proofs.Retry.Window` has the exact condition.
-/

set_option autoImplicit false

namespace MetricsAgent

/-- How often to retry, and how long to wait before. The `k`-th delay that is asked of the jitter
source lies below the window it is given; a source that does not keep to that is cut. -/
structure RetryPolicy where
  maxAttempts : Nat
  baseDelay : Duration
  maxDelay : Duration
  jitter : Nat → Duration → Duration

/-- A delay, the window below which it lies, and whether the jitter source was asked. -/
structure Backoff where
  window : Duration
  delay : Duration
  asked : Bool
  deriving DecidableEq

namespace RetryPolicy

/-- The retries where no number is given. -/
def defaultMaxAttempts : Nat := 3

/-- The first window where none is given. -/
def defaultBaseDelay : Duration := .ofMillis 100

/-- The greatest window where none is given. -/
def defaultMaxDelay : Duration := .ofSeconds 10

/-- The factor of the `n`-th window is a 32-bit number. -/
def factor? (n : Nat) : Option Nat := if n < 32 then some (Nat.pow 2 n) else none

/-- The window after the `n`-th failure. -/
def backoffWindow (p : RetryPolicy) (n : Nat) : Duration :=
  match (factor? n).bind p.baseDelay.times? with
  | some d => if d ≤ p.maxDelay then d else p.maxDelay
  | none => p.maxDelay

/-- The longest delay below a window. -/
def below (window : Duration) : Duration := window.minus (.ofNanos 1)

/-- The delay after the `n`-th failure, when the source has been asked `asked` times before. An
empty window needs no source. -/
def backoff (p : RetryPolicy) (asked n : Nat) : Backoff :=
  let window := p.backoffWindow n
  if window = .zero then ⟨window, .zero, false⟩
  else
    let d := p.jitter asked window
    ⟨window, if d ≤ below window then d else below window, true⟩

/-- What follows from a failure. -/
inductive Decision where
  /-- The failure is final. -/
  | fatal
  /-- There are no retries left. -/
  | exhausted
  | retry
  deriving DecidableEq, Repr

/-- Decide about a failure after a number of retries. -/
def decision (p : RetryPolicy) (retries : Nat) (transient : Bool) : Decision :=
  if !transient then .fatal else if p.maxAttempts ≤ retries then .exhausted else .retry

end RetryPolicy

/-- Sources of jitter. -/
inductive Jitter where
  /-- No delay. -/
  | none
  /-- The whole window. -/
  | whole
  /-- Half of the window. -/
  | half
  /-- The same whatever the window. -/
  | fixed (d : Duration)

/-- The delay that a source answers. -/
def Jitter.sample (j : Jitter) (window : Duration) : Duration :=
  match j with
  | .none => .zero
  | .whole => window
  | .half => ⟨window.nanos / 2, Nat.lt_of_le_of_lt (Nat.div_le_self _ _) window.nanos_lt⟩
  | .fixed d => d

end MetricsAgent
