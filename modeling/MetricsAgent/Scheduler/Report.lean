import MetricsAgent.Collector.Registry
import MetricsAgent.Text.Quoted

/-!
# Reports of collection cycles

A cycle ends with a report, or with the failure that aborted it.

* `SchedulerConfig` is how cycles are run: in parallel or not, with how many permits, with which
  limit for a collection, and whether a cancelled cycle leaves its collectors behind.
* `CycleReport` is what a cycle collected and how its collectors fared: how many succeeded, failed,
  ran out of time, were cancelled or were skipped.
* `InvocationEnd` is how one invocation ended, and `CycleReport.record` enters it.  Every end but a
  fatal one is counted in exactly one of the figures.
* `CycleError` is why a cycle was aborted, with a code for programs and a wording for people.

A pool of permits cannot be of any size (`SchedulerConfig.maxPermits`), and a scheduler whose pool
would be too large cannot be built (`SchedulerConfig.isBuildable`).  No number of processors comes
near that bound, but a configuration can.
-/

set_option autoImplicit false

namespace MetricsAgent

/-- How cycles are run. -/
structure SchedulerConfig where
  /-- The collectors of a module run side by side. -/
  parallel : Bool
  /-- At most this many side by side; at least one. -/
  parallelism : Nat
  /-- The time that a collection may take; `none` is any. -/
  timeout : Option Duration
  /-- A fired token ends a cycle without waiting for its collections. -/
  cancelFast : Bool

namespace SchedulerConfig

/-- The time that a collection may take where none is given. -/
def defaultTimeout : Duration := .ofSeconds 5

/-- The number of permits in the pool. -/
def permits (c : SchedulerConfig) : Nat := max 1 c.parallelism

/-- The number of permits that a pool can have: an eighth of the words, less one. -/
def maxPermits : Nat := UInt64.size / 8 - 1

/-- Whether a scheduler can be built: its pool is not too large. -/
def isBuildable (c : SchedulerConfig) : Bool := c.permits ≤ maxPermits

end SchedulerConfig

/-- Why a cycle was aborted. -/
inductive CycleError where
  | unexpected (module collector reason : String)
  | panicked (module text : String)
  deriving DecidableEq, Repr

namespace CycleError

/-- The name of the cause, for programs. -/
def code : CycleError → String
  | unexpected .. => "collector_unexpected_error"
  | panicked .. => "collector_panicked"

/-- The wording of the cause. Tasks have no numbers of their own; an N stands for one. -/
def message : CycleError → String
  | unexpected m c reason => "collector '" ++ m ++ "/" ++ c ++ "' failed unexpectedly: " ++ reason
  | panicked m text =>
    "collector task in module '" ++ m ++
    "' panicked: task N panicked with message " ++ quotedText text

end CycleError

/-- Whether a cycle ran to its end or was cancelled. -/
inductive CycleOutcome where
  | completed
  | cancelled
  deriving DecidableEq, Repr, Inhabited

/-- The name of an outcome. -/
def CycleOutcome.name : CycleOutcome → String
  | completed => "completed"
  | cancelled => "cancelled"

/-- What a cycle collected, and how its collectors fared. -/
structure CycleReport where
  measurements : List Measurement
  outcome : CycleOutcome
  succeeded : Nat
  /-- Ended with an expected error. -/
  failed : Nat
  timedOut : Nat
  cancelled : Nat
  /-- Not started, because of the token. -/
  skipped : Nat

namespace CycleReport

/-- Nothing collected yet. -/
def new : CycleReport := ⟨[], .completed, 0, 0, 0, 0, 0⟩

/-- Whether the cycle was cancelled. -/
def isCancelled (r : CycleReport) : Bool := r.outcome = .cancelled

/-- Skip collectors. -/
def skip (r : CycleReport) (n : Nat) : CycleReport := { r with skipped := r.skipped + n }

end CycleReport

/-- How an invocation of a collector ended. -/
inductive InvocationEnd where
  | collected (batch : List Measurement)
  | failed
  | timedOut
  | cancelled
  | fatal (e : CycleError)
  /-- Stopped from outside, after another invocation's fatal end or because nobody waits any
  more. -/
  | aborted

/-- Enter the end of an invocation. A fatal end is no part of a report. -/
def CycleReport.record (r : CycleReport) : InvocationEnd → CycleReport
  | .collected batch =>
    { r with succeeded := r.succeeded + 1, measurements := r.measurements ++ batch }
  | .failed => { r with failed := r.failed + 1 }
  | .timedOut => { r with timedOut := r.timedOut + 1 }
  | .cancelled | .aborted => { r with cancelled := r.cancelled + 1 }
  | .fatal _ => r

end MetricsAgent
