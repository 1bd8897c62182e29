import MetricsAgent.Retry.Run
import MetricsAgent.Simulation.TaskSystem

/-!
# Retry runs under the virtual clock

`RetryTrial` is a retry run and the time at which someone fires its token.  The two are the tasks of
`retrySystem`: the run itself, which sleeps while an invocation or a delay lasts, and the one that
fires.  When both are due at the same time, the run has its turn first.

`runRetry` runs until the end, with the token fired before the start, at a time, or never.  A run
whose action never ends would not come to its end; the budget of the driver bounds that.
-/

set_option autoImplicit false

namespace MetricsAgent.Simulation

/-- A retry run and the time at which someone fires its token. -/
structure RetryTrial (α ε : Type) where
  run : RetryRun α ε
  cancelTime : Option Nat

/-- The tasks of a trial. -/
inductive RetryTask where
  | run
  | cancel
  deriving DecidableEq

/-- A retry run beside a task that fires its token. -/
def retrySystem {α ε : Type} (s : RetrySetup α ε) : TaskSystem (RetryTrial α ε) RetryTask where
  tasks _ := [.run, .cancel]
  step
    | .run, t => (t.run.step s).map fun r ↦ { t with run := r }
    | .cancel, t => t.cancelTime.bind fun c ↦
      if c ≤ t.run.now then some ⟨{ t.run with fired := true }, none⟩ else none
  wakeTime
    | .run, t => match t.run.phase with
      | .acting u | .waiting u => some u
      | _ => none
    | .cancel, t => t.cancelTime
  now t := t.run.now
  setNow n t := { t with run := { t.run with now := n } }

/-- Run until the end, with the token fired before the start or at a time. -/
def runRetry {α ε : Type} (s : RetrySetup α ε) (firedBefore : Bool) (cancelTime : Option Nat) :
    RetryRun α ε :=
  ((retrySystem s).await (·.run.outcome?.isSome)
    ⟨{ RetryRun.start with fired := firedBefore }, cancelTime⟩).run

end MetricsAgent.Simulation
