import MetricsAgent.Proofs.Agent.Tick
import MetricsAgent.Proofs.Scheduler.Counting

/-!
# Calls that only collect

A call whose batch does not go to the exporters keeps what it has collected, for the one who waits
for it.  Until someone takes it, the call tells by which counter its cycle was counted
(`Agent.counted?`).

What it collects is `Agent.gather`: what the sampling policy keeps of the batch, with the agent's
own metrics behind it, or the error of the cycle.  `Agent.calls_finishCall` says that the turn at
the end of the cycle puts this into the call and does nothing else to the calls.

The rest says how `Agent.counted?` changes.  While the cycle goes on it is what the cycle says of
itself, and once the call has settled it is what the result says, which is the same.  It changes
neither because other calls begin, settle or are dropped, nor because this one settles.  So a count
of calls by their counters changes only in turns of the scheduler, and when a call is taken away.

The lemmas are about any agent, and are used for servers, in which all calls are of this kind.
-/

set_option autoImplicit false

namespace MetricsAgent

namespace Agent

/-- What a call collects, by the result of its cycle: what the sampling policy keeps of the batch,
with the agent's own metrics behind it. -/
def gather (s : AgentSetup) (a : Agent) (r : Except CycleError CycleReport) :
    Except CycleError CycleReport :=
  r.map fun report ↦
    { report with
      measurements :=
        s.policy.kept a.drawn report.measurements ++ ownMetrics s a.scheduler.metrics }

/-- The counter that has counted the cycle of a call. -/
def counted? (a : Agent) (n : Nat) : Option Scheduler.CycleCounter :=
  (a.call? n).bind fun c ↦ match c.phase with
    | .running => a.scheduler.counter? n
    | .collected r => some (.of r)
    | .exporting .. | .exported _ => none

/-- The batch of a call does not go to the exporters, and has not gone to them. -/
structure Call.Collects (c : Call) : Prop where
  exports : c.exports = false
  phase : c.phase = .running ∨ ∃ r, c.phase = .collected r

section Calls

variable {s : AgentSetup} {a a' : Agent} {c : Call}

theorem of_gather (s : AgentSetup) (a : Agent) (r : Except CycleError CycleReport) :
    Scheduler.CycleCounter.of (gather s a r) = .of r := by
  cases r <;> rfl

/-- A call whose batch does not go to the exporters keeps what it has collected. -/
theorem calls_finishCall (collects : c.exports = false) (r : Except CycleError CycleReport) :
    (a.finishCall s c r).calls =
      a.calls.map fun d ↦
      if d.cycle = c.cycle then { c with phase := .collected (gather s a r) } else d := by
  cases r with
  | error e =>
    rw [finishCall, collects]
    rfl
  | ok report =>
    simp only [finishCall, refine_eq, collects, Bool.not_false, if_true,
      (Scheduler.drop_drops a.scheduler c.cycle).metrics]
    rfl

theorem call?_finishCall (there : a.call? c.cycle = some c) (collects : c.exports = false)
    (r : Except CycleError CycleReport) :
    (a.finishCall s c r).call? c.cycle = some { c with phase := .collected (gather s a r) } := by
  rw [call?, calls_finishCall collects]
  let after : Call := { c with phase := .collected (gather s a r) }
  exact @Keyed.find?_replace _ Call.cycle _ c after there

theorem runs_finishCall (there : a.call? c.cycle = some c) (collects : c.exports = false)
    (r : Except CycleError CycleReport) : (a.finishCall s c r).runs c.cycle = false := by
  rw [runs, call?_finishCall there collects r]
  rfl

/-- Where nothing is exported, what is under way of a call is its cycle. -/
theorem Call.Collects.running_of_isUnderWay (h : c.Collects)
    (underWay : c.phase.isUnderWay = true) : c.phase = .running := by
  rcases h.phase with running | ⟨r, collected⟩
  · exact running
  · rw [collected] at underWay
    cases underWay

theorem counted?_of_running {n : Nat} (there : a.call? n = some c) (running : c.phase = .running) :
    a.counted? n = a.scheduler.counter? n := by
  rw [counted?, there, Option.bind_some, running]

theorem counted?_of_collected {n : Nat} {r : Except CycleError CycleReport}
    (there : a.call? n = some c) (collected : c.phase = .collected r) :
    a.counted? n = some (.of r) := by
  rw [counted?, there, Option.bind_some, collected]

/-- Where a call and its cycle stay as they are, the cycle stays counted as it was. -/
theorem counted?_congr {n : Nat} (call : a'.call? n = a.call? n)
    (counter : a'.scheduler.counter? n = a.scheduler.counter? n) :
    a'.counted? n = a.counted? n := by
  rw [counted?, call, counter, counted?]

/-- No cycle is counted because a call begins. -/
theorem counted?_call (numbered : Numbered a) (inner : Scheduler.Numbered a.scheduler)
    (token n : Nat) : (a.call token false).counted? n = a.counted? n := by
  have counter : (a.call token false).scheduler.counter? n = a.scheduler.counter? n :=
    inner.counter?_call token n
  by_cases new : n = a.scheduler.next
  · have fresh : a.scheduler.next ≤ n := Nat.le_of_eq new.symm
    have after := (numbered.call?_call token false n).trans (if_pos new)
    rw [counted?_of_running after rfl, counter, counted?, numbered.call?_fresh fresh,
      Scheduler.counter?, (inner.fresh n fresh).1]
    rfl
  · exact counted?_congr ((numbered.call?_call token false n).trans (if_neg new)) counter

/-- No cycle is counted because a call settles. -/
theorem counted?_finishCall (there : a.call? c.cycle = some c) (running : c.phase = .running)
    (collects : c.exports = false) {r : Except CycleError CycleReport}
    (returned : a.scheduler.result? c.cycle = some r) (n : Nat) :
    (a.finishCall s c r).counted? n = a.counted? n := by
  by_cases own : n = c.cycle
  · subst own
    rw [counted?_of_collected (call?_finishCall there collects r) rfl, of_gather,
      counted?_of_running there running, Scheduler.counter?_of_result returned]
  · refine counted?_congr ((finishCall_moves s a running r).call?_of_ne (Ne.symm own)) ?_
    rw [scheduler_finishCall s a running]
    exact (Scheduler.drop_drops a.scheduler c.cycle).counter? own

/-- Whether other cycles were counted does not change when nobody waits for a call any more. -/
theorem counted?_drop {n k : Nat} (other : k ≠ n) : (a.drop n).counted? k = a.counted? k :=
  counted?_congr ((Keyed.find?_filter_ne a.calls k n).trans (if_neg other))
    ((Scheduler.drop_drops a.scheduler n).counter? other)

end Calls

end Agent

end MetricsAgent
