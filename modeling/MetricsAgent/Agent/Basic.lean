import MetricsAgent.Agent.Ticker
import MetricsAgent.Export.Error
import MetricsAgent.Sampling.Policy
import MetricsAgent.Scheduler.Cycle
import MetricsAgent.SelfMetrics.Snapshot

/-!
# The agent

An agent runs cycles, thins their measurements out by a sampling policy, adds its own metrics, and
hands the batches to its exporters.  A *call* is one cycle with what follows it; a *loop* makes a
call at every tick of its ticker, until its token fires.

## What is here

* `AgentSetup` is what an agent works with and never changes: the setup of its scheduler, its
  options, its policy and its exporters.  `Agent` is its state, which contains the state of the
  scheduler.
* `Agent.refine` is what becomes of the batch of a report: the policy thins it out, and the agent's
  own metrics are put behind it, as they stand when the cycle is over.
* `Agent.handOver` gives a batch to the next exporter.  An export takes a time of its own or never
  ends (`ExportCall`), and in the meantime every other task of the agent may go on.  Whatever an
  exporter answers, the next one gets the same batch.
* `Agent.stepCall` and `Agent.stepLoop` are the turns of a call and of a loop, and `Agent.step` puts
  them beside the turns of the scheduler's tasks.
* `Agent.Reachable` holds the states that some order of calls, turns, firings and passing time leads
  to.

A turn is the stretch of a task up to the next point where it may have to wait, and `none` says that
the task has to wait now.  Nothing here decides which task comes next: a driver may take any order,
and what is proved of the agent holds for all of them.  A loop looks at its token only between two
ticks.  A tick that has begun comes to its end, its exports included, though its cycle looks at the
same token.
-/

set_option autoImplicit false

namespace MetricsAgent

/-- What comes of handing a batch to an exporter: how long that takes, in milliseconds, if it ever
ends, and the result. -/
structure ExportCall where
  waitMs : Option Nat
  result : Except ExportError ExportSummary

/-- Something that takes batches. -/
structure Exporter where
  name : String
  /-- What comes of a batch, by the number of the cycle it was collected in. -/
  take : Nat → List Measurement → ExportCall

/-- How an agent works. -/
structure AgentOptions where
  interval : Duration
  /-- Add the agent's own metrics to every batch. -/
  selfMetrics : Bool
  /-- What the names of the agent's own metrics begin with. -/
  lead : String

namespace AgentOptions

/-- The time between two ticks where none is given. -/
def defaultInterval : Duration := .ofSeconds 15

/-- What the names of the agent's own metrics begin with where nothing is given. -/
def defaultLead : String := "metron_"

/-- Every fifteen seconds, with the agent's own metrics. -/
def default : AgentOptions := ⟨defaultInterval, true, defaultLead⟩

/-- Whether a loop can be started. -/
def isRunnable (o : AgentOptions) : Bool := o.interval ≠ .zero

end AgentOptions

/-- What an agent works with. -/
structure AgentSetup where
  scheduler : SchedulerSetup
  options : AgentOptions
  policy : SamplingPolicy
  exporters : List Exporter

namespace Agent

/-- Where a call stands. -/
inductive CallPhase where
  | running
  /-- The batch is in the report. -/
  | collected (result : Except CycleError CycleReport)
  /-- An exporter has the batch until a time, if not forever, and the rest of them are still to get
  it. -/
  | exporting (batch : List Measurement) (e : Exporter) (rest : List Exporter) (until? : Option Nat)
  /-- That many measurements were handed to the exporters, if any were. -/
  | exported (count : Option Nat)

/-- Whether a call has not ended yet. -/
def CallPhase.isUnderWay : CallPhase → Bool
  | running | exporting .. => true
  | collected _ | exported _ => false

/-- One cycle, with the number of the cycle, and what follows it. -/
structure Call where
  cycle : Nat
  /-- Hand the batch to the exporters. -/
  exports : Bool
  phase : CallPhase

/-- Where a loop stands. -/
inductive LoopPhase where
  | waiting
  | ticking (cycle : Nat)
  | stopped
  deriving DecidableEq, Repr

/-- Calls at the ticks of a ticker. -/
structure Loop where
  id : Nat
  token : Nat
  ticker : Ticker
  phase : LoopPhase

/-- Something that happened. -/
inductive Event where
  /-- A loop took the tick that was due at `deadline`. -/
  | ticked (loop deadline : Nat)
  /-- An exporter got the batch of a cycle. -/
  | handed (cycle : Nat) (exporter : String) (batch : List Measurement)
  /-- It has answered. -/
  | answered (cycle : Nat) (exporter : String) (result : Except ExportError ExportSummary)

end Agent

/-- An agent: its scheduler, the random numbers used so far, the calls, the loops, and the
history. -/
structure Agent where
  scheduler : Scheduler
  drawn : Nat
  calls : List Agent.Call
  loops : List Agent.Loop
  history : History Agent.Event

namespace Agent

/-- An agent at rest. -/
def start (s : AgentSetup) (metrics : SelfMetrics) : Agent :=
  ⟨.start s.scheduler metrics, 0, [], [], .empty⟩

/-- The time. -/
def now (a : Agent) : Nat := a.scheduler.now

/-- Write into the history. -/
def note (a : Agent) (e : Event) : Agent := { a with history := a.history.push a.now e }

/-- Replace a call. -/
def putCall (a : Agent) (c : Call) : Agent :=
  { a with calls := a.calls.map fun d ↦ if d.cycle = c.cycle then c else d }

/-- Replace a loop. -/
def putLoop (a : Agent) (l : Loop) : Agent :=
  { a with loops := a.loops.map fun k ↦ if k.id = l.id then l else k }

/-- Begin a call under a token. Its number is that of its cycle. -/
def call (a : Agent) (token : Nat) (exports : Bool) : Agent :=
  { a with
    scheduler := a.scheduler.call token
    calls := a.calls ++ [⟨a.scheduler.next, exports, .running⟩] }

/-- A report whose batch is thinned out, with the agent's own metrics after it. Answers the number
of random numbers used too. -/
def refine (s : AgentSetup) (metrics : SelfMetrics) (drawn : Nat) (r : CycleReport) :
    CycleReport × Nat :=
  let applied := s.policy.apply drawn r.measurements
  let own := if s.options.selfMetrics then metrics.snapshot.toMeasurements s.options.lead else []
  ({ r with measurements := applied.left ++ own }, applied.drawn)

/-- Hand a batch to the first of some exporters; the call ends when there is none. -/
def handOver (a : Agent) (c : Call) (batch : List Measurement) : List Exporter → Agent
  | [] => a.putCall { c with phase := .exported (some batch.length) }
  | e :: rest =>
    let until? := (e.take c.cycle batch).waitMs.map (a.now + ·)
    (a.note (.handed c.cycle e.name batch)).putCall
    { c with phase := .exporting batch e rest until? }

/-- What follows a cycle. -/
def finishCall (s : AgentSetup) (a : Agent) (c : Call) (r : Except CycleError CycleReport) :
    Agent :=
  let a := { a with scheduler := a.scheduler.drop c.cycle }
  match r with
  | .error e =>
    a.putCall { c with phase := if c.exports then .exported none else .collected (.error e) }
  | .ok r =>
    let (r, drawn) := refine s a.scheduler.metrics a.drawn r
    let a := { a with drawn := drawn }
    if !c.exports then a.putCall { c with phase := .collected (.ok r) }
    else if r.isCancelled then a.putCall { c with phase := .exported none }
    else a.handOver c r.measurements s.exporters

/-- The turn of a call; `none` while its cycle runs, while an exporter has its batch, and after its
end. Whatever an exporter answers, the next one gets the batch. -/
def stepCall (s : AgentSetup) (a : Agent) (c : Call) : Option Agent :=
  match c.phase with
  | .running => (a.scheduler.result? c.cycle).map (a.finishCall s c)
  | .exporting batch e rest until? =>
    if until?.any (· ≤ a.now) then
      some ((a.note (.answered c.cycle e.name (e.take c.cycle batch).result)).handOver c batch rest)
    else none
  | .collected _ | .exported _ => none

/-- The turn of a loop; `none` while it has to wait and after its end. -/
def stepLoop (a : Agent) (l : Loop) : Option Agent :=
  match l.phase with
  | .waiting =>
    if a.scheduler.isFired l.token then some (a.putLoop { l with phase := .stopped })
    else if l.ticker.isDue a.now then
      some (((a.note (.ticked l.id l.ticker.deadline)).call l.token true).putLoop
        { l with ticker := l.ticker.advance a.now, phase := .ticking a.scheduler.next })
    else none
  | .ticking cycle =>
    if (a.calls.find? (·.cycle = cycle)).any (·.phase.isUnderWay) then none
    else some
      ({ a with calls := a.calls.filter (·.cycle ≠ cycle) }.putLoop { l with phase := .waiting })
  | .stopped => none

/-- The tasks of an agent. -/
inductive TaskId where
  | scheduler (t : Scheduler.TaskId)
  | call (cycle : Nat)
  | loop (id : Nat)
  deriving DecidableEq, Repr

/-- The turn of a task. -/
def step (s : AgentSetup) (t : TaskId) (a : Agent) : Option Agent :=
  match t with
  | .scheduler t => (a.scheduler.step s.scheduler t).map fun w ↦ { a with scheduler := w }
  | .call cycle => (a.calls.find? (·.cycle = cycle)).bind (a.stepCall s)
  | .loop id => (a.loops.find? (·.id = id)).bind a.stepLoop

/-- Start a loop under a token. -/
def startLoop (s : AgentSetup) (a : Agent) (token : Nat) : Agent :=
  let ticker := Ticker.start s.options.interval.ceilMillis a.now
  { a with loops := a.loops ++ [⟨a.loops.length, token, ticker, .waiting⟩] }

/-- A token fires. -/
def cancel (a : Agent) (token : Nat) : Agent := { a with scheduler := a.scheduler.cancel token }

/-- Time passes. -/
def elapse (a : Agent) (ms : Nat) : Agent := { a with scheduler := a.scheduler.elapse ms }

/-- Someone stops waiting for a call. -/
def drop (a : Agent) (cycle : Nat) : Agent :=
  { a with scheduler := a.scheduler.drop cycle, calls := a.calls.filter (·.cycle ≠ cycle) }

/-- The states that some order of events leads to. -/
inductive Reachable (s : AgentSetup) (metrics : SelfMetrics) : Agent → Prop where
  | start : Reachable s metrics (start s metrics)
  | call {a : Agent} (h : Reachable s metrics a) (token : Nat) (exports : Bool) :
    Reachable s metrics (a.call token exports)
  | startLoop {a : Agent} (h : Reachable s metrics a) (token : Nat) :
    Reachable s metrics (a.startLoop s token)
  | cancel {a : Agent} (h : Reachable s metrics a) (token : Nat) :
    Reachable s metrics (a.cancel token)
  | elapse {a : Agent} (h : Reachable s metrics a) (ms : Nat) : Reachable s metrics (a.elapse ms)
  | drop {a : Agent} (h : Reachable s metrics a) (cycle : Nat) : Reachable s metrics (a.drop cycle)
  | step {a a' : Agent} (h : Reachable s metrics a) (t : TaskId) (e : a.step s t = some a') :
    Reachable s metrics a'

/-- Until when a task sleeps. -/
def wakeTime (t : TaskId) (a : Agent) : Option Nat :=
  match t with
  | .scheduler t => a.scheduler.wakeTime t
  | .call cycle =>
    (a.calls.find? (·.cycle = cycle)).bind fun c ↦ match c.phase with
      | .exporting _ _ _ until? => until?
      | _ => none
  | .loop id =>
    (a.loops.find? (·.id = id)).bind fun l ↦ match l.phase with
      | .waiting => some l.ticker.deadline
      | _ => none

end Agent

end MetricsAgent
