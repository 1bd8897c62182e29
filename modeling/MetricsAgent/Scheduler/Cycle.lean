import MetricsAgent.History
import MetricsAgent.Scheduler.Report
import MetricsAgent.SelfMetrics.Basic

/-!
# Collection cycles

A scheduler runs any number of cycles over one registry.  A cycle passes a gate that lets one cycle
through at a time; then it visits the modules in order, runs the hooks and the collectors of each,
and gathers what the collectors give.  Each collector runs as a task of its own, an *invocation*.
In parallel mode an invocation needs a permit from a pool.  The gate stays shut until the cycle and
all of its invocations are gone.

## What is here

* `Gate` is the gate with the cycles that wait at it.  It counts shares: one is held by the cycle
  that was let through, and one by each of its invocations.
* `Invocation` and `Cycle` are the two kinds of tasks, each with a phase that says where it stands.
* `Scheduler.stepInvocation` and `Scheduler.stepCycle` are their turns: the stretch up to the next
  point where the task may have to wait, or `none` while it has to.
* `Scheduler.call`, `Scheduler.cancel`, `Scheduler.drop` and `Scheduler.elapse` are what happens
  from outside: someone calls for a cycle, a token fires, someone stops waiting, time passes.
* `Scheduler.Reachable` holds the states that some order of all these leads to.

The order of turns is left open.  An invocation that has ended does not enter its result by itself:
it is put in line (`Cycle.arrived`), and the cycle enters it when its turn comes, so that results
are taken in the order in which the invocations ended.

A cycle that is dropped tells its invocations to stop and gives back its own share of the gate.  The
invocations give theirs back when their turn comes, and only then the next cycle is let through.
-/

set_option autoImplicit false

namespace MetricsAgent

namespace Scheduler

/-- The gate: the cycle that is let through, the number of its shares (its own and one for each of
its invocations), and the cycles that wait, the first one in front. -/
structure Gate where
  holder : Option Nat
  shares : Nat
  queue : List Nat
  deriving DecidableEq, Repr

namespace Gate

/-- Nobody is let through. -/
def new : Gate := ⟨none, 0, []⟩

/-- Let the next cycle through. -/
def handOver (g : Gate) : Gate :=
  match g.queue with
  | [] => ⟨none, 0, []⟩
  | c :: rest => ⟨some c, 1, rest⟩

/-- A cycle arrives: it is let through, or it waits. -/
def arrive (g : Gate) (c : Nat) : Gate :=
  if g.holder.isNone then ⟨some c, 1, g.queue⟩ else { g with queue := g.queue ++ [c] }

/-- Take another share. -/
def share (g : Gate) : Gate := { g with shares := g.shares + 1 }

/-- Give a share back. The last one lets the next cycle through. -/
def release (g : Gate) : Gate :=
  if g.shares ≤ 1 then g.handOver else { g with shares := g.shares - 1 }

/-- A cycle that has not passed the gate goes away. -/
def leave (g : Gate) (c : Nat) : Gate :=
  if g.holder = some c then g.handOver else { g with queue := g.queue.filter (· ≠ c) }

end Gate

/-- A collector on its way through a cycle, with the name of its module. -/
structure Target where
  module : String
  collector : Collector

/-- Where an invocation stands. -/
inductive InvocationPhase where
  /-- Spawned, but without a turn so far. -/
  | spawned
  /-- In its call, which began at `started`, wakes at `wake` and may last until `limit`. -/
  | collecting (b : Behaviour) (started : Nat) (wake limit : Option Nat)

/-- A task that calls a collector for a cycle. -/
structure Invocation where
  id : Nat
  cycle : Nat
  /-- The token of the cycle. -/
  token : Nat
  target : Target
  /-- It holds a permit of the pool. -/
  pooled : Bool
  /-- It was told to stop, and does so at its next turn. -/
  aborting : Bool
  phase : InvocationPhase

/-- Where a cycle stands. `rest` are the modules after the current one. -/
inductive CyclePhase where
  /-- Before the gate, without a turn so far. -/
  | arriving
  /-- In the queue of the gate. -/
  | queued
  | visiting (rest : List CollectorModule)
  /-- In the hook before the collectors. -/
  | opening (m : CollectorModule) (rest : List CollectorModule) (until_ : Nat)
  /-- In parallel mode, with collectors left to be started. -/
  | spawning (m : CollectorModule) (left : List Collector) (rest : List CollectorModule)
  /-- In parallel mode, with all collectors started. -/
  | joining (m : CollectorModule) (failure : Option CycleError) (rest : List CollectorModule)
  /-- In sequential mode, before the next collector. -/
  | starting (m : CollectorModule) (left : List Collector) (rest : List CollectorModule)
  /-- In sequential mode, with an invocation under way. -/
  | awaiting (m : CollectorModule) (left : List Collector) (rest : List CollectorModule)
  /-- In the hook after the collectors. -/
  | closing (m : CollectorModule) (failure : Option CycleError) (rest : List CollectorModule)
      (until_ : Nat)
  | ended (result : Except CycleError CycleReport)

/-- A cycle: its token, where it stands, its report so far, and the invocations that have ended and
wait to be entered, the first one in front. -/
structure Cycle where
  id : Nat
  token : Nat
  phase : CyclePhase
  report : CycleReport
  arrived : List (Target × InvocationEnd)

/-- Something that happened. -/
inductive Event where
  | before (cycle : Nat) (module : String)
  | spawned (cycle : Nat) (t : Target)
  | started (cycle : Nat) (t : Target) (cancelled : Bool)
  /-- The wait of a call ended because of its token. -/
  | gaveUp (cycle : Nat) (t : Target)
  /-- A call came to its end. -/
  | ended (cycle : Nat) (t : Target)
  /-- An invocation is gone. -/
  | gone (cycle : Nat) (t : Target) (e : InvocationEnd)
  | after (cycle : Nat) (module : String)
  | closed (cycle : Nat)

end Scheduler

/-- What a scheduler works with. -/
structure SchedulerSetup where
  registry : Registry
  config : SchedulerConfig

/-- A scheduler: the clock, the gate, the free permits, the metrics, the cycles, the invocations,
the tokens that have fired, and the history. -/
structure Scheduler where
  now : Nat
  gate : Scheduler.Gate
  permits : Nat
  metrics : SelfMetrics
  cycles : List Scheduler.Cycle
  invocations : List Scheduler.Invocation
  next : Nat
  fired : List Nat
  calls : List (String × String)
  history : History Scheduler.Event

namespace Scheduler

/-- A scheduler without cycles. -/
def start (s : SchedulerSetup) (metrics : SelfMetrics) : Scheduler :=
  ⟨0, .new, s.config.permits, metrics, [], [], 0, [], [], .empty⟩

/-- Whether a token has fired. -/
def isFired (w : Scheduler) (token : Nat) : Bool := w.fired.contains token

/-- Write into the history. -/
def note (w : Scheduler) (e : Event) : Scheduler := { w with history := w.history.push w.now e }

/-- Replace a cycle. -/
def putCycle (w : Scheduler) (c : Cycle) : Scheduler :=
  { w with cycles := w.cycles.map fun d ↦ if d.id = c.id then c else d }

/-- Replace an invocation. -/
def putInvocation (w : Scheduler) (i : Invocation) : Scheduler :=
  { w with invocations := w.invocations.map fun j ↦ if j.id = i.id then i else j }

/-- Give a share of the gate back. -/
def releaseGate (w : Scheduler) : Scheduler := { w with gate := w.gate.release }

/-- The invocations of a cycle. -/
def invocationsOf (w : Scheduler) (cycle : Nat) : List Invocation :=
  w.invocations.filter (·.cycle = cycle)

/-- Tell the invocations of a cycle to stop. -/
def abortAll (w : Scheduler) (cycle : Nat) : Scheduler :=
  { w with invocations := w.invocations.map fun i ↦
      if i.cycle = cycle then { i with aborting := true } else i }

/-- The number of calls of a collector so far. -/
def callCount (w : Scheduler) (t : Target) : Nat := w.calls.count (t.module, t.collector.name)

/-! ## Invocations

An invocation ends in one of six ways, and each of them goes through `retire`: its share of the gate
and its permit are given back, its cycle hears of it, and the history tells it.  What is counted is
decided before, by the way it ended.  A call that crashed is counted nowhere, and an invocation that
was told to stop is counted by its cycle. -/

/-- An invocation is gone: its share of the gate and its permit are back, and its cycle hears of
it. -/
def retire (w : Scheduler) (i : Invocation) (e : InvocationEnd) : Scheduler :=
  let w' : Scheduler := { w with
    invocations := w.invocations.filter (·.id ≠ i.id)
    permits := if i.pooled then w.permits + 1 else w.permits
    cycles := w.cycles.map fun (c : Cycle) ↦
      if c.id = i.cycle then { c with arrived := c.arrived ++ [(i.target, e)] } else c }
  w'.releaseGate.note (.gone i.cycle i.target e)

/-- Close the scope of a call. -/
def record (w : Scheduler) (started : Nat) (e : SelfMetrics.CollectEnd) : Scheduler :=
  { w with metrics := w.metrics.recordCollect e (.ofMillis (w.now - started)) }

/-- The call is over because the token of the cycle has fired. -/
def retireCancelled (w : Scheduler) (i : Invocation) (started : Nat) : Scheduler :=
  (w.record started .cancelled).retire i .cancelled

/-- The call gave a result. A crash is not timed. -/
def retireWith (w : Scheduler) (i : Invocation) (started : Nat) : CollectResult → Scheduler
  | .batch l => (w.record started .ok).retire i (.collected l)
  | .failure e =>
    if e.isCancelled && w.isFired i.token then w.retireCancelled i started
    else if e.isExpected then (w.record started .error).retire i .failed
    else
      (w.record started .error).retire i
        (.fatal (.unexpected i.target.module i.target.collector.name e.message))
  | .crash text => w.retire i (.fatal (.panicked i.target.module text))

/-- The call takes too long. -/
def retireLate (w : Scheduler) (i : Invocation) (started : Nat) : Scheduler :=
  if w.isFired i.token then w.retireCancelled i started
  else
    let m := { w.metrics with collectorTimeouts := w.metrics.collectorTimeouts + 1 }
    ({ w with metrics := m }.record started .error).retire i .timedOut

/-- The first turn of an invocation: it calls its collector. -/
def beginCall (s : SchedulerSetup) (w : Scheduler) (i : Invocation) : Scheduler :=
  let b := i.target.collector.behaviour (w.callCount i.target)
  let phase := .collecting b w.now (b.waitMs.map (w.now + ·))
    (s.config.timeout.map (w.now + ·.ceilMillis))
  ({ w with calls := w.calls ++ [(i.target.module, i.target.collector.name)] }.note
    (.started i.cycle i.target (w.isFired i.token))).putInvocation { i with phase := phase }

/-- Whether a time has come. -/
def isDue (w : Scheduler) (t : Option Nat) : Bool := t.any (· ≤ w.now)

/-- The turn of an invocation. -/
def stepInvocation (s : SchedulerSetup) (w : Scheduler) (i : Invocation) : Option Scheduler :=
  if i.aborting then some (w.retire i .aborted)
  else
    let abandoned := s.config.cancelFast && w.isFired i.token
    match i.phase with
    | .spawned => some (if abandoned then w.retireCancelled i w.now else w.beginCall s i)
    | .collecting b started wake limit =>
      if abandoned then some (w.retireCancelled i started)
      else if b.honorsCancel && b.waitMs.isSome && w.isFired i.token then
        some ((w.note (.gaveUp i.cycle i.target)).retireWith i started (.failure .cancelled))
      else if w.isDue wake then
        let w := if b.cancelsOuter then { w with fired := i.token :: w.fired } else w
        some ((w.note (.ended i.cycle i.target)).retireWith i started b.result)
      else if w.isDue limit then some (w.retireLate i started)
      else none

/-! ## Cycles

A cycle goes from phase to phase in the order of the modules.  In parallel mode it spawns an
invocation for each collector as permits come free and then joins them; otherwise it starts the next
one when the one before has ended.  A fatal end stops it: in parallel mode the other invocations are
told to stop, and the cycle waits for them before it fails. -/

/-- The end of a cycle that was cancelled before it passed the gate. -/
def endBeforeStart (s : SchedulerSetup) (w : Scheduler) (c : Cycle) : Scheduler :=
  let report := { CycleReport.new with
    outcome := .cancelled
    skipped := s.registry.collectorCount }
  let m := { w.metrics with cyclesCancelled := w.metrics.cyclesCancelled + 1 }
  ({ w with metrics := m }.putCycle { c with phase := .ended (.ok report), report := report }).note
    (.closed c.id)

/-- The end of a cycle that has visited all modules. -/
def endCycle (w : Scheduler) (c : Cycle) : Scheduler :=
  let m := w.metrics
  let (report, m) :=
    if w.isFired c.token then
      ({ c.report with outcome := .cancelled }, { m with cyclesCancelled := m.cyclesCancelled + 1 })
    else (c.report, { m with cyclesOk := m.cyclesOk + 1 })
  (({ w with metrics := m }.putCycle { c with phase := .ended (.ok report), report := report }).note
    (.closed c.id)).releaseGate

/-- The end of a cycle that was aborted. -/
def failCycle (w : Scheduler) (c : Cycle) (e : CycleError) : Scheduler :=
  let m := { w.metrics with cyclesFailed := w.metrics.cyclesFailed + 1 }
  (({ w with metrics := m }.putCycle { c with phase := .ended (.error e) }).note
    (.closed c.id)).releaseGate

/-- Go on to the collectors of a module. -/
def enterModule (s : SchedulerSetup) (w : Scheduler) (c : Cycle) (m : CollectorModule)
    (rest : List CollectorModule) : Scheduler :=
  w.putCycle { c with
    phase := if s.config.parallel then .spawning m m.collectors rest
      else .starting m m.collectors rest }

/-- The collectors of a module are done; go on to its hook. -/
def closeModule (w : Scheduler) (c : Cycle) (m : CollectorModule) (failure : Option CycleError)
    (rest : List CollectorModule) : Scheduler :=
  match m.hooks with
  | none => w.putCycle { c with phase := .closing m failure rest w.now }
  | some h =>
    (w.putCycle { c with phase := .closing m failure rest (w.now + h.afterMs) }).note
      (.after c.id m.name)

/-- Start an invocation, with or without a permit. -/
def spawn (w : Scheduler) (c : Cycle) (m : CollectorModule) (k : Collector) (pooled : Bool) :
    Scheduler :=
  let t : Target := ⟨m.name, k⟩
  let i : Invocation := ⟨w.next, c.id, c.token, t, pooled, false, .spawned⟩
  let w' : Scheduler := { w with
    invocations := w.invocations ++ [i]
    next := w.next + 1
    gate := w.gate.share
    permits := if pooled then w.permits - 1 else w.permits }
  w'.note (.spawned c.id t)

/-- Enter the first of the ended invocations. An aborted one is counted here, because it could not
do so itself. -/
def enter (w : Scheduler) (c : Cycle) (e : InvocationEnd)
    (arrived : List (Target × InvocationEnd)) : Scheduler × Cycle :=
  let m := match e with
    | .aborted => { w.metrics with collectCancelled := w.metrics.collectCancelled + 1 }
    | _ => w.metrics
  ({ w with metrics := m }, { c with report := c.report.record e, arrived := arrived })

/-- The turn of a cycle; `none` while it has to wait and after its end. -/
def stepCycle (s : SchedulerSetup) (w : Scheduler) (c : Cycle) : Option Scheduler :=
  let abandoned := s.config.cancelFast && w.isFired c.token
  match c.phase with
  | .arriving =>
    if abandoned then some (w.endBeforeStart s c)
    else
      let gate := w.gate.arrive c.id
      some ({ w with gate := gate }.putCycle { c with phase := .queued })
  | .queued =>
    if abandoned then some ({ w with gate := w.gate.leave c.id }.endBeforeStart s c)
    else if w.gate.holder = some c.id then
      some (w.putCycle { c with phase := .visiting s.registry.modules })
    else none
  | .visiting [] => some (w.endCycle c)
  | .visiting (m :: rest) =>
    if abandoned then
      some (w.putCycle
        { c with phase := .visiting rest, report := c.report.skip m.collectors.length })
    else
      match m.hooks with
      | none => some (w.enterModule s c m rest)
      | some h =>
        some ((w.putCycle { c with phase := .opening m rest (w.now + h.beforeMs) }).note
          (.before c.id m.name))
  | .opening m rest t => if t ≤ w.now then some (w.enterModule s c m rest) else none
  | .spawning m [] rest => some (w.putCycle { c with phase := .joining m none rest })
  | .spawning m (k :: left) rest =>
    if abandoned then
      some (w.putCycle { c with phase := .spawning m left rest, report := c.report.skip 1 })
    else if 0 < w.permits then
      some ((w.spawn c m k true).putCycle { c with phase := .spawning m left rest })
    else none
  | .joining m failure rest =>
    match c.arrived with
    | (_, e) :: arrived =>
      let (w, c) := w.enter c e arrived
      match e, failure with
      | .fatal e, none =>
        some ((w.abortAll c.id).putCycle { c with phase := .joining m (some e) rest })
      | _, _ => some (w.putCycle c)
    | [] =>
      if (w.invocationsOf c.id).isEmpty then some (w.closeModule c m failure rest) else none
  | .starting m [] rest => some (w.closeModule c m none rest)
  | .starting m (k :: left) rest =>
    if abandoned then
      some (w.putCycle { c with phase := .starting m left rest, report := c.report.skip 1 })
    else some ((w.spawn c m k false).putCycle { c with phase := .awaiting m left rest })
  | .awaiting m left rest =>
    match c.arrived with
    | (_, e) :: arrived =>
      let (w, c) := w.enter c e arrived
      match e with
      | .fatal e => some (w.closeModule c m (some e) rest)
      | _ => some (w.putCycle { c with phase := .starting m left rest })
    | [] => none
  | .closing _ failure rest t =>
    if w.now < t then none
    else
      match failure with
      | some e => some (w.failCycle c e)
      | none => some (w.putCycle { c with phase := .visiting rest })
  | .ended _ => none

/-! ## Runs

Any task may have the next turn, and between turns anything may happen from outside.  `wakeTime` is
only a help for whoever drives a scheduler: the time before which a sleeping task has no turn. -/

/-- The tasks of a scheduler. -/
inductive TaskId where
  | cycle (id : Nat)
  | invocation (id : Nat)
  deriving DecidableEq, Repr

/-- The turn of a task. -/
def step (s : SchedulerSetup) (t : TaskId) (w : Scheduler) : Option Scheduler :=
  match t with
  | .cycle id => (w.cycles.find? (·.id = id)).bind (w.stepCycle s)
  | .invocation id => (w.invocations.find? (·.id = id)).bind (w.stepInvocation s)

/-- Call for a cycle under a token. -/
def call (w : Scheduler) (token : Nat) : Scheduler :=
  { w with cycles := w.cycles ++ [⟨w.next, token, .arriving, .new, []⟩], next := w.next + 1 }

/-- A token fires. -/
def cancel (w : Scheduler) (token : Nat) : Scheduler := { w with fired := token :: w.fired }

/-- Time passes. -/
def elapse (w : Scheduler) (ms : Nat) : Scheduler := { w with now := w.now + ms }

/-- Someone stops waiting for a cycle. What it holds is given back, and its invocations are told to
stop. -/
def drop (w : Scheduler) (id : Nat) : Scheduler :=
  match w.cycles.find? (·.id = id) with
  | none => w
  | some c =>
    let w' := { w with cycles := w.cycles.filter (·.id ≠ id) }
    match c.phase with
    | .arriving | .ended _ => w'
    | .queued => { w' with gate := w'.gate.leave id }
    | _ => (w'.abortAll id).releaseGate

/-- How a cycle ended. -/
def result? (w : Scheduler) (id : Nat) : Option (Except CycleError CycleReport) :=
  (w.cycles.find? (·.id = id)).bind fun c ↦ match c.phase with
    | .ended r => some r
    | _ => none

/-- The states that some order of events leads to. -/
inductive Reachable (s : SchedulerSetup) (metrics : SelfMetrics) : Scheduler → Prop where
  | start : Reachable s metrics (start s metrics)
  | call {w : Scheduler} (h : Reachable s metrics w) (token : Nat) :
    Reachable s metrics (w.call token)
  | cancel {w : Scheduler} (h : Reachable s metrics w) (token : Nat) :
    Reachable s metrics (w.cancel token)
  | elapse {w : Scheduler} (h : Reachable s metrics w) (ms : Nat) :
    Reachable s metrics (w.elapse ms)
  | drop {w : Scheduler} (h : Reachable s metrics w) (id : Nat) : Reachable s metrics (w.drop id)
  | step {w w' : Scheduler} (h : Reachable s metrics w) (t : TaskId) (e : w.step s t = some w') :
    Reachable s metrics w'

/-- Until when a task sleeps. -/
def wakeTime (t : TaskId) (w : Scheduler) : Option Nat :=
  match t with
  | .cycle id =>
    (w.cycles.find? (·.id = id)).bind fun c ↦ match c.phase with
      | .opening _ _ t | .closing _ _ _ t => some t
      | _ => none
  | .invocation id =>
    (w.invocations.find? (·.id = id)).bind fun i ↦ match i.phase with
      | .collecting _ _ wake limit =>
        match wake, limit with
        | some a, some b => some (if w.now < a then min a b else b)
        | some a, none => some a
        | none, b => b
      | .spawned => none

end Scheduler

end MetricsAgent
