import MetricsAgent.Agent.Basic
import MetricsAgent.Simulation.TaskSystem

/-!
# Agents under the virtual clock

Beside the tasks of the agent and its scheduler there are alarms, which fire a token at a time.
Each step of a trial has a token of its own.

* `AgentTrial` is an agent, the alarms set on it, and the next free token.
* `AgentTrial.system` says which tasks there are and in which order they began: first the alarms,
  then the cycles and the invocations, then the calls and the loops.
* `AgentTrial.runCall`, `AgentTrial.runCycles` and `AgentTrial.runLoop` are the steps that a trial
  is made of.  Each begins something, lets time pass until it has ended or patience is at its end,
  and answers what came of it.

The driver picks one of the many orders in which the tasks of an agent may take their turns
(`MetricsAgent.Simulation.TaskSystem`).  Nothing is proved about it: what holds of the agent holds
of every order, and so of this one.
-/

set_option autoImplicit false

namespace MetricsAgent.Simulation

/-- An agent, the alarms set on it, and the next free token. -/
structure AgentTrial where
  agent : Agent
  alarms : List (Nat × Nat)
  token : Nat

/-- The tasks of a trial. -/
inductive AgentTask where
  | agent (t : Agent.TaskId)
  | alarm
  deriving DecidableEq

/-- When the token of a step fires. -/
inductive Firing where
  | never
  | before
  /-- So many milliseconds after the start of the step. -/
  | after (ms : Nat)

namespace AgentTrial

/-- Fire the tokens whose time has come. -/
def ring (t : AgentTrial) : Option AgentTrial :=
  let (due, later) := t.alarms.partition (·.1 ≤ t.agent.now)
  if due.isEmpty then none
  else some { t with agent := due.foldl (fun a d ↦ a.cancel d.2) t.agent, alarms := later }

/-- The alarms, the cycles and the invocations in the order in which they began, and the calls and
loops. -/
def system (s : AgentSetup) : TaskSystem AgentTrial AgentTask where
  tasks t := .alarm :: (t.agent.scheduler.cycles.map fun c ↦ .agent (.scheduler (.cycle c.id)))
    ++ (t.agent.scheduler.invocations.map fun i ↦ .agent (.scheduler (.invocation i.id)))
    ++ (t.agent.calls.map fun c ↦ .agent (.call c.cycle))
    ++ t.agent.loops.map fun l ↦ .agent (.loop l.id)
  step
    | .alarm, t => t.ring
    | .agent k, t => (t.agent.step s k).map fun a ↦ { t with agent := a }
  wakeTime
    | .alarm, t => (t.alarms.map (·.1)).min?
    | .agent k, t => t.agent.wakeTime k
  now t := t.agent.now
  setNow n t := { t with agent := t.agent.elapse (n - t.agent.now) }

/-- A trial of an agent at rest. -/
def start (s : AgentSetup) (metrics : SelfMetrics) : AgentTrial := ⟨.start s metrics, [], 0⟩

/-- Change the agent from outside. -/
def act (t : AgentTrial) (f : Agent → Agent) : AgentTrial := { t with agent := f t.agent }

/-- Begin a step: take a token, and see to its firing. -/
def takeToken (t : AgentTrial) (f : Firing) : Nat × AgentTrial :=
  let token := t.token
  let t := { t with token := token + 1 }
  (token, match f with
    | .never => t
    | .before => t.act (·.cancel token)
    | .after ms => { t with alarms := (t.agent.now + ms, token) :: t.alarms })

/-- Let time pass until `stop` holds, or until it was waited long enough. -/
def await (s : AgentSetup) (t : AgentTrial) (limit : Option Nat) (stop : AgentTrial → Bool) :
    AgentTrial :=
  match limit with
  | none => (system s).await stop t
  | some ms => (system s).runUntil stop (t.agent.now + ms) TaskSystem.budget t

/-- Let all tasks go as far as they can. -/
def rest (s : AgentSetup) (t : AgentTrial) : AgentTrial := (system s).rest t

/-- Let time pass. -/
def advance (s : AgentSetup) (t : AgentTrial) (ms : Nat) : AgentTrial :=
  ((system s).runFor ms t).rest s

/-- Run cycles side by side under one token, and give up after some time. Without a result the wait
was given up. -/
def runCycles (s : AgentSetup) (t : AgentTrial) (count : Nat) (f : Firing) (limit : Option Nat) :
    List (Option (Except CycleError CycleReport)) × AgentTrial :=
  let (token, t) := t.takeToken f
  let first := t.agent.scheduler.next
  let ids := (List.range count).map (first + ·)
  let t := t.act fun a ↦ { a with scheduler := ids.foldl (fun w _ ↦ w.call token) a.scheduler }
  let t := t.await s limit fun t ↦ ids.all fun id ↦ (t.agent.scheduler.result? id).isSome
  let results := ids.map t.agent.scheduler.result?
  let t := t.act fun a ↦ { a with scheduler := ids.foldl Scheduler.drop a.scheduler }
  (results, t.rest s)

/-- The phase of a call. -/
def phase? (t : AgentTrial) (cycle : Nat) : Option Agent.CallPhase :=
  (t.agent.calls.find? (·.cycle = cycle)).map (·.phase)

/-- Whether a call has ended. -/
def hasEnded (cycle : Nat) (t : AgentTrial) : Bool := !(t.phase? cycle).any (·.isUnderWay)

/-- Make a call, and give up after some time. -/
def runCall (s : AgentSetup) (t : AgentTrial) (exports : Bool) (f : Firing) (limit : Option Nat) :
    Option Agent.CallPhase × AgentTrial :=
  let (token, t) := t.takeToken f
  let id := t.agent.scheduler.next
  let t := t.act (·.call token exports)
  let t := t.await s limit (hasEnded id)
  let phase := t.phase? id
  (phase, (t.act (·.drop id)).rest s)

/-- Whether a loop has stopped. -/
def hasStopped (id : Nat) (t : AgentTrial) : Bool :=
  (t.agent.loops.find? (·.id = id)).any (·.phase = .stopped)

/-- Run a loop whose token fires after some time at the latest. Answers whether it stopped. -/
def runLoop (s : AgentSetup) (t : AgentTrial) (f : Firing) (ms : Nat) : Bool × AgentTrial :=
  let (token, t) := t.takeToken f
  let id := t.agent.loops.length
  let t := t.act (·.startLoop s token)
  let t := ((system s).runFor ms t).act (·.cancel token)
  let t := t.await s none (hasStopped id)
  (t.hasStopped id, t.rest s)

/-- Shut the collectors down. Answers whether all were, and what happened. -/
def shutdown (s : AgentSetup) (t : AgentTrial) (limitMs : Nat) :
    Bool × List (Nat × ShutdownEvent) × AgentTrial :=
  let (done, events, finish) := s.scheduler.registry.shutdown t.agent.now limitMs
  (done, events, (t.act fun a ↦ a.elapse (finish - a.now)).rest s)

end AgentTrial

end MetricsAgent.Simulation
