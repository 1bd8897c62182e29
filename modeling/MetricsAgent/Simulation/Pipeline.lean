import MetricsAgent.Push.Pipeline
import MetricsAgent.Simulation.TaskSystem

/-!
# Push pipelines under the virtual clock

Beside exports and senders there are alarms, which fire a token at a time.  Numbers are given out in
order, so that each task and each token has its own; number zero is the token of the pipeline.

The steps of a trial are `runExport` and `runTick`, which begin something and wait for it;
`startSender`, `joinSender` and `cancel`, which begin a sender that ticks on, wait for its end, and
fire the token of the pipeline; and `advance`, which only lets time pass.  A wait may be given up,
and the step then has no result; the task that was waited for goes on.
-/

set_option autoImplicit false

namespace MetricsAgent.Simulation

/-- A pipeline, the alarms set on it, and the next free number. -/
structure PipelineTrial (σ : Type) where
  pipeline : Pipeline σ
  alarms : List (Nat × Nat)
  next : Nat

/-- The tasks of a trial. -/
inductive PipelineTask where
  | pipeline (t : Pipeline.TaskId)
  | alarm
  deriving DecidableEq

namespace PipelineTrial

variable {σ : Type}

/-- Fire the tokens whose time has come. -/
def ring (t : PipelineTrial σ) : Option (PipelineTrial σ) :=
  let (due, later) := t.alarms.partition (·.1 ≤ t.pipeline.shared.now)
  if due.isEmpty then none
  else some { t with
    pipeline := due.foldl (fun w a ↦ w.cancel a.2) t.pipeline
    alarms := later }

/-- Exports and senders in the order in which they began, and the alarms. -/
def system (s : SenderSetup σ) : TaskSystem (PipelineTrial σ) PipelineTask where
  tasks t := .alarm :: (t.pipeline.exports.map fun x ↦ .pipeline (.exporting x.id))
    ++ t.pipeline.loops.map fun x ↦ .pipeline (.sending x.id)
  step
    | .alarm, t => t.ring
    | .pipeline k, t => (t.pipeline.step s k).map fun w ↦ { t with pipeline := w }
  wakeTime
    | .alarm, t => (t.alarms.map (·.1)).min?
    | .pipeline (.sending id), t =>
      (t.pipeline.loops.find? (·.id = id)).bind fun x ↦ Sender.wakeTime x.phase
    | .pipeline (.exporting _), _ => none
  now t := t.pipeline.shared.now
  setNow n t :=
    { t with pipeline := { t.pipeline with shared := { t.pipeline.shared with now := n } } }

/-- Token zero is the pipeline's, so numbers start at one. -/
def start (channel : Channel Envelope) (client : σ) : PipelineTrial σ :=
  ⟨.start channel client, [], 1⟩

/-- Set an alarm on a token. -/
def setAlarm (t : PipelineTrial σ) (token ms : Nat) : PipelineTrial σ :=
  { t with alarms := (t.pipeline.shared.now + ms, token) :: t.alarms }

/-- Export a batch and wait for it. Without a summary the wait was given up. -/
def runExport (s : SenderSetup σ) (t : PipelineTrial σ) (batch : List Measurement) :
    Option ExportSummary × PipelineTrial σ :=
  let id := t.next
  let summary? (t : PipelineTrial σ) : Option ExportSummary :=
    (t.pipeline.exports.find? (·.id = id)).bind fun x ↦ match x.phase with
      | .ended => some x.summary
      | _ => none
  let t := { t with pipeline := t.pipeline.beginExport id batch, next := id + 1 }
  let t := (system s).await (fun t ↦ (summary? t).isSome) t
  (summary? t, { t with pipeline := t.pipeline.dropExport id })

/-- Tick once and wait for it, with a token that fires before or after some time. -/
def runTick (s : SenderSetup σ) (t : PipelineTrial σ) (firedBefore : Bool)
    (cancelAfter : Option Nat) : Option TickOutcome × PipelineTrial σ :=
  let id := t.next
  let outcome? (t : PipelineTrial σ) : Option TickOutcome :=
    (t.pipeline.loops.find? (·.id = id)).bind fun x ↦ Sender.outcome? x.phase
  let t := { t with pipeline := t.pipeline.beginTick id id, next := id + 1 }
  let t := if firedBefore then { t with pipeline := t.pipeline.cancel id } else t
  let t := match cancelAfter with
    | some ms => t.setAlarm id ms
    | none => t
  let t := (system s).await (fun t ↦ (outcome? t).isSome) t
  (outcome? t,
    { t with pipeline := { t.pipeline with loops := t.pipeline.loops.filter (·.id ≠ id) } })

/-- Start a sender with the token of the pipeline. -/
def startSender (s : SenderSetup σ) (t : PipelineTrial σ) : PipelineTrial σ :=
  (system s).rest { t with pipeline := t.pipeline.startSender t.next 0, next := t.next + 1 }

/-- Whether all running senders have stopped. -/
def allStopped (t : PipelineTrial σ) : Bool :=
  t.pipeline.loops.all fun x ↦ match x.phase with
    | .stopped => true
    | _ => false

/-- Wait for the running senders to stop. -/
def joinSender (s : SenderSetup σ) (t : PipelineTrial σ) : Bool × PipelineTrial σ :=
  let t := (system s).await allStopped t
  (t.allStopped, t)

/-- Fire the token of the pipeline. -/
def cancel (s : SenderSetup σ) (t : PipelineTrial σ) : PipelineTrial σ :=
  (system s).rest { t with pipeline := t.pipeline.cancel 0 }

/-- Let time pass. -/
def advance (s : SenderSetup σ) (t : PipelineTrial σ) (ms : Nat) : PipelineTrial σ :=
  (system s).runFor ms t

end PipelineTrial

end MetricsAgent.Simulation
