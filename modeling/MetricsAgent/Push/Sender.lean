import MetricsAgent.Push.Client
import MetricsAgent.Channel.Basic
import MetricsAgent.History
import MetricsAgent.Retry.Policy

/-!
# The sender

A sender takes batches out of a channel and sends them.  One round is a *tick*: it drains up to a
batch of envelopes, and if there are none it naps; otherwise it submits them one by one and flushes,
again and again as the retry policy says.  A batch that is given up is counted and dropped.

* `Sender.Phase` is where a sender stands, and a `Job` is the batch on its way with what has to be
  remembered about it.
* `Sender.step` is the stretch from one point where the sender may have to wait to the next.  Each
  of the ends of a tick has a function of its own: `succeed`, `fail`, `abandon`, `endTick`.
* `PushState` is what the sender shares with the producers and with the outside: the channel, the
  remote end, the clock, the metrics, the state as observers see it, and the history.
* `SenderState` is that state.  Observers see five of them, and every change is written into the
  history.

The token is looked at before each attempt, in each delay and in each nap, never during an attempt.
Between the look at the token and the first attempt of a batch there is the drain; what that means
for a firing that falls there is worked out in `MetricsAgent.Proofs.Push.Firing`.
-/

set_option autoImplicit false

namespace MetricsAgent

/-- What the sender is doing, as observers see it. -/
inductive SenderState where
  | idle | draining | sending | retryWait | stopped
  deriving DecidableEq, Repr, Inhabited

/-- The name of a state. -/
def SenderState.name : SenderState → String
  | idle => "idle"
  | draining => "draining"
  | sending => "sending"
  | retryWait => "retry_wait"
  | stopped => "stopped"

/-- How a tick ended. -/
inductive TickOutcome where
  /-- There was nothing to send. -/
  | idle
  | sent (size : Nat)
  | failed (size : Nat)
  /-- The batch was abandoned. -/
  | cancelled
  deriving DecidableEq, Repr

/-- The largest batch where none is given. -/
def SenderSetup.defaultMaxBatchSize : Nat := 500

/-- The nap after an empty tick where none is given. -/
def SenderSetup.defaultEmptyQueueDelay : Duration := .ofMillis 200

/-- What a sender works with. -/
structure SenderSetup (σ : Type) where
  client : RemoteClient σ
  retry : RetryPolicy
  isTransient : ExportError → Bool
  maxBatchSize : Nat
  emptyQueueDelay : Duration

/-- Something that happened in a pipeline. -/
inductive PushEvent where
  | became (s : SenderState)
  | accepted (e : Envelope)
  | evicted (e : Envelope)
  | refused (e : Envelope)
  | drained (batch : List Envelope)
  | attempt
  | submitted (e : Envelope) (result : Except ExportError Unit)
  | flushed (result : Except ExportError Unit)
  | backoff (b : Backoff)
  | ticked (o : TickOutcome)

/-- The parts that a sender shares with the producers and with the outside. -/
structure PushState (σ : Type) where
  now : Nat
  channel : Channel Envelope
  client : σ
  state : SenderState
  history : History PushEvent

namespace PushState

variable {σ : Type}

/-- Write into the history. -/
def note (p : PushState σ) (e : PushEvent) : PushState σ :=
  { p with history := p.history.push p.now e }

/-- Show another state. -/
def become (p : PushState σ) (s : SenderState) : PushState σ :=
  { p with state := s }.note (.became s)

/-- Change the metrics. -/
def count (p : PushState σ) (f : SelfMetrics → SelfMetrics) : PushState σ :=
  { p with channel := { p.channel with metrics := f p.channel.metrics } }

/-- The delays begun so far. -/
def backoffs (p : PushState σ) : List Backoff :=
  p.history.toList.filterMap fun e ↦ match e.2 with
    | .backoff b => some b
    | _ => none

/-- The number of times the jitter source was asked. -/
def asked (p : PushState σ) : Nat := (p.backoffs.filter (·.asked)).length

end PushState

namespace Sender

/-- A batch on its way, the time at which it was drained, and the retries so far. -/
structure Job where
  batch : List Envelope
  started : Nat
  retries : Nat

/-- Where a sender stands. -/
inductive Phase where
  /-- Between two ticks of a running sender. -/
  | looping
  /-- At the start of a tick. -/
  | draining
  | napping (until_ : Nat)
  /-- Before an attempt. -/
  | deciding (job : Job)
  /-- In the submission of `e`; `rest` is still to be submitted. -/
  | submitting (job : Job) (e : Envelope) (rest : List Envelope) (until_ : Nat)
      (result : Except ExportError Unit)
  | flushing (job : Job) (until_ : Nat) (result : Except ExportError Unit)
  | backingOff (job : Job) (until_ : Nat)
  /-- At the end of a tick. -/
  | ticked (o : TickOutcome)
  | stopped

variable {σ : Type}

/-- Take envelopes out of the channel until there are `n` or none is left. -/
def drain : Nat → Channel Envelope → List Envelope × Channel Envelope
  | 0, c => ([], c)
  | n + 1, c =>
    match c.tryDequeue? with
    | none => ([], c)
    | some (e, c) =>
      let (rest, c) := drain n c
      (e :: rest, c)

/-- The time since a moment. -/
def since (p : PushState σ) (started : Nat) : Duration := .ofMillis (p.now - started)

/-- The end of a tick. -/
def endTick (p : PushState σ) (o : TickOutcome) : Phase × PushState σ :=
  (.ticked o, p.note (.ticked o))

/-- Start the flush that ends an attempt. -/
def beginFlush (s : SenderSetup σ) (job : Job) (p : PushState σ) : Phase × PushState σ :=
  let (client, call) := s.client.flush p.client
  (.flushing job (p.now + call.waitMs) call.result, { p with client := client })

/-- Start the next call of an attempt: a submission, or the flush. -/
def beginCall (s : SenderSetup σ) (job : Job) (rest : List Envelope) (p : PushState σ) :
    Phase × PushState σ :=
  match rest with
  | [] => beginFlush s job p
  | e :: rest =>
    let (client, call) := s.client.submit p.client e
    (.submitting job e rest (p.now + call.waitMs) call.result, { p with client := client })

/-- Give the batch up because of the token. -/
def abandon (job : Job) (p : PushState σ) : Phase × PushState σ :=
  let p := p.count (·.recordExport .cancelled job.batch.length (since p job.started))
  endTick (p.become .stopped) .cancelled

/-- The batch is delivered. -/
def succeed (job : Job) (p : PushState σ) : Phase × PushState σ :=
  let size := job.batch.length
  let p := p.count (·.recordExport .ok size (since p job.started))
  endTick (p.become .idle) (.sent size)

/-- The batch has failed for good. -/
def fail (job : Job) (p : PushState σ) : Phase × PushState σ :=
  let size := job.batch.length
  let p := p.count fun m ↦
    let m := m.recordExport .error size (since p job.started)
    { m with sendFailures := m.sendFailures + 1 }
  endTick (p.become .idle) (.failed size)

/-- An attempt has failed. -/
def afterFailure (s : SenderSetup σ) (job : Job) (e : ExportError) (p : PushState σ) :
    Phase × PushState σ :=
  match s.retry.decision job.retries (s.isTransient e) with
  | .fatal | .exhausted => fail job p
  | .retry =>
    let n := job.retries + 1
    let b := s.retry.backoff p.asked n
    let p := (p.count fun m ↦ { m with retries := m.retries + 1 }).become .retryWait
    (.backingOff { job with retries := n } (p.now + b.delay.ceilMillis), p.note (.backoff b))

/-- The next stretch of a sender, whose token has fired or not; `none` while it has to wait. A
sender that runs once ends with its tick. -/
def step (s : SenderSetup σ) (once fired : Bool) (phase : Phase) (p : PushState σ) :
    Option (Phase × PushState σ) :=
  match phase with
  | .looping => some (if fired then (.stopped, p.become .stopped) else (.draining, p))
  | .draining =>
    let p := p.become .draining
    let (batch, channel) := drain s.maxBatchSize p.channel
    let p := { p with channel := channel }
    if batch.isEmpty then
      some (.napping (p.now + s.emptyQueueDelay.ceilMillis), p.become .idle)
    else some (.deciding ⟨batch, p.now, 0⟩, p.note (.drained batch))
  | .napping t => if fired || t ≤ p.now then some (endTick p .idle) else none
  | .deciding job =>
    if fired then some (abandon job p)
    else some (beginCall s job job.batch ((p.become .sending).note .attempt))
  | .submitting job e rest t result =>
    if p.now < t then none
    else
      let p := p.note (.submitted e result)
      match result with
      | .ok () => some (beginCall s job rest p)
      | .error err => some (afterFailure s job err p)
  | .flushing job t result =>
    if p.now < t then none
    else
      let p := p.note (.flushed result)
      match result with
      | .ok () => some (succeed job p)
      | .error err => some (afterFailure s job err p)
  | .backingOff job t =>
    if fired then some (abandon job p)
    else if t ≤ p.now then some (.deciding job, p)
    else none
  | .ticked _ => if once then none else some (.looping, p)
  | .stopped => none

/-- The time until which a sender sleeps. -/
def wakeTime : Phase → Option Nat
  | .napping t | .submitting _ _ _ t _ | .flushing _ t _ | .backingOff _ t => some t
  | _ => none

/-- How a sender that runs once ended. -/
def outcome? : Phase → Option TickOutcome
  | .ticked o => some o
  | _ => none

end Sender

end MetricsAgent
