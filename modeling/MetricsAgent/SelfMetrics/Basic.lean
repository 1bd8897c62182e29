import MetricsAgent.SelfMetrics.Histogram

/-!
# What the agent counts about itself

Counters only grow, and wrap at `2 ^ 64`; gauges hold the last value written.  A *scope* times one
collection or one export and is closed once, with the way it ended.

`SelfMetrics` is all of them in one record, with the two histograms of durations.  The scopes are
functions on it: `recordCollect` counts a collection in the counter of its end and observes its
duration, and `recordExport` does the same for an export, with its size, and writes the gauges of
the latest export.  An export that was abandoned leaves no trace.

`SelfMetrics.Field` gives names to the counters and gauges.  It is one inductive type with `get`,
`set` and `add`, so that a statement about all fields is a statement about a variable, and the order
of its constructors is that in which the fields are listed.
-/

set_option autoImplicit false

namespace MetricsAgent

/-- The agent's own counters, gauges and histograms. -/
structure SelfMetrics where
  collectOk : UInt64
  collectError : UInt64
  collectCancelled : UInt64
  collectorTimeouts : UInt64
  cyclesOk : UInt64
  cyclesFailed : UInt64
  cyclesCancelled : UInt64
  exportOk : UInt64
  exportError : UInt64
  dropped : UInt64
  retries : UInt64
  sendFailures : UInt64
  sent : UInt64
  lastBatchSize : UInt64
  lastSendMicros : UInt64
  queueLength : UInt64
  collectDuration : LatencyHistogram
  exportDuration : LatencyHistogram

namespace SelfMetrics

/-- Nothing counted yet. -/
def new : SelfMetrics :=
  { collectOk := 0, collectError := 0, collectCancelled := 0, collectorTimeouts := 0, cyclesOk := 0,
    cyclesFailed := 0, cyclesCancelled := 0, exportOk := 0, exportError := 0, dropped := 0,
    retries := 0, sendFailures := 0, sent := 0, lastBatchSize := 0, lastSendMicros := 0,
    queueLength := 0,
    collectDuration := .new LatencyHistogram.defaultBounds
    exportDuration := .new LatencyHistogram.defaultBounds }

instance : Inhabited SelfMetrics := ⟨new⟩

/-- How a collection ended. -/
inductive CollectEnd where
  | ok | error | cancelled
  deriving DecidableEq, Repr

/-- Close the scope of a collection. -/
def recordCollect (m : SelfMetrics) (r : CollectEnd) (elapsed : Duration) : SelfMetrics :=
  let m := { m with collectDuration := m.collectDuration.observe elapsed }
  match r with
  | .ok => { m with collectOk := m.collectOk + 1 }
  | .error => { m with collectError := m.collectError + 1 }
  | .cancelled => { m with collectCancelled := m.collectCancelled + 1 }

/-- How an export ended. -/
inductive ExportEnd where
  | ok | error
  /-- Abandoned, which leaves no trace. -/
  | cancelled
  deriving DecidableEq, Repr

/-- The duration and the size of the latest export that was not abandoned. -/
def recordSend (m : SelfMetrics) (size : Nat) (elapsed : Duration) : SelfMetrics :=
  { m with
    exportDuration := m.exportDuration.observe elapsed
    lastBatchSize := size.toUInt64
    lastSendMicros := LatencyHistogram.micros elapsed }

/-- Close the scope of an export of `size` items. -/
def recordExport (m : SelfMetrics) (r : ExportEnd) (size : Nat) (elapsed : Duration) :
    SelfMetrics :=
  match r with
  | .ok =>
    let m := m.recordSend size elapsed
    { m with exportOk := m.exportOk + 1, sent := m.sent + size.toUInt64 }
  | .error =>
    let m := m.recordSend size elapsed
    { m with exportError := m.exportError + 1 }
  | .cancelled => m

/-- The counters and gauges by name, in the order in which they are listed. -/
inductive Field where
  | collectOk | collectError | collectCancelled | collectorTimeouts | cyclesOk | cyclesFailed
  | cyclesCancelled | exportOk | exportError | dropped | retries | sendFailures | sent
  | lastBatchSize | lastSendMicros | queueLength
  deriving DecidableEq, Repr

namespace Field

/-- The name of a field. -/
def name : Field → String
  | collectOk => "collect_ok"
  | collectError => "collect_error"
  | collectCancelled => "collect_cancelled"
  | collectorTimeouts => "collector_timeouts"
  | cyclesOk => "cycles_ok"
  | cyclesFailed => "cycles_failed"
  | cyclesCancelled => "cycles_cancelled"
  | exportOk => "export_ok"
  | exportError => "export_error"
  | dropped => "dropped"
  | retries => "retries"
  | sendFailures => "send_failures"
  | sent => "sent"
  | lastBatchSize => "last_batch_size"
  | lastSendMicros => "last_send_duration_micros"
  | queueLength => "queue_length"

/-- All fields. -/
def all : List Field :=
  [collectOk, collectError, collectCancelled, collectorTimeouts, cyclesOk, cyclesFailed,
    cyclesCancelled, exportOk, exportError, dropped, retries, sendFailures, sent, lastBatchSize,
    lastSendMicros, queueLength]

/-- The field of a name. -/
def ofName? (s : String) : Option Field := all.find? (·.name = s)

end Field

/-- The value of a field. -/
def get (m : SelfMetrics) : Field → UInt64
  | .collectOk => m.collectOk
  | .collectError => m.collectError
  | .collectCancelled => m.collectCancelled
  | .collectorTimeouts => m.collectorTimeouts
  | .cyclesOk => m.cyclesOk
  | .cyclesFailed => m.cyclesFailed
  | .cyclesCancelled => m.cyclesCancelled
  | .exportOk => m.exportOk
  | .exportError => m.exportError
  | .dropped => m.dropped
  | .retries => m.retries
  | .sendFailures => m.sendFailures
  | .sent => m.sent
  | .lastBatchSize => m.lastBatchSize
  | .lastSendMicros => m.lastSendMicros
  | .queueLength => m.queueLength

/-- Write a field. -/
def set (m : SelfMetrics) (f : Field) (n : UInt64) : SelfMetrics :=
  match f with
  | .collectOk => { m with collectOk := n }
  | .collectError => { m with collectError := n }
  | .collectCancelled => { m with collectCancelled := n }
  | .collectorTimeouts => { m with collectorTimeouts := n }
  | .cyclesOk => { m with cyclesOk := n }
  | .cyclesFailed => { m with cyclesFailed := n }
  | .cyclesCancelled => { m with cyclesCancelled := n }
  | .exportOk => { m with exportOk := n }
  | .exportError => { m with exportError := n }
  | .dropped => { m with dropped := n }
  | .retries => { m with retries := n }
  | .sendFailures => { m with sendFailures := n }
  | .sent => { m with sent := n }
  | .lastBatchSize => { m with lastBatchSize := n }
  | .lastSendMicros => { m with lastSendMicros := n }
  | .queueLength => { m with queueLength := n }

/-- Add to a field. -/
def add (m : SelfMetrics) (f : Field) (n : UInt64) : SelfMetrics := m.set f (m.get f + n)

end SelfMetrics

end MetricsAgent
