import MetricsAgent.SelfMetrics.Basic

/-!
# Snapshots of the agent's own metrics

A snapshot is the values of all counters, gauges and histograms at one moment.  It can be written as
JSON, in the order of the fields, and as measurements, whose names get a common lead.

As measurements, counters that tell several ends of one thing apart are one metric with a tag for
the end (`outcomeCounter`), and the histograms become histograms.  The lead is put in front of every
name at the end, so that `bareMeasurements` can be looked at without it.
-/

set_option autoImplicit false

namespace MetricsAgent

/-- The agent's own metrics at one moment. -/
structure SelfMetricsSnapshot where
  field : SelfMetrics.Field → UInt64
  collectDuration : HistogramSnapshot
  exportDuration : HistogramSnapshot

/-- The values now. -/
def SelfMetrics.snapshot (m : SelfMetrics) : SelfMetricsSnapshot :=
  ⟨m.get, m.collectDuration.snapshot, m.exportDuration.snapshot⟩

namespace SelfMetricsSnapshot

/-- A snapshot as JSON. -/
def toJson (s : SelfMetricsSnapshot) : Json :=
  .object (SelfMetrics.Field.all.map (fun f ↦ (f.name, Json.ofUInt64 (s.field f)))
    ++ [("collect_duration", s.collectDuration.toJson),
      ("export_duration", s.exportDuration.toJson)])

/-- A counter that is one of several outcomes. -/
def outcomeCounter (name outcome : String) (n : UInt64) : Measurement :=
  (Measurement.counter name n.toFloat).withTag "outcome" outcome

/-- The measurements without a lead. -/
def bareMeasurements (s : SelfMetricsSnapshot) : List Measurement :=
  [ outcomeCounter "collect_total" "ok" (s.field .collectOk),
    outcomeCounter "collect_total" "error" (s.field .collectError),
    outcomeCounter "collect_total" "cancelled" (s.field .collectCancelled),
    outcomeCounter "cycles_total" "ok" (s.field .cyclesOk),
    outcomeCounter "cycles_total" "error" (s.field .cyclesFailed),
    outcomeCounter "cycles_total" "cancelled" (s.field .cyclesCancelled),
    outcomeCounter "export_total" "ok" (s.field .exportOk),
    outcomeCounter "export_total" "error" (s.field .exportError),
    .counter "collector_timeouts_total" (s.field .collectorTimeouts).toFloat,
    .counter "dropped_total" (s.field .dropped).toFloat,
    .counter "retries_total" (s.field .retries).toFloat,
    .counter "send_failures_total" (s.field .sendFailures).toFloat,
    .counter "sent_total" (s.field .sent).toFloat,
    .gauge "last_batch_size" (s.field .lastBatchSize).toFloat,
    .gauge "last_send_duration_seconds" ((s.field .lastSendMicros).toFloat / 1000000.0),
    .gauge "queue_length" (s.field .queueLength).toFloat,
    s.collectDuration.toMeasurement "collect_duration_seconds",
    s.exportDuration.toMeasurement "export_duration_seconds" ]

/-- The measurements, each name with `lead` in front. -/
def toMeasurements (s : SelfMetricsSnapshot) (lead : String) : List Measurement :=
  s.bareMeasurements.map (·.prefixed lead)

end SelfMetricsSnapshot

end MetricsAgent
