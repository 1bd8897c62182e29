import MetricsAgent.Measurement.Json
import MetricsAgent.Duration.Basic

/-!
# Latency histograms

A histogram has a fixed list of bucket bounds in seconds.  Each observation goes into the first
bucket whose bound it does not exceed, or into the overflow beyond the last.  A snapshot shows the
buckets cumulatively, without the overflow, which the count covers.

* `LatencyHistogram.slot` is the place of an observation, and `LatencyHistogram.observe` counts it
  there.
* `LatencyHistogram.snapshot` is the values at one moment.  Its buckets are running sums of the
  counts, so each says how many observations were at most its bound, if the bounds ascend.
* `HistogramSnapshot.toMeasurement` is a snapshot as a measurement, which is how the agent exports
  it.

Counts wrap at `2 ^ 64`.  The sum is kept in whole microseconds and wraps there too; a single
observation counts for at most `2 ^ 64 - 1` microseconds.  Durations are compared with the bounds as
doubles, in the order of doubles, which is why the order of `MetricsAgent.Proofs.Double.Order` has
to be known before anything can be said of the buckets.
-/

set_option autoImplicit false

namespace MetricsAgent

/-- A histogram: its bounds, a count for each bound and one for the overflow, and the totals. -/
structure LatencyHistogram where
  bounds : List Float
  counts : List UInt64
  sumMicros : UInt64
  count : UInt64

/-- The values of a histogram at one moment, with cumulative buckets. -/
structure HistogramSnapshot where
  buckets : List Bucket
  sumSeconds : Float
  count : UInt64

namespace LatencyHistogram

/-- The bounds in seconds that are used where none are given. -/
def defaultBounds : List Float :=
  [0.001, 0.005, 0.01, 0.025, 0.05, 0.1, 0.25, 0.5, 1.0, 2.5, 5.0, 10.0]

/-- A histogram without observations. -/
def new (bounds : List Float) : LatencyHistogram :=
  ⟨bounds, List.replicate (bounds.length + 1) 0, 0, 0⟩

/-- The position of the bucket for a number of seconds. -/
def slot (h : LatencyHistogram) (seconds : Float) : Nat := h.bounds.findIdx (seconds ≤ ·)

/-- The whole microseconds that an observation adds to the sum. -/
def micros (d : Duration) : UInt64 := (min (d.nanos / 1000) (UInt64.size - 1)).toUInt64

/-- Record a duration. -/
def observe (h : LatencyHistogram) (d : Duration) : LatencyHistogram :=
  { h with
    counts := h.counts.modify (h.slot d.toFloat) (· + 1)
    sumMicros := h.sumMicros + micros d
    count := h.count + 1 }

/-- Running sums, from the left. -/
def runningSums (start : UInt64) : List UInt64 → List UInt64
  | [] => []
  | n :: ns => (start + n) :: runningSums (start + n) ns

/-- The values now. -/
def snapshot (h : LatencyHistogram) : HistogramSnapshot :=
  { buckets := (h.bounds.zip (runningSums 0 h.counts)).map fun e ↦ ⟨e.1, e.2⟩
    sumSeconds := h.sumMicros.toFloat / 1000000.0
    count := h.count }

end LatencyHistogram

namespace HistogramSnapshot

/-- No observations, and no buckets either. -/
def empty : HistogramSnapshot := ⟨[], 0.0, 0⟩

/-- A snapshot as JSON. -/
def toJson (s : HistogramSnapshot) : Json :=
  .object
    [("buckets", .array (s.buckets.map Bucket.toJson)), ("sum_seconds", .ofFloat s.sumSeconds),
      ("count", .ofUInt64 s.count)]

/-- A snapshot as a measurement. -/
def toMeasurement (name : String) (s : HistogramSnapshot) : Measurement :=
  .histogram name s.buckets s.sumSeconds s.count

end HistogramSnapshot

end MetricsAgent
