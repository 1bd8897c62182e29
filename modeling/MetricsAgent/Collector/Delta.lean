import MetricsAgent.Measurement.Tags
import MetricsAgent.Duration.Basic

/-!
# Deltas of counters

A counter of the host only grows, and what is reported of it is how fast.  A tracker holds a
baseline: the last sample that it accepted.  A sample that comes too early after the baseline is
discarded, so the next one measures over the whole gap.  Every other sample is compared with the
baseline, series by series, and takes its place (`DeltaTracker.observe`).

A series is a name with tags.  Samples are compared by the text that `RawCounter.seriesKey` makes of
them, in which the tags are joined without being escaped; two series with one text are one series to
the tracker.  A series that the baseline does not know has no delta in this sample, and one that has
left has none either.

A counter that went back — its interface was removed and came back, or the host was started again —
has not grown: `clampedDelta` is zero there, and never wraps around.  The rate of a delta is taken
over the time since the baseline, and is zero where no time has passed.
-/

set_option autoImplicit false

namespace MetricsAgent

/-- The growth of a counter; a counter that went back has not grown. -/
def clampedDelta (previous current : UInt64) : UInt64 :=
  if previous ≤ current then current - previous else 0

/-- A reading of a monotonic counter. -/
structure RawCounter where
  name : String
  tags : Tags
  value : UInt64

/-- The text that identifies the series of a counter: its name and its tags. -/
def RawCounter.seriesKey (c : RawCounter) : String :=
  c.name ++ String.join (c.tags.entries.map fun e ↦ "|" ++ e.1 ++ "=" ++ e.2)

/-- The growth of one series. -/
structure CounterDelta where
  name : String
  tags : Tags
  delta : UInt64

/-- The growth per second; zero over no time. -/
def CounterDelta.rate (d : CounterDelta) (elapsed : Duration) : Float :=
  let seconds := elapsed.toFloat
  if 0.0 < seconds then d.delta.toFloat / seconds else 0.0

/-- An accepted sample: when it was taken, in nanoseconds, and its counters. -/
structure CounterSample where
  time : Nat
  counters : List RawCounter

/-- The value of a series in a sample; of a repeated series the last. -/
def CounterSample.value? (s : CounterSample) (key : String) : Option UInt64 :=
  (s.counters.reverse.find? (·.seriesKey = key)).map (·.value)

/-- What a sample told. -/
inductive DeltaOutcome where
  /-- Nothing to compare with, or too early. -/
  | empty
  | ready (elapsed : Duration) (deltas : List CounterDelta)

/-- A baseline, and the least time after it at which a sample is accepted. -/
structure DeltaTracker where
  minWindow : Duration
  baseline : Option CounterSample

namespace DeltaTracker

/-- The least window where none is given. -/
def defaultMinWindow : Duration := .ofSeconds 1

/-- A tracker without a baseline. -/
def new (minWindow : Duration) : DeltaTracker := ⟨minWindow, none⟩

/-- The growth of the series that the baseline knows. -/
def deltas (baseline : CounterSample) (counters : List RawCounter) : List CounterDelta :=
  counters.filterMap fun c ↦
    (baseline.value? c.seriesKey).map fun previous ↦ ⟨c.name, c.tags, clampedDelta previous c.value⟩

/-- Take in a sample. -/
def observe (t : DeltaTracker) (now : Nat) (counters : List RawCounter) :
    DeltaOutcome × DeltaTracker :=
  let accepted : DeltaTracker := { t with baseline := some ⟨now, counters⟩ }
  match t.baseline with
  | none => (.empty, accepted)
  | some baseline =>
    let elapsed := Duration.between baseline.time now
    if elapsed < t.minWindow then (.empty, t)
    else (.ready elapsed (deltas baseline counters), accepted)

end DeltaTracker

end MetricsAgent
