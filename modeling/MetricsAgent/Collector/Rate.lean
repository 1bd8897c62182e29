import MetricsAgent.Collector.Delta
import MetricsAgent.Collector.Error

/-!
# Rates of counters

A rate collector reads counters from a source and reports how fast each series grows, under the name
of the counter with `.rate` behind.  What is done with the counters is decided by its tracker
(`MetricsAgent.Collector.Delta`); this module is about everything that may come in between.

* A cancelled collection does not ask the source, and gives a placeholder.
* A source that fails leaves the tracker alone: the baseline stays, and the next sample measures
  over the whole gap.  An expected failure becomes a placeholder, an unexpected one is passed on.
* A source that crashes leaves the collector unusable.  It then refuses every further collection, as
  a lock does that was held by a thread when that thread crashed.

`RateCollector.collect` answers the result and the collector after it, so that what a failure leaves
behind is visible in the type.
-/

set_option autoImplicit false

namespace MetricsAgent

/-- What a counter source gives when it is asked. -/
inductive CounterReading where
  | counters (l : List RawCounter)
  | failure (e : CollectorError)
  | crash (text : String)

/-- A rate collector: its name, the tracker, and whether a crash has left it unusable. -/
structure RateCollector where
  name : String
  tracker : DeltaTracker
  poisoned : Bool

namespace RateCollector

/-- A collector without history. -/
def new (name : String) (minWindow : Duration) : RateCollector := ⟨name, .new minWindow, false⟩

/-- The name under which a rate is reported. -/
def rateName (counter : String) : String := counter ++ ".rate"

/-- The measurements of what a sample told. -/
def report (name : String) : DeltaOutcome → List Measurement
  | .empty => [.empty name]
  | .ready elapsed deltas =>
    deltas.map fun d ↦
      (Measurement.gauge (rateName d.name) (d.rate elapsed)).withTags d.tags.entries

/-- Collect from a reading taken at `now`. -/
def sample (c : RateCollector) (now : Nat) : CounterReading → CollectResult × RateCollector
  | .counters l =>
    let (outcome, tracker) := c.tracker.observe now l
    (.batch (report c.name outcome), { c with tracker := tracker })
  | .failure e =>
    (if e.isExpected then .batch [e.placeholder c.name] else .failure e, c)
  | .crash text => (.crash text, { c with poisoned := true })

/-- Whether a collection would ask the source. -/
def asksSource (c : RateCollector) (cancelled : Bool) : Bool := !cancelled && !c.poisoned

/-- Collect at `now`. The source is asked only when nothing forbids it. -/
def collect (c : RateCollector) (now : Nat) (cancelled : Bool) (source : CounterReading) :
    CollectResult × RateCollector :=
  if cancelled then (.batch [.cancelled c.name], c)
  else if c.poisoned then (.failure (.invalidOperation (c.name ++ ": state poisoned")), c)
  else c.sample now source

end RateCollector

end MetricsAgent
