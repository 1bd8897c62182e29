import MetricsAgent.Collector.Rate
import MetricsAgent.Collector.Registry

/-!
# Collectors of the host

Processor usage, memory and network traffic.  The readings themselves come from outside; this module
says which measurements they become, and when there are too few of them.

* `Host.Collector` is a collector with what it remembers: when the processor usage was last
  refreshed, and the tracker of the network rates.  `Collector.collect` answers a result and the
  collector after it.
* `cpuMeasurements`, `memoryMeasurements` and `networkCounters` are the measurements of a reading.
  The percentage of the memory needs a total that is not zero, and is left out otherwise.
* `toModule` is the module of the wanted collectors, as the scheduler runs them.  A collector there
  is known by what its `n`-th call does, so the collector is run through the readings before it
  (`Collector.after`).

Usage of the processor is a difference between two refreshes.  The first one tells nothing, and so
do two that are closer together than `minCpuInterval`; both give an empty placeholder.  On a
platform without readings every wanted collector reports that it is not supported.
-/

set_option autoImplicit false

namespace MetricsAgent.Host

/-- The name of the module that holds the collectors. -/
def moduleName : String := "host"

/-- Whether the platform has readings. -/
inductive Probe where
  | available
  | unsupported
  deriving DecidableEq, Repr

/-- Which collectors are wanted, and the least window between two network samples. -/
structure Options where
  cpu : Bool
  memory : Bool
  network : Bool
  minWindow : Duration

/-- All collectors. -/
def Options.default : Options := ⟨true, true, true, DeltaTracker.defaultMinWindow⟩

/-- Processor usage in percent: of the whole and of each core. -/
structure CpuReading where
  total : Float
  cores : List Float

/-- Sizes in bytes. -/
structure MemoryReading where
  total : UInt64
  used : UInt64
  available : UInt64
  swapTotal : UInt64
  swapUsed : UInt64

/-- The totals of a network interface. -/
structure InterfaceReading where
  name : String
  bytesReceived : UInt64
  bytesSent : UInt64
  packetsReceived : UInt64
  packetsSent : UInt64

/-- What a platform tells. -/
structure Readings where
  cpu : CpuReading
  memory : MemoryReading
  network : List InterfaceReading

/-- A collector of the host, with what it remembers. -/
inductive Collector where
  /-- When the usage was last refreshed, in nanoseconds. -/
  | cpu (refreshed : Option Nat)
  | memory
  | network (rates : RateCollector)
  | unsupported (name : String)

/-- The name of a collector. -/
def Collector.name : Collector → String
  | .cpu _ => "cpu"
  | .memory => "memory"
  | .network rates => rates.name
  | .unsupported name => name

/-- The wanted collectors. -/
def collectors (probe : Probe) (o : Options) : List Collector :=
  let pick (wanted : Bool) (c : Collector) : List Collector := if wanted then [c] else []
  match probe with
  | .available =>
    pick o.cpu (.cpu none) ++ pick o.memory .memory
      ++ pick o.network (.network (.new "network" o.minWindow))
  | .unsupported =>
    pick o.cpu (.unsupported "cpu") ++ pick o.memory (.unsupported "memory")
      ++ pick o.network (.unsupported "network")

/-- Two refreshes closer together than this, in nanoseconds, tell nothing. -/
def minCpuInterval : Nat := 200000000

/-- The gauges of processor usage. -/
def cpuMeasurements (r : CpuReading) : List Measurement :=
  .gauge "cpu.usage" r.total
    :: (r.cores.zipIdx.map fun e ↦
      (Measurement.gauge "cpu.core_usage" e.1).withTag "core" (toString e.2))

/-- The gauges of memory. The percentage needs a total. -/
def memoryMeasurements (r : MemoryReading) : List Measurement :=
  [ .gauge "memory.total_bytes" r.total.toFloat,
    .gauge "memory.used_bytes" r.used.toFloat,
    .gauge "memory.available_bytes" r.available.toFloat,
    .gauge "memory.swap_total_bytes" r.swapTotal.toFloat,
    .gauge "memory.swap_used_bytes" r.swapUsed.toFloat ]
  ++ if 0 < r.total then [.gauge "memory.used_percent" (r.used.toFloat / r.total.toFloat * 100.0)]
    else []

/-- The counters of network traffic. -/
def networkCounters (rs : List InterfaceReading) : List RawCounter :=
  rs.flatMap fun r ↦
    let tags := Tags.empty.insert "interface" r.name
    [ ⟨"network.bytes_recv", tags, r.bytesReceived⟩, ⟨"network.bytes_sent", tags, r.bytesSent⟩,
      ⟨"network.packets_recv", tags, r.packetsReceived⟩,
      ⟨"network.packets_sent", tags, r.packetsSent⟩ ]

/-- Collect at `now`. -/
def Collector.collect (c : Collector) (now : Nat) (cancelled : Bool) (r : Readings) :
    CollectResult × Collector :=
  match c with
  | .cpu refreshed =>
    if cancelled then (.batch [.cancelled "cpu.usage"], c)
    else
      match refreshed with
      | none => (.batch [.empty "cpu.usage"], .cpu (some now))
      | some last =>
        if now - last < minCpuInterval then (.batch [.empty "cpu.usage"], c)
        else (.batch (cpuMeasurements r.cpu), .cpu (some now))
  | .memory =>
    (.batch
      (if cancelled then [.cancelled "memory.used_bytes"] else memoryMeasurements r.memory), c)
  | .network rates =>
    let (result, rates) := rates.collect now cancelled (.counters (networkCounters r.network))
    (result, .network rates)
  | .unsupported name => (.batch [.error name "platform not supported"], c)

/-- A collector after so many collections, at the given times and with the given readings. -/
def Collector.after (c : Collector) (readings : Nat → Nat × Readings) : Nat → Collector
  | 0 => c
  | n + 1 =>
    let (now, r) := readings n
    ((c.after readings n).collect now false r).2

/-- The module of the wanted collectors, on a platform with the given readings. They answer at
once. -/
def toModule (probe : Probe) (o : Options) (readings : Nat → Nat × Readings) : CollectorModule :=
  let ofHost (c : Collector) : MetricsAgent.Collector :=
    { name := c.name
      behaviour := fun n ↦
        let (now, r) := readings n
        ⟨some 0, false, false, ((c.after readings n).collect now false r).1⟩
      shutdownMs := 0 }
  ⟨moduleName, (collectors probe o).map ofHost, none⟩

end MetricsAgent.Host
