import MetricsAgent.Agent.Basic
import MetricsAgent.Channel.Basic
import MetricsAgent.Collector.Host
import MetricsAgent.Config.Template
import MetricsAgent.Push.Sender
import MetricsAgent.Sampling.NameFilter
import MetricsAgent.Url.Basic

/-!
# Configurations

A configuration has seven sections: the scrape server, the schedule of the cycles, sampling,
sending, retries, the agent's own metrics, and the collectors of the host.  Each has a default for
every value, and `Config.default` is all of them together.

The second half says what the sections are for.  Each becomes the record that one part of the agent
works with: `Schedule.toScheduler`, `Retry.toPolicy`, `Collectors.toHost`, `Push.toChannel`,
`toSender` and `toAgent`.  What a configuration leaves open comes in there: the number of processors
of the host, the source of jitter, the environment.

Values are kept as they were written.  Headers and the endpoint keep their references to the
environment, which are replaced when they are used, so that a configuration can be shown without
showing what the variables hold.  A time limit of zero is a value like any other here, and only
`Schedule.toScheduler` takes it for having none.
-/

set_option autoImplicit false

namespace MetricsAgent

namespace Config

/-- Where the scrape server listens. -/
structure Server where
  bind : String
  port : Nat
  deriving DecidableEq, Repr

/-- On all interfaces. -/
def Server.default : Server := ⟨"0.0.0.0", 9464⟩

/-- When and how cycles are run. -/
structure Schedule where
  interval : Duration
  parallel : Bool
  /-- How many collectors run side by side; as many as the host has processors where nothing is
  given. -/
  parallelism : Option Nat
  /-- The time that a collection may take; zero is any. -/
  collectorTimeout : Duration
  cancelFast : Bool
  deriving DecidableEq

/-- Every fifteen seconds, in parallel. -/
def Schedule.default : Schedule :=
  ⟨AgentOptions.defaultInterval, true, none, SchedulerConfig.defaultTimeout, true⟩

/-- Which measurements are kept. -/
structure Sampling where
  rate : Float
  included : List String
  excluded : List String

/-- All measurements. -/
def Sampling.default : Sampling := ⟨1.0, [], []⟩

/-- Where measurements are sent to. -/
structure Push where
  enabled : Bool
  endpoint : Option String
  /-- Further headers of a request, in the order of their names. -/
  headers : List (String × String)
  requestTimeout : Duration
  queueCapacity : Nat
  fullMode : FullMode
  maxBatchSize : Nat
  emptyQueueDelay : Duration
  deriving DecidableEq

/-- The time that a request may take where none is given. -/
def Push.defaultRequestTimeout : Duration := .ofSeconds 10

/-- Nowhere. -/
def Push.default : Push :=
  ⟨false, none, [], Push.defaultRequestTimeout, Channel.defaultCapacity, .dropNewest,
    SenderSetup.defaultMaxBatchSize, SenderSetup.defaultEmptyQueueDelay⟩

/-- How a failed request is repeated. -/
structure Retry where
  maxAttempts : Nat
  baseDelay : Duration
  maxDelay : Duration
  deriving DecidableEq

/-- Three times. -/
def Retry.default : Retry :=
  ⟨RetryPolicy.defaultMaxAttempts, RetryPolicy.defaultBaseDelay, RetryPolicy.defaultMaxDelay⟩

/-- Whether the agent's own metrics are added to batches, and under which names. -/
structure SelfMetrics where
  enabled : Bool
  lead : String
  deriving DecidableEq, Repr

/-- With the names of the agent. -/
def SelfMetrics.default : SelfMetrics := ⟨true, AgentOptions.defaultLead⟩

/-- The collector of network rates. -/
structure Network where
  enabled : Bool
  minWindow : Duration
  deriving DecidableEq

/-- On, with the least window of a second. -/
def Network.default : Network := ⟨true, DeltaTracker.defaultMinWindow⟩

/-- The collectors of the host. -/
structure Collectors where
  cpu : Bool
  memory : Bool
  network : Network
  deriving DecidableEq

/-- All of them. -/
def Collectors.default : Collectors := ⟨true, true, .default⟩

end Config

/-- A configuration. -/
structure Config where
  server : Config.Server
  scheduler : Config.Schedule
  sampling : Config.Sampling
  push : Config.Push
  retry : Config.Retry
  selfMetrics : Config.SelfMetrics
  collectors : Config.Collectors

/-- The configuration that is used where nothing is given. -/
def Config.default : Config :=
  ⟨.default, .default, .default, .default, .default, .default, .default⟩

/-- An environment: what its variables hold. -/
abbrev Environment := String → Option String

namespace Config

/-- The scheduler of a configuration, on a host with a number of processors. -/
def Schedule.toScheduler (s : Schedule) (processors : Nat) : SchedulerConfig :=
  ⟨s.parallel, s.parallelism.getD processors,
    if s.collectorTimeout = .zero then none else some s.collectorTimeout, s.cancelFast⟩

/-- The filter of the names. -/
def Sampling.filter (s : Sampling) : Except PatternError NameFilter :=
  NameFilter.parse s.included s.excluded

/-- The headers with their references replaced. -/
def Push.resolvedHeaders (env : Environment) (p : Push) : List (String × String) :=
  p.headers.map fun (k, v) ↦ (k, Template.expand env v)

/-- The retry policy, with a source of jitter. -/
def Retry.toPolicy (r : Retry) (jitter : Nat → Duration → Duration) : RetryPolicy :=
  ⟨r.maxAttempts, r.baseDelay, r.maxDelay, jitter⟩

/-- The collectors that are wanted. -/
def Collectors.toHost (c : Collectors) : Host.Options :=
  ⟨c.cpu, c.memory, c.network.enabled, c.network.minWindow⟩

/-- The number of collectors that are on. -/
def Collectors.enabledCount (c : Collectors) : Nat :=
  [c.cpu, c.memory, c.network.enabled].countP id

/-- The options of the agent. -/
def toAgent (c : Config) : AgentOptions :=
  ⟨c.scheduler.interval, c.selfMetrics.enabled, c.selfMetrics.lead⟩

/-- The queue of the pipeline. -/
def Push.toChannel (p : Push) (metrics : MetricsAgent.SelfMetrics) :
    Except ChannelError (Channel Envelope) :=
  Channel.new p.queueCapacity p.fullMode metrics

/-- The sender of the pipeline. -/
def toSender {σ : Type} (c : Config) (client : RemoteClient σ)
    (jitter : Nat → Duration → Duration) : SenderSetup σ where
  client := client
  retry := c.retry.toPolicy jitter
  isTransient := ExportError.isTransient
  maxBatchSize := c.push.maxBatchSize
  emptyQueueDelay := c.push.emptyQueueDelay

end Config

end MetricsAgent
