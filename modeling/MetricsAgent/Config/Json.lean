import MetricsAgent.Config.Basic
import MetricsAgent.Duration.Text
import MetricsAgent.Json.Render

/-!
# Configurations as JSON

The way in which a configuration is shown.  Every section becomes an object with the names of the
document format, and durations are written as people write them, so that what is shown could be put
into a file again.

References to the environment are shown as references.  What a variable holds is replaced only where
it is used, and a header with a secret in it is therefore not shown with its secret.
-/

set_option autoImplicit false

namespace MetricsAgent.Config

/-- A duration. -/
def durationJson (d : Duration) : Json := .string d.render

/-- A number. -/
def natJson (n : Nat) : Json := .number (toString n)

/-- The section about the server. -/
def Server.toJson (s : Server) : Json :=
  .object [("bind", .string s.bind), ("port", natJson s.port)]

/-- The section about cycles. -/
def Schedule.toJson (s : Schedule) : Json :=
  .object [("interval", durationJson s.interval), ("parallel", .bool s.parallel),
    ("parallelism", (s.parallelism.map natJson).getD .null),
    ("collector_timeout", durationJson s.collectorTimeout), ("cancel_fast", .bool s.cancelFast)]

/-- The section about sampling. -/
def Sampling.toJson (s : Sampling) : Json :=
  .object [("rate", .ofFloat s.rate), ("include", .array (s.included.map .string)),
    ("exclude", .array (s.excluded.map .string))]

/-- The section about sending. -/
def Push.toJson (p : Push) : Json :=
  .object [("enabled", .bool p.enabled), ("endpoint", (p.endpoint.map Json.string).getD .null),
    ("headers", .object (p.headers.map fun (k, v) ↦ (k, .string v))),
    ("request_timeout", durationJson p.requestTimeout), ("queue_capacity", natJson p.queueCapacity),
    ("full_mode", .string p.fullMode.name), ("max_batch_size", natJson p.maxBatchSize),
    ("empty_queue_delay", durationJson p.emptyQueueDelay)]

/-- The section about retries. -/
def Retry.toJson (r : Retry) : Json :=
  .object [("max_attempts", natJson r.maxAttempts), ("base_delay", durationJson r.baseDelay),
    ("max_delay", durationJson r.maxDelay)]

/-- The section about the agent's own metrics. -/
def SelfMetrics.toJson (s : SelfMetrics) : Json :=
  .object [("enabled", .bool s.enabled), ("prefix", .string s.lead)]

/-- The section about the collectors of the host. -/
def Collectors.toJson (c : Collectors) : Json :=
  .object
    [("cpu", .object [("enabled", .bool c.cpu)]), ("memory", .object [("enabled", .bool c.memory)]),
      ("network",
        .object
        [("enabled", .bool c.network.enabled), ("min_window", durationJson c.network.minWindow)])]

/-- A configuration. -/
def toJson (c : Config) : Json :=
  .object [("server", c.server.toJson), ("scheduler", c.scheduler.toJson),
    ("sampling", c.sampling.toJson), ("push", c.push.toJson), ("retry", c.retry.toJson),
    ("self_metrics", c.selfMetrics.toJson), ("collectors", c.collectors.toJson)]

end MetricsAgent.Config
