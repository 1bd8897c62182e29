import MetricsAgent.Config.Basic
import MetricsAgent.Duration.Text
import MetricsAgent.Yaml.Typed

/-!
# Configurations as YAML

A document lays the values that it has over the defaults.  Keys that are no fields do not count, and
a document without content is the default.  `Config.ofNode` reads a whole configuration, and one
function for each section does the rest.

Defaults come in two ways.  The server, the collectors and the configuration itself take what they
lack from their default value: a document without a section is given the default section.  The
fields of the other sections have defaults of their own, which are written here, and a section that
is there but lacks a field takes them.  That both ways lead to the same values is not obvious from
the definitions; it is part of `MetricsAgent.Proofs.Config.Overlay`.

Headers are a mapping with free keys.  They are put into the order of their names, and of several
with one name the last one counts.
-/

set_option autoImplicit false

namespace MetricsAgent.Config

open Yaml (Node TypeError field)

/-- A duration as people write it. -/
def duration (n : Node) : Except TypeError Duration := do
  match Duration.parseChars (← n.text).toList with
  | .ok d => return d
  | .error _ => .error (.expected "a duration")

/-- The mode with exactly this name. Refusing has a second name. -/
def fullMode? (name : String) : Option FullMode :=
  if name = "drop_write" then some .dropNewest else FullMode.all.find? (·.name = name)

/-- Put an entry into a list that is ordered by the names, in place of the one with its name. -/
def insertHeader (e : String × String) : List (String × String) → List (String × String)
  | [] => [e]
  | h :: hs =>
    if e.1 < h.1 then e :: h :: hs else if e.1 = h.1 then e :: hs else h :: insertHeader e hs

/-- Headers, in the order of their names. Of several with one name the last one counts. -/
def headers (n : Node) : Except TypeError (List (String × String)) := do
  let es ← (← n.entries).mapM fun (k, v) ↦ do return (k, ← v.text)
  return es.foldl (fun hs e ↦ insertHeader e hs) []

/-- Read the section about the server. -/
def Server.ofNode (n : Node) : Except TypeError Server := do
  let fs ← n.fields ["bind", "port"]
  return ⟨← field fs "bind" Node.text default.bind,
    ← field fs "port" (Node.unsigned 65536) default.port⟩

/-- Read the section about cycles. -/
def Schedule.ofNode (n : Node) : Except TypeError Schedule := do
  let fs ← n.fields ["interval", "parallel", "parallelism", "collector_timeout", "cancel_fast"]
  return ⟨← field fs "interval" duration AgentOptions.defaultInterval,
    ← field fs "parallel" Node.flag true,
    ← field fs "parallelism" (Node.optional (Node.unsigned UInt64.size)) none,
    ← field fs "collector_timeout" duration SchedulerConfig.defaultTimeout,
    ← field fs "cancel_fast" Node.flag true⟩

/-- Read the section about sampling. -/
def Sampling.ofNode (n : Node) : Except TypeError Sampling := do
  let fs ← n.fields ["rate", "include", "exclude"]
  return ⟨← field fs "rate" Node.real 1.0,
    ← field fs "include" (Node.list Node.text) [],
    ← field fs "exclude" (Node.list Node.text) []⟩

/-- Read the section about sending. -/
def Push.ofNode (n : Node) : Except TypeError Push := do
  let fs ← n.fields
    ["enabled", "endpoint", "headers", "request_timeout", "queue_capacity", "full_mode",
      "max_batch_size", "empty_queue_delay"]
  return ⟨← field fs "enabled" Node.flag false,
    ← field fs "endpoint" (Node.optional Node.text) none,
    ← field fs "headers" Config.headers [],
    ← field fs "request_timeout" duration defaultRequestTimeout,
    ← field fs "queue_capacity" (Node.unsigned UInt64.size) Channel.defaultCapacity,
    ← field fs "full_mode" (Node.name fullMode?) .dropNewest,
    ← field fs "max_batch_size" (Node.unsigned UInt64.size) SenderSetup.defaultMaxBatchSize,
    ← field fs "empty_queue_delay" duration SenderSetup.defaultEmptyQueueDelay⟩

/-- Read the section about retries. -/
def Retry.ofNode (n : Node) : Except TypeError Retry := do
  let fs ← n.fields ["max_attempts", "base_delay", "max_delay"]
  return ⟨← field fs "max_attempts" (Node.unsigned UInt32.size) RetryPolicy.defaultMaxAttempts,
    ← field fs "base_delay" duration RetryPolicy.defaultBaseDelay,
    ← field fs "max_delay" duration RetryPolicy.defaultMaxDelay⟩

/-- Read the section about the agent's own metrics. -/
def SelfMetrics.ofNode (n : Node) : Except TypeError SelfMetrics := do
  let fs ← n.fields ["enabled", "prefix"]
  return ⟨← field fs "enabled" Node.flag true,
    ← field fs "prefix" Node.text AgentOptions.defaultLead⟩

/-- Read whether a collector is on. -/
def toggle (n : Node) : Except TypeError Bool := do
  let fs ← n.fields ["enabled"]
  field fs "enabled" Node.flag true

/-- Read the settings of the collector of network rates. -/
def Network.ofNode (n : Node) : Except TypeError Network := do
  let fs ← n.fields ["enabled", "min_window"]
  return ⟨← field fs "enabled" Node.flag true,
    ← field fs "min_window" duration DeltaTracker.defaultMinWindow⟩

/-- Read the section about the collectors of the host. -/
def Collectors.ofNode (n : Node) : Except TypeError Collectors := do
  let fs ← n.fields ["cpu", "memory", "network"]
  return ⟨← field fs "cpu" toggle default.cpu, ← field fs "memory" toggle default.memory,
    ← field fs "network" Network.ofNode default.network⟩

/-- Read a configuration. -/
def ofNode (n : Node) : Except TypeError Config := do
  let fs ← n.fields
    ["server", "scheduler", "sampling", "push", "retry", "self_metrics", "collectors"]
  return ⟨← field fs "server" Server.ofNode default.server,
    ← field fs "scheduler" Schedule.ofNode default.scheduler,
    ← field fs "sampling" Sampling.ofNode default.sampling,
    ← field fs "push" Push.ofNode default.push, ← field fs "retry" Retry.ofNode default.retry,
    ← field fs "self_metrics" SelfMetrics.ofNode default.selfMetrics,
    ← field fs "collectors" Collectors.ofNode default.collectors⟩

/-- Read the configuration of a document. Where there is none it is the default. -/
def ofDocument : Option Node → Except TypeError Config
  | none => .ok .default
  | some n => ofNode n

end MetricsAgent.Config
