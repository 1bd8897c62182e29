import MetricsAgent.Config.Basic
import MetricsAgent.Config.Error

/-!
# Checking configurations

The sections are checked one after the other, in the order of the document, and the first fault is
the one that counts.  Each section has a check of its own, and `Config.check` chains them.

Some of the checks do more than compare numbers.  The address of the server has to be an address of
a host and not a name; the patterns of the sampling section have to be regular expressions, and
`Sampling.toFilter` answers the filter as well, so that what is checked is what is used; the
endpoint has to be a URL of the web after its references are replaced, but only when sending is
switched on.

What is not checked matters too.  The number of collectors side by side has no upper bound here, and
the pause at an empty queue may be zero; what follows from either is said in
`MetricsAgent.Proofs.Config.Startup` and `MetricsAgent.Proofs.Push.Pacing`.
-/

set_option autoImplicit false

namespace MetricsAgent.Config

/-- Fail where a condition does not hold. -/
def require (condition : Bool) (f : ConfigFault) : Except ConfigFault Unit :=
  if condition then .ok () else .error f

/-- Check the section about the server. -/
def Server.check (s : Server) : Except ConfigFault Unit := do
  require (isIpAddress s.bind) (.badAddress s.bind)
  require (s.port ≠ 0) .zeroPort

/-- Check the section about cycles. -/
def Schedule.check (s : Schedule) : Except ConfigFault Unit := do
  require (s.interval ≠ .zero) .zeroInterval
  require (s.parallelism ≠ some 0) .zeroParallelism

/-- The filter of the names, if the rate is one and the patterns are. -/
def Sampling.toFilter (s : Sampling) : Except ConfigFault NameFilter := do
  require (0.0 ≤ s.rate && s.rate ≤ 1.0) (.rateOutside s.rate)
  match s.filter with
  | .ok f => return f
  | .error e => .error (.badPattern e)

/-- The sampling policy, with a source of random numbers. -/
def Sampling.toPolicy (s : Sampling) (random : Nat → Float) :
    Except ConfigFault SamplingPolicy := do
  return .filtered s.rate (← s.toFilter) random

/-- The URL of the remote end. -/
def Push.endpointUrl (env : Environment) (p : Push) : Except ConfigFault Url := do
  match p.endpoint with
  | none => .error .missingEndpoint
  | some text =>
    match Url.parse (Template.expand env text) with
    | .error e => .error (.badEndpoint text e)
    | .ok u =>
      if u.scheme = "http" || u.scheme = "https" then .ok u
      else .error (.unsupportedScheme u.scheme)

/-- Check the section about sending. -/
def Push.check (env : Environment) (p : Push) : Except ConfigFault Unit := do
  require (p.queueCapacity ≠ 0) .zeroCapacity
  require (p.maxBatchSize ≠ 0) .zeroBatchSize
  require (p.requestTimeout ≠ .zero) .zeroRequestTimeout
  if p.enabled then let _ ← p.endpointUrl env

/-- Check the section about retries. -/
def Retry.check (r : Retry) : Except ConfigFault Unit :=
  require (r.baseDelay ≤ r.maxDelay) (.delaysReversed r.baseDelay r.maxDelay)

/-- Check the section about the collectors of the host. -/
def Collectors.check (c : Collectors) : Except ConfigFault Unit :=
  require (!c.network.enabled || c.network.minWindow ≠ .zero) .zeroWindow

/-- Check a configuration in an environment. -/
def check (env : Environment) (c : Config) : Except ConfigFault Unit := do
  c.server.check
  c.scheduler.check
  let _ ← c.sampling.toFilter
  c.push.check env
  c.retry.check
  c.collectors.check

end MetricsAgent.Config
