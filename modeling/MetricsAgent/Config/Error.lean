import MetricsAgent.Decimal.Layout
import MetricsAgent.Duration.Text
import MetricsAgent.Pattern.Error
import MetricsAgent.Url.Host
import MetricsAgent.Yaml.Typed

/-!
# Why a configuration is refused

Four things can go wrong between a file and a configuration, and `ConfigError` tells them apart: the
file cannot be read, its text is no YAML, a value has the wrong type, or a value cannot be used.

A `ConfigFault` is a value that cannot be used.  It knows the field that holds the value
(`ConfigFault.field`) and what is wrong with it (`ConfigFault.reason`), and the message is made of
the two.  Both are texts that others rely on, so they are written out here rather than left to
whoever shows the error.

A fault carries the value that was found, as far as its reason shows it.  Rates are written with the
fewest digits that read back, and without an exponent (`ConfigFault.rateText`).
-/

set_option autoImplicit false

namespace MetricsAgent

/-- A value that cannot be used. -/
inductive ConfigFault where
  | badAddress (text : String)
  | zeroPort
  | zeroInterval
  | zeroParallelism
  | rateOutside (rate : Float)
  | badPattern (e : PatternError)
  | zeroCapacity
  | zeroBatchSize
  | zeroRequestTimeout
  | missingEndpoint
  | badEndpoint (text : String) (e : UrlError)
  | unsupportedScheme (scheme : String)
  | delaysReversed (base max : Duration)
  | zeroWindow

namespace ConfigFault

/-- Rates are written with the fewest digits that read back, without an exponent. -/
def rateText : NumberText where
  positionalWhen _ := true
  wholeSuffix := ""
  nan := "NaN"
  infinite := "inf"
  negativeInfinite := "-inf"

/-- The field with the value. -/
def field : ConfigFault → String
  | badAddress _ => "server.bind"
  | zeroPort => "server.port"
  | zeroInterval => "scheduler.interval"
  | zeroParallelism => "scheduler.parallelism"
  | rateOutside _ => "sampling.rate"
  | badPattern _ => "sampling.include/exclude"
  | zeroCapacity => "push.queue_capacity"
  | zeroBatchSize => "push.max_batch_size"
  | zeroRequestTimeout => "push.request_timeout"
  | missingEndpoint | badEndpoint .. | unsupportedScheme _ => "push.endpoint"
  | delaysReversed .. => "retry.base_delay"
  | zeroWindow => "collectors.network.min_window"

/-- What is wrong with the value. -/
def reason : ConfigFault → String
  | badAddress text => "invalid address '" ++ text ++ "'"
  | zeroPort => "must be non-zero"
  | rateOutside rate => rateText.render rate ++ " is outside [0, 1]"
  | badPattern e => e.message
  | missingEndpoint => "required when push is enabled"
  | badEndpoint text e => "invalid URL '" ++ text ++ "': " ++ e.message
  | unsupportedScheme scheme => "unsupported scheme '" ++ scheme ++ "'"
  | delaysReversed base max => base.compact ++ " exceeds retry.max_delay " ++ max.compact
  | zeroInterval | zeroParallelism | zeroCapacity | zeroBatchSize | zeroRequestTimeout
  | zeroWindow =>
    "must be positive"

end ConfigFault

/-- Why a configuration is refused. -/
inductive ConfigError where
  | unreadable (detail : String)
  | malformed (e : Yaml.YamlError)
  | mistyped (e : Yaml.TypeError)
  | invalid (f : ConfigFault)

/-- The wording of an error. -/
def ConfigError.message : ConfigError → String
  | unreadable detail => "failed to read config file: " ++ detail
  | malformed e => "failed to parse YAML config: " ++ e.message
  | mistyped e => "failed to parse YAML config: " ++ e.message
  | invalid f => "config validation error: " ++ f.field ++ ": " ++ f.reason

end MetricsAgent
