import MetricsAgent.Measurement.Basic
import MetricsAgent.Duration.Text

/-!
# Results of a collection

What a call of a collector can come to: measurements, an error, or a crash with its text.

Errors are divided into two by `CollectorError.isExpected`.  All but the unexpected one concern
their collector alone: the cycle goes on, and a placeholder stands in the batch for the values that
are missing (`CollectorError.placeholder`), which tells a cancellation from any other failure.  An
unexpected error ends the whole cycle, and so does a crash.

The wordings of the errors are part of the placeholders, and with that of what the agent exports.
-/

set_option autoImplicit false

namespace MetricsAgent

/-- Why a collection failed. -/
inductive CollectorError where
  | io (detail : String)
  | permissionDenied (detail : String)
  | notFound (detail : String)
  | unsupported (detail : String)
  | disposed (detail : String)
  | invalidOperation (detail : String)
  | timeout (limit : Duration)
  | cancelled
  | unexpected (detail : String)
  deriving DecidableEq

namespace CollectorError

/-- The wording of an error. -/
def message : CollectorError → String
  | io detail => "io error: " ++ detail
  | permissionDenied detail => "permission denied: " ++ detail
  | notFound detail => "not found: " ++ detail
  | unsupported detail => "unsupported: " ++ detail
  | disposed detail => "collector disposed: " ++ detail
  | invalidOperation detail => "invalid operation: " ++ detail
  | timeout limit => "timeout elapsed after " ++ limit.compact
  | cancelled => "collection cancelled"
  | unexpected detail => "unexpected failure: " ++ detail

/-- Whether the error concerns its collector alone. -/
def isExpected : CollectorError → Bool
  | unexpected _ => false
  | _ => true

/-- Whether the error is a cancellation. -/
def isCancelled : CollectorError → Bool
  | cancelled => true
  | _ => false

/-- The placeholder that stands for the values a failed collector would have given. -/
def placeholder (name : String) (e : CollectorError) : Measurement :=
  if e.isCancelled then .cancelled name else .error name e.message

end CollectorError

/-- What a collection gives: measurements, an error, or a crash with its text. -/
inductive CollectResult where
  | batch (l : List Measurement)
  | failure (e : CollectorError)
  | crash (text : String)

end MetricsAgent
