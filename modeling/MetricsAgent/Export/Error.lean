/-!
# Errors of an export

What an exporter answers: a summary of how many measurements it took and how many it dropped, or an
error.  The same errors are those of a single request to a remote end, where
`ExportError.isTransient` decides whether another attempt may succeed.  That is so after a timeout,
after a failed connection, and for the statuses with which a server says that the trouble is its own
or will pass; a batch that cannot be encoded, or a request that is refused for any other reason, is
not tried again.

Each error carries a detail: the code and the beginning of the body of an answer, and otherwise the
text of whoever noticed the failure.  `ExportError.message` is the wording that ends up in the log.
-/

set_option autoImplicit false

namespace MetricsAgent

/-- Why an export failed. -/
inductive ExportError where
  | timeout (detail : String)
  | connect (detail : String)
  | status (code : Nat) (body : String)
  | encode (detail : String)
  | request (detail : String)
  deriving DecidableEq

namespace ExportError

/-- The wording of an error. -/
def message : ExportError → String
  | timeout detail => "request timed out: " ++ detail
  | connect detail => "connect failed: " ++ detail
  | status code body => "remote returned HTTP " ++ toString code ++ ": " ++ body
  | encode detail => "encode error: " ++ detail
  | request detail => "request failed: " ++ detail

/-- Whether another attempt may succeed: after a timeout, a failed connection, or the statuses 408,
429 and 500 to 599. -/
def isTransient : ExportError → Bool
  | timeout _ | connect _ => true
  | status code _ => code = 408 || code = 429 || (500 ≤ code && code ≤ 599)
  | encode _ | request _ => false

end ExportError

/-- How many measurements an export took and how many it dropped. -/
structure ExportSummary where
  accepted : Nat
  dropped : Nat
  deriving DecidableEq, Repr, Inhabited

end MetricsAgent
