import MetricsAgent.Measurement.Tags
import MetricsAgent.Timestamp.Basic
import MetricsAgent.Text.Blank

/-!
# Measurements

A measurement is one named, tagged observation.  It has a kind, a value, tags and a time.  The value
is a single number, a histogram with cumulative buckets, or a summary of quantiles, and the
constructors (`gauge`, `counter`, `histogram`, `summary`) give each kind the value that suits it.

Tags are limited: a value keeps its first 160 characters, and a measurement that holds 32 tags takes
no new key.  A key that is there already can always be given a new value.  Everything that puts a
tag goes through `withTag`, so the limits hold of every measurement that is built here, whatever is
done to it (`MetricsAgent.Proofs.Measurement.Limits`).

A *degenerate* measurement stands for a value that could not be taken; it says so in the tag
`status`, and a failure gives its reason in a second one.  `Measurement.status` reads the tag back,
and a measurement without a readable status is a regular sample.
-/

set_option autoImplicit false

namespace MetricsAgent

/-- What a measurement measures. -/
inductive MetricKind where
  | gauge | counter | histogram | summary
  deriving DecidableEq, Repr, Inhabited

namespace MetricKind

/-- The name of the kind. -/
def name : MetricKind → String
  | gauge => "gauge"
  | counter => "counter"
  | histogram => "histogram"
  | summary => "summary"

/-- All kinds. -/
def all : List MetricKind := [gauge, counter, histogram, summary]

/-- The kind of exactly this name. -/
def ofName? (s : String) : Option MetricKind := all.find? (·.name = s)

/-- The kind of this name, in any case of its letters. -/
def parse? (s : String) : Option MetricKind := ofName? (asciiLower s)

end MetricKind

/-- How a measurement came about. -/
inductive Status where
  /-- A regular sample. -/
  | ok
  /-- Not enough history for a value. -/
  | empty
  /-- Cancelled before there was a value. -/
  | cancelled
  /-- Failed; the tag `reason` tells why. -/
  | error
  deriving DecidableEq, Repr, Inhabited

namespace Status

/-- The name of the status. -/
def name : Status → String
  | ok => "ok"
  | empty => "empty"
  | cancelled => "cancelled"
  | error => "error"

/-- All statuses. -/
def all : List Status := [ok, empty, cancelled, error]

/-- The status of this name, in any case of its letters. -/
def parse? (s : String) : Option Status := all.find? (·.name = asciiLower s)

end Status

/-- The count of observations at most `upperBound`. -/
structure Bucket where
  upperBound : Float
  count : UInt64

/-- A quantile of a summary. -/
structure Quantile where
  quantile : Float
  value : Float

/-- The numbers of a measurement. -/
inductive Value where
  /-- One number, of a gauge or a counter. -/
  | scalar (value : Float)
  /-- Cumulative buckets with the sum and the count of all observations. -/
  | histogram (buckets : List Bucket) (sum : Float) (count : UInt64)
  /-- Quantiles with the sum and the count of all observations. -/
  | summary (quantiles : List Quantile) (sum : Float) (count : UInt64)

/-- A named, tagged observation. -/
structure Measurement where
  name : String
  kind : MetricKind
  value : Value
  tags : Tags
  timestamp : Timestamp

namespace Measurement

/-- The number of characters that a tag's value keeps. -/
def maxTagValueLength : Nat := 160

/-- The number of tags beyond which new keys are ignored. -/
def maxTagCount : Nat := 32

/-- The tag that marks a degenerate measurement. -/
def statusTag : String := "status"

/-- The tag that holds the reason of a failure. -/
def reasonTag : String := "reason"

/-- The first characters of a tag's value. -/
def truncateTagValue (value : String) : String :=
  String.ofList (value.toList.take maxTagValueLength)

/-- A gauge. -/
def gauge (name : String) (value : Float) : Measurement :=
  ⟨name, .gauge, .scalar value, .empty, .epoch⟩

/-- A counter. -/
def counter (name : String) (value : Float) : Measurement :=
  ⟨name, .counter, .scalar value, .empty, .epoch⟩

/-- A histogram with cumulative buckets. -/
def histogram (name : String) (buckets : List Bucket) (sum : Float) (count : UInt64) :
    Measurement :=
  ⟨name, .histogram, .histogram buckets sum count, .empty, .epoch⟩

/-- A summary. -/
def summary (name : String) (quantiles : List Quantile) (sum : Float) (count : UInt64) :
    Measurement :=
  ⟨name, .summary, .summary quantiles sum count, .empty, .epoch⟩

/-- Put a tag, its value cut to length. A new key is ignored once the tags are full. -/
def withTag (m : Measurement) (key value : String) : Measurement :=
  if maxTagCount ≤ m.tags.size ∧ ¬m.tags.contains key then m
  else { m with tags := m.tags.insert key (truncateTagValue value) }

/-- Put several tags, one after the other. -/
def withTags (m : Measurement) (tags : List (String × String)) : Measurement :=
  tags.foldl (fun m e ↦ m.withTag e.1 e.2) m

/-- The same measurement at another time. -/
def withTimestamp (m : Measurement) (t : Timestamp) : Measurement := { m with timestamp := t }

/-- The same measurement with `lead` in front of its name. -/
def prefixed (m : Measurement) (lead : String) : Measurement := { m with name := lead ++ m.name }

/-- A placeholder with a status. -/
def degenerate (name : String) (status : Status) : Measurement :=
  (gauge name 0.0).withTag statusTag status.name

/-- A placeholder for lack of history. -/
def empty (name : String) : Measurement := degenerate name .empty

/-- A placeholder for a cancelled collection. -/
def cancelled (name : String) : Measurement := degenerate name .cancelled

/-- A placeholder for a failed collection. -/
def error (name reason : String) : Measurement :=
  (degenerate name .error).withTag reasonTag reason

/-- The number of a gauge or a counter. -/
def scalar? (m : Measurement) : Option Float :=
  match m.value with
  | .scalar x => some x
  | _ => none

/-- The value of a tag. -/
def tag? (m : Measurement) (key : String) : Option String := m.tags.get? key

/-- The status that the tags tell; without a readable one the measurement is a regular sample. -/
def status (m : Measurement) : Status := ((m.tag? statusTag).bind Status.parse?).getD .ok

/-- Whether the measurement is a placeholder. -/
def isDegenerate (m : Measurement) : Bool := m.status ≠ .ok

end Measurement

end MetricsAgent
