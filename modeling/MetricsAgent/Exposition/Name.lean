import MetricsAgent.Text.Blank

/-!
# Names in the exposition text

Metric names and label names come from arbitrary text, and the text format permits few characters in
them.  Each character outside of the permitted set becomes an underscore, and an underscore goes in
front of an empty name or one that starts with a digit.  Metric names may hold colons, label names
may not; apart from that `sanitizeName` and `sanitizeLabel` are one function, `sanitize`.

The result is always a name that may be written.  It is not always a *different* name: `a.b` and
`a_b` are written alike, and what follows from that for the series of a batch is the subject of
`MetricsAgent.Proofs.Exposition.LabelNames` and `MetricsAgent.Proofs.Exposition.Series`.
-/

set_option autoImplicit false

namespace MetricsAgent.Exposition

/-- A character permitted in label names. -/
def isLabelChar (c : Char) : Bool := isAsciiAlnum c || c = '_'

/-- A character permitted in metric names. -/
def isNameChar (c : Char) : Bool := isLabelChar c || c = ':'

/-- An ASCII digit. -/
def isDigit (c : Char) : Bool := '0' ≤ c && c ≤ '9'

/-- Whether a name may not start like this. -/
def needsUnderscore : List Char → Bool
  | [] => true
  | c :: _ => isDigit c

/-- Replace what is not permitted, and mend the start. -/
def sanitize (permitted : Char → Bool) (cs : List Char) : List Char :=
  let mapped := cs.map fun c ↦ if permitted c then c else '_'
  if needsUnderscore mapped then '_' :: mapped else mapped

/-- A metric name made of arbitrary text. -/
def sanitizeName (s : String) : String := String.ofList (sanitize isNameChar s.toList)

/-- A label name made of arbitrary text. -/
def sanitizeLabel (s : String) : String := String.ofList (sanitize isLabelChar s.toList)

end MetricsAgent.Exposition
