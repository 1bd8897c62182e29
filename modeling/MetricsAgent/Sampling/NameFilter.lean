import MetricsAgent.Pattern.Parse
import MetricsAgent.Sampling.Policy

/-!
# Filtering by name

A filter accepts a name that some pattern of the first kind matches, if there are any, and that no
pattern of the second kind matches.  Without patterns it accepts every name (`NameFilter.isEmpty`).

The patterns are those of `MetricsAgent.Pattern.Basic`, read once when the filter is made.  A
pattern matches a name when it describes some stretch of it; one that is to describe the whole name
has to say so.  `SamplingPolicy.filtered` makes the filter the predicate of a policy.
-/

set_option autoImplicit false

namespace MetricsAgent

/-- The patterns of names to take in and of names to leave out. -/
structure NameFilter where
  included : List Pattern
  excluded : List Pattern

namespace NameFilter

/-- Read the patterns of a filter. -/
def parse (included excluded : List String) : Except PatternError NameFilter := do
  return ⟨← included.mapM Pattern.parse, ← excluded.mapM Pattern.parse⟩

/-- Whether the filter has no patterns, and so accepts every name. -/
def isEmpty (f : NameFilter) : Bool := f.included.isEmpty && f.excluded.isEmpty

/-- Whether a name is accepted. -/
def accepts (f : NameFilter) (name : String) : Bool :=
  (f.included.isEmpty || f.included.any (·.matchesIn name)) && !f.excluded.any (·.matchesIn name)

end NameFilter

namespace SamplingPolicy

/-- A policy that keeps only measurements whose names a filter accepts. -/
def filtered (rate : Float) (f : NameFilter) (random : Nat → Float) : SamplingPolicy :=
  new rate (fun m ↦ f.accepts m.name) random

end SamplingPolicy

end MetricsAgent
