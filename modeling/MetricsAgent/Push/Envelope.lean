import MetricsAgent.Measurement.Json
import MetricsAgent.Json.Render
import MetricsAgent.Json.Parse

/-!
# Envelopes

An envelope is a measurement on its way to the remote end.  In its JSON text the members of the
value stand beside the other fields, and empty tags are left out.  The time is in whole
milliseconds, so what is finer than that is lost on the way.

Reading is the other direction.  Only an object is an envelope; its fields may come in any order,
tags may be missing, and the members that are no fields of the envelope are the value's.  Those that
are no fields at all have to be readable, as everywhere (`MetricsAgent.Json.Record`).  That an
envelope with finite numbers is read back from its text, and from any rearrangement of its members,
is shown in `MetricsAgent.Proofs.Push.Envelope`.

The last two functions are the texts of a measurement itself, which the same codec serves.
-/

set_option autoImplicit false

namespace MetricsAgent

/-- A measurement as it is sent: the time in whole milliseconds. -/
structure Envelope where
  name : String
  kind : MetricKind
  value : Value
  tags : Tags
  timestampMs : Int

namespace Envelope

/-- Put a measurement into an envelope. -/
def ofMeasurement (m : Measurement) : Envelope :=
  ⟨m.name, m.kind, m.value, m.tags, m.timestamp.millis⟩

/-- An envelope as JSON. -/
def toJson (e : Envelope) : Json :=
  .object ([("name", .string e.name), ("kind", .string e.kind.name)] ++ e.value.members
    ++ (if e.tags.entries.isEmpty then [] else [("tags", e.tags.toJson)])
    ++ [("timestamp_ms", .ofInt e.timestampMs)])

/-- The text that is sent. -/
def render (e : Envelope) : String := e.toJson.render

/-- The fields that do not belong to the value. -/
def fieldNames : List String := ["name", "kind", "tags", "timestamp_ms"]

/-- Read an envelope. Only an object is one; members that are no fields have to be readable. -/
def ofJson? : Json → Option Envelope
  | .object members => do
    let rest := members.filter fun m ↦ m.1 ∉ fieldNames
    match ← Json.memberFields? fieldNames members with
    | [some name, some kind, tags, some time] =>
      if Json.membersReadable (Json.maxDepth - 1) rest then
        return ⟨← name.toText?, ← MetricKind.ofJson? kind,
          ← Value.ofMembers? Value.Form.ofTextOrIndex? rest,
          ← (match tags with
            | none => some .empty
            | some tags => Tags.ofJson? tags),
          ← time.toInt64?⟩
      else none
    | _ => none
  | _ => none

/-- Read an envelope from its text. -/
def parse? (text : String) : Option Envelope := (Json.parse? text).bind ofJson?

end Envelope

/-- The JSON text of a measurement. -/
def Measurement.renderJson (m : Measurement) : String := m.toJson.render

/-- Read a measurement from its JSON text. -/
def Measurement.parseJson? (text : String) : Option Measurement :=
  (Json.parse? text).bind Measurement.ofJson?

end MetricsAgent
