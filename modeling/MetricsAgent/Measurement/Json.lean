import MetricsAgent.Measurement.Basic
import MetricsAgent.Timestamp.Rfc3339
import MetricsAgent.Json.Record

/-!
# Measurements as JSON

A measurement is a record of name, kind, value, tags and timestamp.  The value is an object whose
member `type` says which form of value it is, and whose other members are the fields of that form.

Each part has a way to be written, `toJson`, and a way to be read, `ofJson?`, from the inside out:
buckets and quantiles, values, kinds, tags, and the measurement itself.  More is read than is
written.

* A record may be an array of its fields in order, an object may have its members in any order, and
  members that are no fields do not count.
* The form of a value may be given by its number in place of its name, and the kind as an object
  with one member.
* Of a tag that is given twice the last value stays.

What is written can be read, and is read as what it was
(`MetricsAgent.Proofs.Measurement.ReadBack`), with one exception: a double that is not finite is
written as `null`, which is no number.
-/

set_option autoImplicit false

namespace MetricsAgent

namespace Bucket

/-- The fields of a bucket. -/
def fieldNames : List String := ["upper_bound", "count"]

/-- A bucket as JSON. -/
def toJson (b : Bucket) : Json :=
  .object [("upper_bound", .ofFloat b.upperBound), ("count", .ofUInt64 b.count)]

/-- Read a bucket. -/
def ofJson? (j : Json) : Option Bucket := do
  match ← j.fields? fieldNames with
  | [some bound, some count] => return ⟨← bound.toFloat?, ← count.toUInt64?⟩
  | _ => none

end Bucket

namespace Quantile

/-- The fields of a quantile. -/
def fieldNames : List String := ["quantile", "value"]

/-- A quantile as JSON. -/
def toJson (q : Quantile) : Json :=
  .object [("quantile", .ofFloat q.quantile), ("value", .ofFloat q.value)]

/-- Read a quantile. -/
def ofJson? (j : Json) : Option Quantile := do
  match ← j.fields? fieldNames with
  | [some quantile, some value] => return ⟨← quantile.toFloat?, ← value.toFloat?⟩
  | _ => none

end Quantile

namespace Value

/-- The forms of a value. -/
inductive Form where
  | scalar | histogram | summary
  deriving DecidableEq, Repr

namespace Form

/-- The name of a form. -/
def name : Form → String
  | scalar => "scalar"
  | histogram => "histogram"
  | summary => "summary"

/-- All forms. -/
def all : List Form := [scalar, histogram, summary]

/-- The fields of a form. -/
def fieldNames : Form → List String
  | scalar => ["value"]
  | histogram => ["buckets", "sum", "count"]
  | summary => ["quantiles", "sum", "count"]

/-- The form that a text names. -/
def ofText? (s : String) : Option Form := all.find? (·.name = s)

/-- The form that a text names or a number counts out. -/
def ofTextOrIndex? : Json → Option Form
  | .string s => ofText? s
  | j => do all[(← j.toUInt64?).toNat]?

end Form

/-- The member that tells the form. -/
def formField : String := "type"

/-- The members of a value: the form, then its fields. -/
def members : Value → List (String × Json)
  | .scalar x => [(formField, .string "scalar"), ("value", .ofFloat x)]
  | .histogram buckets sum count =>
    [(formField, .string "histogram"), ("buckets", .array (buckets.map Bucket.toJson)),
      ("sum", .ofFloat sum), ("count", .ofUInt64 count)]
  | .summary quantiles sum count =>
    [(formField, .string "summary"), ("quantiles", .array (quantiles.map Quantile.toJson)),
      ("sum", .ofFloat sum), ("count", .ofUInt64 count)]

/-- A value as JSON. -/
def toJson (v : Value) : Json := .object v.members

/-- Build a value of a form from its fields. -/
def ofFields? : Form → List (Option Json) → Option Value
  | .scalar, [some x] => do return .scalar (← x.toFloat?)
  | .histogram, [some buckets, some sum, some count] => do
    return .histogram (← (← buckets.toList?).mapM Bucket.ofJson?) (← sum.toFloat?)
      (← count.toUInt64?)
  | .summary, [some quantiles, some sum, some count] => do
    return .summary (← (← quantiles.toList?).mapM Quantile.ofJson?) (← sum.toFloat?)
      (← count.toUInt64?)
  | _, _ => none

/-- Read a value from members, of which one tells the form. -/
def ofMembers? (formOf? : Json → Option Form) (members : List (String × Json)) : Option Value := do
  let form ← formOf? (← ← Json.member? members formField)
  ofFields? form (← Json.memberFields? form.fieldNames members)

/-- Read a value: an object, or an array that starts with the form. -/
def ofJson? : Json → Option Value
  | .object members => ofMembers? (fun j ↦ j.toText?.bind Form.ofText?) members
  | .array (form :: fields) => do
    let form ← Form.ofText? (← form.toText?)
    if fields.length = form.fieldNames.length then ofFields? form (fields.map some) else none
  | _ => none

end Value

namespace MetricKind

/-- Read a kind: its name, or an object whose one member has that name and no value. -/
def ofJson? : Json → Option MetricKind
  | .string s => ofName? s
  | .object [(s, .null)] => ofName? s
  | _ => none

end MetricKind

namespace Tags

/-- Tags as an object. -/
def toJson (t : Tags) : Json := .object (t.entries.map fun e ↦ (e.1, .string e.2))

/-- Read tags; of a repeated key the last value stays. -/
def ofJson? : Json → Option Tags
  | .object members => do
    return .ofList (← members.mapM fun e ↦ do return (e.1, ← e.2.toText?))
  | _ => none

end Tags

namespace Measurement

/-- The fields of a measurement. -/
def fieldNames : List String := ["name", "kind", "value", "tags", "timestamp"]

/-- A measurement as JSON. -/
def toJson (m : Measurement) : Json :=
  .object [("name", .string m.name), ("kind", .string m.kind.name), ("value", m.value.toJson),
    ("tags", m.tags.toJson), ("timestamp", .string m.timestamp.render)]

/-- Read a measurement. -/
def ofJson? (j : Json) : Option Measurement := do
  match ← j.fields? fieldNames with
  | [some name, some kind, some value, some tags, some timestamp] =>
    if value.isReadable (Json.maxDepth - 1) then
      return ⟨← name.toText?, ← MetricKind.ofJson? kind, ← Value.ofJson? value, ← Tags.ofJson? tags,
        ← Timestamp.parse? (← timestamp.toText?)⟩
    else none
  | _ => none

end Measurement

end MetricsAgent
