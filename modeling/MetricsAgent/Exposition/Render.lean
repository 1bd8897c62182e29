import MetricsAgent.Exposition.Name
import MetricsAgent.Measurement.Basic
import MetricsAgent.Decimal.Layout

/-!
# The exposition text

A batch is grouped into families by sanitized name.  A family has the kind of its first measurement;
measurements of another kind are left out.  Families are written in ascending order of their names,
the series of a family in ascending order of their label blocks, so that the text hardly depends on
the order of the batch.

* `families` is the grouping, one measurement after the other, into a list that stays ordered
  (`addTo`).
* `Family.series` puts the members of a family in order.  Equal label blocks keep the order of the
  batch.
* `samples` says which lines a measurement has.  A scalar has one; a histogram has one for each
  bucket, one for the bucket that holds everything, a sum and a count; a summary has one for each
  quantile, a sum and a count.
* `Sample.render` writes a line, and `render` the whole text.

The two steps are kept apart on purpose: what a line says is a `Sample`, and how it is written comes
afterwards.  Statements about series are about samples, and only reading the text back
(`MetricsAgent.Proofs.Exposition.ReadBack`) has to look at characters.
-/

set_option autoImplicit false

namespace MetricsAgent.Exposition

/-- Numbers are written positionally, whatever their size. -/
def number : NumberText :=
  { positionalWhen := fun _ ↦ true, wholeSuffix := "", nan := "NaN", infinite := "+Inf",
    negativeInfinite := "-Inf" }

/-- The media type of the text. -/
def contentType : String := "text/plain; version=0.0.4; charset=utf-8"

/-- A backslash, a quote and a line end are escaped in label values. -/
def escape : List Char → List Char
  | [] => []
  | c :: rest =>
    if c = '\\' then '\\' :: '\\' :: escape rest
    else if c = '"' then '\\' :: '"' :: escape rest
    else if c = '\n' then '\\' :: 'n' :: escape rest
    else c :: escape rest

/-- A label: its name, which is written as it is, and its value, which is escaped. -/
structure Label where
  name : String
  value : String
  deriving DecidableEq

/-- The labels of a measurement's tags, in the order of the tags. -/
def labelsOf (tags : Tags) : List Label := tags.entries.map fun e ↦ ⟨sanitizeLabel e.1, e.2⟩

/-- One label. -/
def Label.render (l : Label) : String :=
  l.name ++ "=\"" ++ String.ofList (escape l.value.toList) ++ "\""

/-- A label block; without labels nothing is written. -/
def renderLabels (ls : List Label) : String :=
  if ls.isEmpty then "" else "\x7b" ++ ",".intercalate (ls.map Label.render) ++ "\x7d"

/-- A sample: a metric name, its labels and a number. -/
structure Sample where
  name : String
  labels : List Label
  value : String
  deriving DecidableEq

/-- The line of a sample. -/
def Sample.render (s : Sample) : String := s.name ++ renderLabels s.labels ++ " " ++ s.value ++ "\n"

/-- The bucket that holds all observations is written even where the histogram has none such. -/
def hasInfiniteBound (buckets : List Bucket) : Bool :=
  buckets.any fun b ↦ match FloatParts.ofFloat b.upperBound with
    | .infinite false => true
    | _ => false

/-- The samples of a measurement under its sanitized name. -/
def samples (name : String) (m : Measurement) : List Sample :=
  let labels := labelsOf m.tags
  let totals (sum : Float) (count : UInt64) : List Sample :=
    [⟨name ++ "_sum", labels, number.render sum⟩, ⟨name ++ "_count", labels, toString count.toNat⟩]
  match m.value with
  | .scalar x => [⟨name, labels, number.render x⟩]
  | .histogram buckets sum count =>
    let bucket (bound : String) (n : UInt64) : Sample :=
      ⟨name ++ "_bucket", labels ++ [⟨"le", bound⟩], toString n.toNat⟩
    buckets.map (fun b ↦ bucket (number.render b.upperBound) b.count)
      ++ (if hasInfiniteBound buckets then [] else [bucket "+Inf" count]) ++ totals sum count
  | .summary quantiles sum count =>
    quantiles.map (fun q ↦
      ⟨name, labels ++ [⟨"quantile", number.render q.quantile⟩], number.render q.value⟩)
      ++ totals sum count

/-- A family of measurements of one sanitized name and one kind. -/
structure Family where
  name : String
  kind : MetricKind
  members : List Measurement

/-- Add a measurement to the families, which are in ascending order of their names. -/
def addTo (name : String) (m : Measurement) : List Family → List Family
  | [] => [⟨name, m.kind, [m]⟩]
  | f :: fs =>
    if name < f.name then ⟨name, m.kind, [m]⟩ :: f :: fs
    else if name = f.name then
      (if f.kind = m.kind then { f with members := f.members ++ [m] } else f) :: fs
    else f :: addTo name m fs

/-- The families of a batch in ascending order of their names, each with its members in the order of
the batch. -/
def families (batch : List Measurement) : List Family :=
  batch.foldl (fun fs m ↦ addTo (sanitizeName m.name) m fs) []

/-- The label block by which the series of a family are ordered. -/
def seriesKey (m : Measurement) : String := renderLabels (labelsOf m.tags)

/-- The members of a family in ascending order of their label blocks; equal blocks keep the order of
the batch. -/
def Family.series (f : Family) : List Measurement :=
  ((f.members.map fun m ↦ (seriesKey m, m)).mergeSort fun a b ↦ a.1 ≤ b.1).map (·.2)

/-- The samples of a family. -/
def Family.samples (f : Family) : List Sample := f.series.flatMap (Exposition.samples f.name)

/-- The lines of a family: its type, then its samples. -/
def Family.render (f : Family) : String :=
  "# TYPE " ++ f.name ++ " " ++ f.kind.name ++ "\n" ++ String.join (f.samples.map Sample.render)

/-- The exposition text of a batch. -/
def render (batch : List Measurement) : String := String.join ((families batch).map Family.render)

end MetricsAgent.Exposition
