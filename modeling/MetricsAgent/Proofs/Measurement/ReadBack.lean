import MetricsAgent.Proofs.Push.Envelope
import MetricsAgent.Proofs.Timestamp.ReadBack

/-!
# Measurements read back

A measurement is read back from its text with everything it holds: its name, its kind, its value
with all buckets or quantiles, its tags, and its time to the nanosecond.  This is
`Measurement.reads_back`.

That the reader of numbers gives back the doubles that were written is a hypothesis.  The reader
rounds in its own way (`MetricsAgent.Json.Basic`), and what is shown here is that nothing else is
lost.  A double that is not finite has no text, so the doubles of the measurement have to be finite,
and the year has to be one that a timestamp can lie in.

The work is done elsewhere: texts by `MetricsAgent.Proofs.Json.Codec`, numbers by
`MetricsAgent.Proofs.Json.Literal`, times by `MetricsAgent.Proofs.Timestamp.ReadBack`.  Here the
fields of the record are found once, and each of them is read by its own lemma.
-/

set_option autoImplicit false

namespace MetricsAgent

open Json

namespace Value

/-- A value is read with its doubles read back. -/
theorem ofJson?_toJson (v : Value) : ofJson? v.toJson = v.reread? := by
  refine ofMembers?_members (fun form ↦ ?_) v
  cases form <;> rfl

theorem isClean_toJson (v : Value) : IsClean v.toJson := by
  rw [toJson, IsClean]
  exact v.membersClean_members

end Value

namespace Measurement

theorem isClean_toJson (m : Measurement) : IsClean m.toJson := by
  simp [toJson, IsClean, MembersClean, m.value.isClean_toJson, m.tags.isClean_toJson]

theorem fields?_toJson (m : Measurement) : m.toJson.fields? fieldNames =
    some
      [some (.string m.name), some (.string m.kind.name), some m.value.toJson, some m.tags.toJson,
        some (.string m.timestamp.render)] := by
  simp [toJson, fieldNames, fields?, memberFields?, member?]

/-- **A measurement reads back from its text**: its name, its kind, its value with all buckets or
quantiles, its tags and its time. The doubles of the value are finite, and the reader of numbers
gives back what is written for them. The time is any time of the calendar, in whole milliseconds or
not. -/
theorem reads_back (m : Measurement)
    (range : Timestamp.yearInRange m.timestamp.date.year = true)
    (finite : ∀ x ∈ m.value.doubles, (FloatParts.ofFloat x).isFinite = true)
    (inverts : ∀ x ∈ m.value.doubles, (FloatParts.ofFloat x).isFinite = true →
      (ofFloat x).toFloat? = some x) :
    parseJson? m.renderJson = some m := by
  have back : ∀ x ∈ m.value.doubles, Value.readBack? x = some x :=
    fun x hx ↦ inverts x hx (finite x hx)
  have kind : MetricKind.ofJson? (.string m.kind.name) = some m.kind := by
    cases m.kind <;> rfl
  have tags : Tags.ofJson? m.tags.toJson = some m.tags := m.tags.ofJson?_reorders_toJson (.same _)
  have readable : m.value.toJson.isReadable (maxDepth - 1) = true := by
    rw [Value.toJson, isReadable, Value.membersReadable_of_le back (by decide)]
    decide
  rw [parseJson?, renderJson, parse?_render m.isClean_toJson, Option.bind_some,
    ofJson?, fields?_toJson]
  simp only [Option.bind_eq_bind, Option.bind_some, readable, toText?, kind, Value.ofJson?_toJson,
    Value.reread?_eq_self back, tags, Timestamp.parse?_render range]
  rfl

/-- A histogram of the last millisecond of a leap day before 1970. -/
theorem reads_back_on_leap_day :
    let m :=
      ((histogram "latency" [⟨0.1, 2⟩, ⟨1.0, 5⟩] 2.3 5).withTag "zone" "a \"b\"").withTimestamp
        (.ofMillis (-57974400001))
    m.timestamp.render = "1968-02-29T23:59:59.999Z" ∧ parseJson? m.renderJson = some m := by
  intro m
  have doubles (p : Float → Prop) (h : p 0.1 ∧ p 1.0 ∧ p 2.3) : ∀ x ∈ m.value.doubles, p x := by
    have e : m.value.doubles = [0.1, 1.0, 2.3] := rfl
    simpa [e] using h
  refine ⟨by decide, reads_back m (by decide) (doubles _ ?_) (doubles _ ?_)⟩
  · decide
  · exact ⟨fun _ ↦ rfl, fun _ ↦ rfl, fun _ ↦ rfl⟩

end Measurement

end MetricsAgent
