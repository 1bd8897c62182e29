import MetricsAgent.Proofs.Exposition.ReadBack

/-!
# Label names within a line

The keys of a measurement's tags differ, but the label names that are made of them need not:
sanitizing maps different keys to one name, and a key may be the name of the label that tells the
bound of a bucket or a quantile.  `Exposition.labelNames` are the names that the lines of a
measurement use.  The names in every line of the text differ just if they do for every measurement
that is written (`Exposition.label_names_differ_iff`).

The condition is exact, over all batches.  What the text format wants, that no line has one label
name twice, therefore does not hold of every batch, and `not_label_names_differ` shows the smallest
case: a gauge with two tags whose keys are `a.b` and `a_b`.
-/

set_option autoImplicit false

namespace MetricsAgent.Exposition

/-- The label names of a line, in order. -/
def Sample.labelNames (s : Sample) : List String := s.labels.map (·.name)

/-- The label that some lines of a measurement have besides its tags. -/
def extraName : Value → List String
  | .scalar _ => []
  | .histogram .. => ["le"]
  | .summary [] .. => []
  | .summary (_ :: _) .. => ["quantile"]

/-- The label names that the lines of a measurement use: its sanitized keys, and one more. -/
def labelNames (m : Measurement) : List String :=
  m.tags.keys.map sanitizeLabel ++ extraName m.value

/-! ## The lines of a measurement

Some lines of a histogram or a summary have one label more than its tags, the others have just the
tags.  If the names differ in the longer lines, they do in the shorter ones (`Uses`), so one
condition on the measurement is enough. -/

section Lines

variable {name : String} {m : Measurement}

/-- The label names that are made of keys. -/
theorem names_labelsOf (tags : Tags) :
    (labelsOf tags).map (·.name) = tags.keys.map sanitizeLabel := by
  rw [labelsOf, Tags.keys, List.map_map, List.map_map]
  rfl

theorem labelNames_bucketLine (bound : String) (count : UInt64) :
    (bucketLine name m bound count).labelNames = m.tags.keys.map sanitizeLabel ++ ["le"] := by
  rw [Sample.labelNames, bucketLine, List.map_append, names_labelsOf]
  rfl

theorem labelNames_quantileLine (q : Quantile) :
    (quantileLine name m q).labelNames = m.tags.keys.map sanitizeLabel ++ ["quantile"] := by
  rw [Sample.labelNames, quantileLine, List.map_append, names_labelsOf]
  rfl

theorem labelNames_totalLines (sum : Float) (count : UInt64) : ∀ s ∈ totalLines name m sum count,
    s.labelNames = m.tags.keys.map sanitizeLabel := by
  rw [totalLines, List.forall_mem_cons, List.forall_mem_singleton]
  exact ⟨names_labelsOf m.tags, names_labelsOf m.tags⟩

/-- The lines of a measurement use all of its label names, or those that are made of keys, and some
line uses all. -/
structure Uses (m : Measurement) (ss : List Sample) : Prop where
  each : ∀ s ∈ ss, s.labelNames = labelNames m ∨ s.labelNames = m.tags.keys.map sanitizeLabel
  all : ∃ s ∈ ss, s.labelNames = labelNames m

/-- Lines with one more label, and the totals. -/
theorem uses_append_totalLines {front : List Sample} (some : front ≠ [])
    (all : ∀ s ∈ front, s.labelNames = labelNames m) (sum : Float) (count : UInt64) :
    Uses m (front ++ totalLines name m sum count) where
  each := List.forall_mem_append.mpr
    ⟨fun s hs ↦ .inl (all s hs), fun s hs ↦ .inr (labelNames_totalLines sum count s hs)⟩
  all := by
    obtain ⟨s, hs⟩ := List.exists_mem_of_ne_nil front some
    exact ⟨s, List.mem_append_left _ hs, all s hs⟩

theorem LinesOf.uses {ss : List Sample} (lines : LinesOf name m ss) : Uses m ss := by
  cases lines with
  | scalar x value =>
    have all : (⟨name, labelsOf m.tags, number.render x⟩ : Sample).labelNames = labelNames m := by
      rw [labelNames, value, extraName, List.append_nil]
      exact names_labelsOf m.tags
    exact ⟨List.forall_mem_singleton.mpr (.inl all), _, List.mem_singleton_self _, all⟩
  | histogram buckets sum count value closed =>
    obtain ⟨b, hb, -⟩ := closed
    refine uses_append_totalLines (List.ne_nil_of_mem (List.mem_map_of_mem hb)) ?_ sum count
    rw [labelNames, value]
    exact List.forall_mem_map.mpr fun b _ ↦ labelNames_bucketLine _ _
  | openHistogram buckets sum count value =>
    rw [List.append_cons]
    refine uses_append_totalLines (by simp) ?_ sum count
    rw [labelNames, value, List.forall_mem_append, List.forall_mem_singleton]
    exact ⟨List.forall_mem_map.mpr fun b _ ↦ labelNames_bucketLine _ _, labelNames_bucketLine _ _⟩
  | summary quantiles sum count value =>
    cases quantiles with
    | nil =>
      have all : labelNames m = m.tags.keys.map sanitizeLabel := by
        rw [labelNames, value, extraName, List.append_nil]
      have totals :
          ∀ s ∈ totalLines name m sum count, s.labelNames = m.tags.keys.map sanitizeLabel :=
        labelNames_totalLines sum count
      exact ⟨fun s hs ↦ .inr (totals s hs), _, List.mem_cons_self ..,
        (totals _ (List.mem_cons_self ..)).trans all.symm⟩
    | cons q quantiles =>
      refine uses_append_totalLines (by simp) ?_ sum count
      rw [labelNames, value]
      exact List.forall_mem_map.mpr fun q _ ↦ labelNames_quantileLine q

/-- **The names in the lines of a measurement** differ just if the names that they use do. -/
theorem LinesOf.nodup_iff {ss : List Sample} (lines : LinesOf name m ss) :
    (∀ s ∈ ss, s.labelNames.Nodup) ↔ (labelNames m).Nodup := by
  obtain ⟨used, s, hs, all⟩ := lines.uses
  constructor
  · intro h
    rw [← all]
    exact h s hs
  · intro h s hs
    rcases used s hs with same | fewer
    · rw [same]
      exact h
    · rw [fewer]
      exact h.sublist (List.sublist_append_left ..)

end Lines

/-! ## The lines of a text

A measurement is written if it is of the kind of the first one of its sanitized name; all others
leave no line.  The families hold exactly the measurements that are written. -/

/-- A measurement is written: it is of the kind of the first one of its sanitized name. -/
def IsWritten (batch : List Measurement) (m : Measurement) : Prop :=
  ∃ first, batch.find? (fun d ↦ sanitizeName d.name = sanitizeName m.name) = some first ∧
    first.kind = m.kind

section Texts

variable {batch : List Measurement}

/-- What is written are the members of the families. -/
theorem Grouped.isWritten_iff {fs : List Family} (h : Grouped batch fs) {m : Measurement} :
    m ∈ batch ∧ IsWritten batch m ↔ ∃ f ∈ fs, m ∈ f.members := by
  constructor
  · rintro ⟨hm, first, found, kind⟩
    obtain ⟨f, hf, name⟩ := List.mem_map.mp ((h.names _).mpr ⟨m, hm, rfl⟩)
    obtain ⟨first', found', kind'⟩ := h.kinds f hf
    rw [name, found] at found'
    obtain rfl := Option.some.inj found'
    refine ⟨f, hf, ?_⟩
    rw [h.members f hf, List.mem_filter, decide_eq_true_eq]
    exact ⟨hm, name.symm, kind.symm.trans kind'⟩
  · rintro ⟨f, hf, hm⟩
    rw [h.members f hf, List.mem_filter, decide_eq_true_eq] at hm
    obtain ⟨hm, name, kind⟩ := hm
    obtain ⟨first, found, kind'⟩ := h.kinds f hf
    exact ⟨hm, first, by rw [name]; exact found, kind'.trans kind.symm⟩

/-- **The names in the lines of the families.** -/
theorem nodup_samples_iff (batch : List Measurement) :
    (∀ f ∈ families batch, ∀ s ∈ f.samples, s.labelNames.Nodup) ↔
      ∀ m ∈ batch, IsWritten batch m → (labelNames m).Nodup := by
  have grouped := grouped_families batch
  have series (f : Family) : (∀ s ∈ f.samples, s.labelNames.Nodup) ↔
      ∀ m ∈ f.members, (labelNames m).Nodup := by
    have members (m : Measurement) : m ∈ f.series ↔ m ∈ f.members := (inOrder_series f).perm.mem_iff
    rw [Family.samples, List.forall_mem_flatMap]
    exact forall_congr' fun m ↦ by rw [members m, (linesOf_samples f.name m).nodup_iff]
  constructor
  · intro h m hm written
    obtain ⟨f, hf, mem⟩ := grouped.isWritten_iff.mp ⟨hm, written⟩
    exact (series f).mp (h f hf) m mem
  · intro h f hf
    refine (series f).mpr fun m mem ↦ ?_
    obtain ⟨hm, written⟩ := grouped.isWritten_iff.mpr ⟨f, hf, mem⟩
    exact h m hm written

end Texts

/-- **Where the label names of a line differ.** In all lines of the text of a batch they do just if
for every measurement that is written the keys are different after they are sanitized, and none of
them becomes the name of the label that tells a bound or a quantile. -/
theorem label_names_differ_iff (batch : List Measurement) :
    ∃ fs, read? (render batch) = some fs ∧
      ((∀ f ∈ fs, ∀ s ∈ f.samples, s.labelNames.Nodup) ↔
        ∀ m ∈ batch, IsWritten batch m → (labelNames m).Nodup) := by
  refine ⟨_, read?_render_eq batch, ?_⟩
  rw [← nodup_samples_iff, List.forall_mem_map]
  rfl

/-- A gauge with two tags whose keys are one label name. -/
def twoKeys : Measurement := ((Measurement.gauge "x" 1).withTag "a.b" "1").withTag "a_b" "2"

/-- It is not so that the label names of a line differ whatever the keys: here both are `a_b`. -/
theorem not_label_names_differ : ¬∀ (batch : List Measurement) (fs : List ReadFamily),
    read? (render batch) = some fs → ∀ f ∈ fs, ∀ s ∈ f.samples, s.labelNames.Nodup := by
  intro differ
  have told := List.forall_mem_map.mp (differ [twoKeys] _ (read?_render_eq [twoKeys]))
  have nodup := (nodup_samples_iff [twoKeys]).mp told twoKeys (List.mem_singleton_self _)
    ⟨twoKeys, List.find?_cons_of_pos (by simp), rfl⟩
  have names : labelNames twoKeys = ["a_b", "a_b"] := by decide +kernel
  rw [names] at nodup
  exact absurd nodup (by decide)

end MetricsAgent.Exposition
