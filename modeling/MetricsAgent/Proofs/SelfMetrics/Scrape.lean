import Mathlib.Data.List.Chain
import MetricsAgent.Proofs.Exposition.ReadBack
import MetricsAgent.Proofs.SelfMetrics.Cumulative
import MetricsAgent.SelfMetrics.Snapshot

/-!
# The histograms in the scrape text

The agent's own metrics are exposed with a lead in front of their names, which is arbitrary text.
Whatever it is, the names stay apart when they are sanitized (`Exposition.sanitizeName_append`), so
each histogram has a family of its own.

A histogram has no bucket for all observations in its snapshot, except where one of its bounds is
infinite; the text has one in either case, and it agrees with the count
(`Exposition.isComplete_samples`).

The main statement, `SelfMetrics.histogram_is_cumulative`, goes all the way: from the durations that
were observed, through the snapshot and the measurements, to the text that a reader reads back.  If
the bounds ascend, the count at a bound is the number of observations at most that bound, and the
bucket for all observations, the count and the number of observations agree.
-/

set_option autoImplicit false

namespace MetricsAgent

namespace Exposition

/-! ## Names with a lead

What is a name already is left as it is behind any lead, so two names behind one lead are as
different as they were. -/

/-- What a lead becomes. -/
def front : List Char → List Char
  | [] => []
  | cs => sanitize isNameChar cs

/-- What is a name already is left as it is behind a lead. -/
theorem sanitize_append (cs : List Char) {name : List Char} (h : isName isNameChar name = true) :
    sanitize isNameChar (cs ++ name) = front cs ++ name := by
  obtain ⟨all, start⟩ := isName_iff.mp h
  have same : (name.map fun c ↦ if isNameChar c then c else '_') = name :=
    (List.map_congr_left fun c hc ↦ if_pos (all c hc)).trans (List.map_id _)
  cases cs with
  | nil => rw [List.nil_append, sanitize, same, start]; rfl
  | cons c cs =>
    simp only [front, sanitize, List.map_append, same, List.map_cons, List.cons_append,
      needsUnderscore]
    generalize (if isNameChar c then c else '_') = d
    cases isDigit d <;> rfl

theorem sanitizeName_append (lead : String) {s : String} (h : isName isNameChar s.toList = true) :
    (sanitizeName (lead ++ s)).toList = front lead.toList ++ s.toList := by
  rw [sanitizeName, String.toList_ofList, String.toList_append, sanitize_append _ h]

/-- Names behind one lead are told apart. -/
theorem eq_of_sanitizeName_eq {lead s t : String} (hs : isName isNameChar s.toList = true)
    (ht : isName isNameChar t.toList = true)
    (h : sanitizeName (lead ++ s) = sanitizeName (lead ++ t)) : s = t := by
  have parts := congrArg String.toList h
  rw [sanitizeName_append lead hs, sanitizeName_append lead ht] at parts
  exact String.toList_inj.mp (List.append_cancel_left parts)

/-! ## Infinite bounds

Only infinity is written as infinity, so the bucket for all observations can be known by its
text. -/

/-- Only infinity is written as infinity. -/
theorem render_eq_infinite_iff (x : Float) :
    number.render x = "+Inf" ↔ FloatParts.ofFloat x = .infinite false := by
  have decimal (negative : Bool) {cs : List Char} (h : isDecimal cs = true) :
      String.ofList (NumberText.signed negative cs) ≠ "+Inf" := by
    intro same
    have chars := congrArg String.toList same
    rw [String.toList_ofList] at chars
    have unsigned : magnitude (NumberText.signed negative cs) = cs := by
      cases negative with
      | false => exact magnitude_of_isDecimal h
      | true => rfl
    rw [chars] at unsigned
    rw [← unsigned] at h
    exact absurd h (by decide)
  rw [NumberText.render]
  cases FloatParts.ofFloat x with
  | nan => decide
  | infinite negative => cases negative <;> decide
  | zero negative => exact iff_of_false (decimal negative rfl) (by simp)
  | finite negative b => exact iff_of_false (decimal negative (isDecimal_positional _)) (by simp)

/-! ## The lines of a histogram

The rows of a histogram in the text, and the one row among them that is that of all observations:
written because a bound is infinite, or added. -/

/-- The samples of a family whose names end so. -/
def ReadFamily.linesOf (f : ReadFamily) (suffix : String) : List Sample :=
  f.samples.filter (·.name = f.name ++ suffix)

/-- The lines of the bucket for all observations. -/
def ReadFamily.infinite (f : ReadFamily) : List Sample :=
  (f.linesOf "_bucket").filter (·.labels.contains ⟨"le", "+Inf"⟩)

/-- The family of a histogram of `n` observations: one bucket holds all of them, it agrees with the
count, and no bucket holds more. -/
structure ReadFamily.IsComplete (f : ReadFamily) (n : Nat) : Prop where
  infinite : f.infinite.map (·.value) = [toString n]
  count : (f.linesOf "_count").map (·.value) = [toString n]
  buckets : ∀ s ∈ f.linesOf "_bucket", ∃ k ≤ n, s.value = toString k

/-- What the bucket lines of a histogram say: the bounds as they are written, and the counts. -/
def rows (buckets : List Bucket) (count : UInt64) : List (String × UInt64) :=
  buckets.map (fun b ↦ (number.render b.upperBound, b.count)) ++
    if hasInfiniteBound buckets then [] else [("+Inf", count)]

theorem samples_histogram (name : String) {m : Measurement} {buckets : List Bucket} {sum : Float}
    {count : UInt64} (value : m.value = .histogram buckets sum count) :
    samples name m =
      (rows buckets count).map (fun r ↦ bucketLine name m r.1 r.2) ++
      totalLines name m sum count := by
  simp only [samples, value, rows, List.map_append, List.map_map]
  split <;> rfl

section Lines

variable {f : ReadFamily} {m : Measurement} {sum : Float} {count : UInt64}
  {rs : List (String × UInt64)}

theorem linesOf_bucket (samples : f.samples =
      rs.map (fun r ↦ bucketLine f.name m r.1 r.2) ++ totalLines f.name m sum count) :
    f.linesOf "_bucket" = rs.map fun r ↦ bucketLine f.name m r.1 r.2 := by
  have rows : (rs.map fun r ↦ bucketLine f.name m r.1 r.2).filter (·.name = f.name ++ "_bucket") =
      rs.map fun r ↦ bucketLine f.name m r.1 r.2 :=
    List.filter_eq_self.mpr (List.forall_mem_map.mpr fun r _ ↦ decide_eq_true rfl)
  have totals : (totalLines f.name m sum count).filter (·.name = f.name ++ "_bucket") = [] := by
    simp [totalLines]
  rw [ReadFamily.linesOf, samples, List.filter_append, rows, totals, List.append_nil]

theorem linesOf_count (samples : f.samples =
      rs.map (fun r ↦ bucketLine f.name m r.1 r.2) ++ totalLines f.name m sum count) :
    (f.linesOf "_count").map (·.value) = [toString count.toNat] := by
  have rows :
      (rs.map fun r ↦ bucketLine f.name m r.1 r.2).filter (·.name = f.name ++ "_count") = [] :=
    List.filter_eq_nil_iff.mpr (List.forall_mem_map.mpr fun r _ ↦ by simp [bucketLine])
  have totals : (totalLines f.name m sum count).filter (·.name = f.name ++ "_count") =
      [⟨f.name ++ "_count", labelsOf m.tags, toString count.toNat⟩] := by
    simp [totalLines]
  rw [ReadFamily.linesOf, samples, List.filter_append, rows, totals]
  rfl

theorem infinite_eq (untagged : m.tags = .empty) (samples : f.samples =
      rs.map (fun r ↦ bucketLine f.name m r.1 r.2) ++ totalLines f.name m sum count) :
    f.infinite.map (·.value) = (rs.filter (·.1 = "+Inf")).map fun r ↦ toString r.2.toNat := by
  rw [ReadFamily.infinite, linesOf_bucket samples, List.filter_map, List.map_map]
  have same : (fun s : Sample ↦ s.labels.contains ⟨"le", "+Inf"⟩) ∘
      (fun r : String × UInt64 ↦ bucketLine f.name m r.1 r.2) = fun r ↦ decide (r.1 = "+Inf") := by
    funext r
    simp [bucketLine, untagged, labelsOf, Tags.empty, eq_comm]
  rw [same]
  rfl

end Lines

/-- The buckets that hold all observations because their bounds are infinite. -/
def infiniteBuckets (buckets : List Bucket) : List Bucket :=
  buckets.filter fun b ↦ FloatParts.ofFloat b.upperBound = .infinite false

theorem filter_rows (buckets : List Bucket) (count : UInt64) :
    ((rows buckets count).filter (·.1 = "+Inf")).map (fun r ↦ toString r.2.toNat) =
      (infiniteBuckets buckets).map (fun b ↦ toString b.count.toNat) ++
        if (infiniteBuckets buckets).isEmpty then [toString count.toNat] else [] := by
  have bounded : (buckets.map fun b ↦ (number.render b.upperBound, b.count)).filter (·.1 = "+Inf") =
      (infiniteBuckets buckets).map fun b ↦ (number.render b.upperBound, b.count) := by
    rw [List.filter_map, infiniteBuckets]
    refine congrArg _ (List.filter_congr fun b _ ↦ ?_)
    exact decide_eq_decide.mpr (render_eq_infinite_iff b.upperBound)
  have closed : hasInfiniteBound buckets = !(infiniteBuckets buckets).isEmpty := by
    rw [Bool.eq_iff_iff, hasInfiniteBound_iff]
    simp [infiniteBuckets]
  rw [rows, List.filter_append, List.map_append, bounded, List.map_map, closed]
  cases (infiniteBuckets buckets).isEmpty <;> rfl

/-- **One row is that of all observations.** -/
theorem filter_rows_eq {bounds : List Float} {ds : List Duration} {s : HistogramSnapshot}
    (shows : LatencyHistogram.Shows bounds ds s)
    (single : bounds.countP (FloatParts.ofFloat · = .infinite false) ≤ 1) :
    ((rows s.buckets s.count).filter (·.1 = "+Inf")).map (fun r ↦ toString r.2.toNat) =
      [toString ds.length] := by
  have few : (infiniteBuckets s.buckets).length ≤ 1 := by
    rw [← shows.bounds, List.countP_map, List.countP_eq_length_filter] at single
    exact single
  have all : ∀ b ∈ infiniteBuckets s.buckets, b.count.toNat = ds.length := by
    intro b hb
    obtain ⟨mem, infinite⟩ := List.mem_filter.mp hb
    rw [shows.counts b mem]
    refine List.countP_eq_length.mpr fun d _ ↦ ?_
    exact decide_eq_true (d.nonneg_toFloat.le_infinite (of_decide_eq_true infinite))
  rw [filter_rows]
  cases h : infiniteBuckets s.buckets with
  | nil => rw [← shows.count]; rfl
  | cons b bs =>
    rw [h] at few all
    obtain rfl : bs = [] := List.length_eq_zero_iff.mp (Nat.le_zero.mp (Nat.le_of_succ_le_succ few))
    rw [← all b (List.mem_cons_self ..)]
    rfl

/-- **The family of one histogram is complete.** -/
theorem isComplete_samples {bounds : List Float} {ds : List Duration} {s : HistogramSnapshot}
    (shows : LatencyHistogram.Shows bounds ds s)
    (single : bounds.countP (FloatParts.ofFloat · = .infinite false) ≤ 1) {f : ReadFamily}
    {m : Measurement} (untagged : m.tags = .empty)
    (value : m.value = .histogram s.buckets s.sumSeconds s.count)
    (samples : f.samples = Exposition.samples f.name m) : f.IsComplete ds.length := by
  rw [samples_histogram f.name value] at samples
  refine ⟨?_, ?_, ?_⟩
  · rw [infinite_eq untagged samples, filter_rows_eq shows single]
  · rw [linesOf_count samples, shows.count]
  · rw [linesOf_bucket samples, List.forall_mem_map]
    intro r hr
    refine ⟨r.2.toNat, ?_, rfl⟩
    rw [← shows.count]
    rcases List.mem_append.mp hr with hr | hr
    · obtain ⟨b, hb, rfl⟩ := List.mem_map.mp hr
      exact UInt64.le_iff_toNat_le.mp (shows.within b hb)
    · split at hr
      · cases hr
      · rw [List.mem_singleton.mp hr]

/-! ## Families of one measurement

No other of the agent's metrics has the sanitized name of a histogram, so its family has one member,
and the lines of the family are those of the histogram. -/

/-- A measurement that shares its sanitized name with no other is the only one of its family. -/
theorem Grouped.lone {batch : List Measurement} {fs : List Family}
    (h : Grouped batch fs) {f : Family} (hf : f ∈ fs) {m : Measurement}
    (lone : batch.filter (sanitizeName ·.name = f.name) = [m]) :
    f.kind = m.kind ∧ f.samples = Exposition.samples f.name m := by
  have kind : f.kind = m.kind := by
    obtain ⟨first, found, kind⟩ := h.kinds f hf
    have mem : first ∈ batch.filter (sanitizeName ·.name = f.name) :=
      List.mem_filter.mpr ⟨List.mem_of_find?_eq_some found, by simpa using List.find?_some found⟩
    rw [lone, List.mem_singleton] at mem
    rw [← kind, mem]
  have members : f.members = [m] := by
    have two : (batch.filter (sanitizeName ·.name = f.name)).filter (·.kind = f.kind) = [m] := by
      rw [lone, List.filter_cons_of_pos (by simp [kind]), List.filter_nil]
    rw [h.members f hf, ← two, List.filter_filter]
    exact List.filter_congr fun d _ ↦ by rw [Bool.decide_and, Bool.and_comm]
  have series : f.series = [m] := List.perm_singleton.mp (members ▸ (inOrder_series f).perm)
  exact ⟨kind, by rw [Family.samples, series, List.flatMap_singleton]⟩

end Exposition

namespace SelfMetricsSnapshot

open Exposition

/-- The names without a lead. -/
def bareNames : List String :=
  ["collect_total", "collect_total", "collect_total", "cycles_total",
    "cycles_total", "cycles_total", "export_total", "export_total", "collector_timeouts_total",
    "dropped_total", "retries_total", "send_failures_total", "sent_total", "last_batch_size",
    "last_send_duration_seconds", "queue_length", "collect_duration_seconds",
    "export_duration_seconds"]

theorem map_name_bare (s : SelfMetricsSnapshot) : s.bareMeasurements.map (·.name) = bareNames := rfl

theorem isName_bare (s : SelfMetricsSnapshot) :
    ∀ b ∈ s.bareMeasurements, isName isNameChar b.name.toList = true := by
  have names : ∀ n ∈ bareNames, isName isNameChar n.toList = true := by decide
  exact fun b hb ↦ names b.name (s.map_name_bare ▸ List.mem_map_of_mem hb)

/-- The measurements of one name are told apart from the others behind any lead. -/
theorem filter_toMeasurements (s : SelfMetricsSnapshot) (lead : String) {b : Measurement}
    (hb : b ∈ s.bareMeasurements) :
    (s.toMeasurements lead).filter (sanitizeName ·.name = sanitizeName (lead ++ b.name)) =
      (s.bareMeasurements.filter (·.name = b.name)).map (·.prefixed lead) := by
  rw [toMeasurements, List.filter_map]
  refine congrArg _
    (List.filter_congr fun c hc ↦ decide_eq_decide.mpr ⟨fun same ↦ ?_, fun same ↦ ?_⟩)
  · exact eq_of_sanitizeName_eq (s.isName_bare c hc) (s.isName_bare b hb) same
  · show sanitizeName (lead ++ c.name) = _
    rw [same]

end SelfMetricsSnapshot

namespace SelfMetrics

open Exposition

/-- The histograms of the agent's metrics, with their names. -/
def histograms (m : SelfMetrics) : List (String × LatencyHistogram) :=
  [("collect_duration_seconds", m.collectDuration), ("export_duration_seconds", m.exportDuration)]

/-- A histogram as a measurement without a lead. -/
def told (e : String × LatencyHistogram) : Measurement := e.2.snapshot.toMeasurement e.1

theorem filter_kind (m : SelfMetrics) :
    m.snapshot.bareMeasurements.filter (·.kind = .histogram) = m.histograms.map told := rfl

theorem filter_name (m : SelfMetrics) : ∀ e ∈ m.histograms,
    m.snapshot.bareMeasurements.filter (·.name = e.1) = [told e] :=
  List.forall_mem_cons.mpr ⟨rfl, List.forall_mem_singleton.mpr rfl⟩

theorem told_mem_bare (m : SelfMetrics) {e : String × LatencyHistogram} (he : e ∈ m.histograms) :
    told e ∈ m.snapshot.bareMeasurements :=
  (List.mem_filter.mp (m.filter_kind ▸ List.mem_map_of_mem he)).1

/-- Behind any lead a histogram has a sanitized name of its own. -/
theorem filter_sanitized (m : SelfMetrics) (lead : String) {e : String × LatencyHistogram}
    (he : e ∈ m.histograms) :
    (m.snapshot.toMeasurements lead).filter (sanitizeName ·.name = sanitizeName (lead ++ e.1)) =
      [(told e).prefixed lead] := by
  have same := m.snapshot.filter_toMeasurements lead (m.told_mem_bare he)
  rw [show (told e).name = e.1 from rfl, m.filter_name e he] at same
  exact same

/-- **The families of the histograms**: each is that of one histogram, and there are no others. -/
theorem family_of_histogram {m : SelfMetrics} {lead : String} {f : Family}
    (hf : f ∈ families (m.snapshot.toMeasurements lead)) (kind : f.kind = .histogram) :
    ∃ e ∈ m.histograms, f.name = sanitizeName (lead ++ e.1) ∧
      f.samples = Exposition.samples f.name ((told e).prefixed lead) := by
  have grouped := grouped_families (m.snapshot.toMeasurements lead)
  obtain ⟨first, found, same⟩ := grouped.kinds f hf
  obtain ⟨b, hb, rfl⟩ := List.mem_map.mp (List.mem_of_find?_eq_some found)
  have histogram : b ∈ m.snapshot.bareMeasurements.filter (·.kind = .histogram) :=
    List.mem_filter.mpr ⟨hb, decide_eq_true (same.trans kind)⟩
  obtain ⟨e, he, rfl⟩ := List.mem_map.mp (m.filter_kind ▸ histogram)
  have name : f.name = sanitizeName (lead ++ e.1) := by
    have named : sanitizeName ((told e).prefixed lead).name = f.name := by
      simpa using List.find?_some found
    exact named.symm
  exact ⟨e, he, name, (grouped.lone hf (name ▸ m.filter_sanitized lead he)).2⟩

/-- Each histogram has a family. -/
theorem exists_family (m : SelfMetrics) (lead : String) {e : String × LatencyHistogram}
    (he : e ∈ m.histograms) : ∃ f ∈ families (m.snapshot.toMeasurements lead),
      f.name = sanitizeName (lead ++ e.1) ∧ f.kind = .histogram := by
  have grouped := grouped_families (m.snapshot.toMeasurements lead)
  have named : sanitizeName (lead ++ e.1) ∈
      (families (m.snapshot.toMeasurements lead)).map (·.name) :=
    (grouped.names _).mpr ⟨_, List.mem_map_of_mem (m.told_mem_bare he), rfl⟩
  obtain ⟨f, hf, name⟩ := List.mem_map.mp named
  exact ⟨f, hf, name, (grouped.lone hf (name ▸ m.filter_sanitized lead he)).1⟩

end SelfMetrics

namespace LatencyHistogram

open Exposition

/-- **A histogram is cumulative, from the observations to the scrape text.** If its bounds ascend,
the count at a bound is the number of observations that are at most the bound, the counts ascend,
none is above the number of all observations, and the sum is that of the whole microseconds. In the
text of the agent's metrics, the family of the histogram has one bucket for all observations, if one
bound at most is infinite; it agrees with the count, and no other bucket is above it. -/
theorem histogram_is_cumulative {bounds : List Float} (ascending : bounds.IsChain (· ≤ ·))
    {ds : List Duration} (few : ds.length < UInt64.size) :
    Shows bounds ds (ofDurations bounds ds).snapshot ∧
      (ofDurations bounds ds).sumMicros.toNat = totalMicros ds % UInt64.size ∧
      ∀ (m : SelfMetrics) (lead : String),
        ∃ fs, read? (render (m.snapshot.toMeasurements lead)) = some fs ∧
          (∀ e ∈ m.histograms, ∃ f ∈ fs, f.name = sanitizeName (lead ++ e.1) ∧
            f.kind = .histogram) ∧
          ∀ f ∈ fs, f.kind = .histogram → ∃ e ∈ m.histograms, f.name = sanitizeName (lead ++ e.1) ∧
            (e.2 = ofDurations bounds ds →
              bounds.countP (FloatParts.ofFloat · = .infinite false) ≤ 1 →
              f.IsComplete ds.length) := by
  have seen := observed_ofDurations bounds ds
  have shows := seen.shows ascending.pairwise few
  refine ⟨shows, ?_, fun m lead ↦ ⟨_, read?_render_eq _, fun e he ↦ ?_, ?_⟩⟩
  · rw [seen.sumMicros]
    rfl
  · obtain ⟨f, hf, name, kind⟩ := m.exists_family lead he
    exact ⟨f.told, List.mem_map_of_mem hf, name, kind⟩
  · refine List.forall_mem_map.mpr fun f hf kind ↦ ?_
    obtain ⟨e, he, name, samples⟩ := SelfMetrics.family_of_histogram hf kind
    refine ⟨e, he, name, fun same single ↦ ?_⟩
    rw [← same] at shows
    exact isComplete_samples shows single rfl rfl samples

/-- A short duration, a longer one, and one beyond all bounds. -/
def threeDurations : List Duration := [.ofMillis 200, .ofMillis 700, .ofMillis 2000]

/-- Metrics whose histograms have seen them. -/
def threeSeen : SelfMetrics :=
  { SelfMetrics.new with
    collectDuration := ofDurations [0.5, 1.0] threeDurations
    exportDuration := ofDurations [0.5, 1.0] threeDurations }

/-- Two of three durations are counted in buckets, and the text has a bucket for all three. -/
theorem histogram_is_cumulative_beyond_bounds :
    [(0.5 : Float), 1.0].IsChain (· ≤ ·) ∧ threeDurations.length < UInt64.size ∧
      (ofDurations [0.5, 1.0] threeDurations).snapshot.buckets.map (·.count) = [1, 2] ∧
      ∃ fs, read? (render (threeSeen.snapshot.toMeasurements "agent.")) = some fs ∧
        ∃ f ∈ fs, f.name = "agent_collect_duration_seconds" ∧ f.IsComplete 3 := by
  have ascending : [(0.5 : Float), 1.0].IsChain (· ≤ ·) := by
    rw [List.isChain_pair]
    decide +kernel
  have few : threeDurations.length < UInt64.size := by decide
  obtain ⟨-, -, exposed⟩ := histogram_is_cumulative ascending few
  obtain ⟨fs, read, named, complete⟩ := exposed threeSeen "agent."
  obtain ⟨f, hf, name, kind⟩ := named _ (List.mem_cons_self ..)
  obtain ⟨e, he, -, whole⟩ := complete f hf kind
  have seen : e.2 = ofDurations [0.5, 1.0] threeDurations := by
    rcases List.mem_pair.mp he with rfl | rfl <;> rfl
  exact ⟨ascending, few, by decide +kernel, fs, read, f, hf, name.trans (by decide +kernel),
    whole seen (by decide +kernel)⟩

end LatencyHistogram

end MetricsAgent
