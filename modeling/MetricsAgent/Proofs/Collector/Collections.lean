import Mathlib.Data.List.Basic
import Mathlib.Data.List.Forall2
import MetricsAgent.Collector.Rate
import MetricsAgent.Proofs.Collector.Samples
import MetricsAgent.Proofs.Measurement.Limits

/-!
# Rates in spite of failed collections

A call of a rate collector may be cancelled, and its source may fail.  Such a call answers with a
placeholder or an error and leaves the tracker as it is, so the calls that take a sample answer as
if there had been no others: `RateCollector.failures_leave_rates`.

The statement compares two runs.  One has all calls; the other has only those that take a sample,
and its results are the results of the first run at these calls.  So a failure costs one sample and
spoils none: the sample after it measures over the whole gap.

A source that crashes is not among the calls.  It leaves the collector unusable, and then no call
answers with a rate any more.
-/

set_option autoImplicit false

namespace MetricsAgent

/-- A gauge that stands for a value which was not taken, with tags that tell why. -/
structure Measurement.IsPlaceholder (name : String) (tags : List (String × String))
    (m : Measurement) : Prop where
  name : m.name = name
  kind : m.kind = .gauge
  value : m.value = .scalar 0
  tags : m.tags.entries = tags

/-- A call of a rate collector: its instant, whether its token has fired, and what the source
returns if it is asked. -/
structure RateCall where
  instant : Duration
  cancelled : Bool
  reading : Except CollectorError (List RawCounter)

namespace RateCall

/-- What a source gives that does not crash. -/
def source (x : RateCall) : CounterReading :=
  match x.reading with
  | .ok l => .counters l
  | .error e => .failure e

/-- The sample that a call takes. -/
def sample? (x : RateCall) : Option Intake :=
  if x.cancelled then none else x.reading.toOption.map fun l ↦ ⟨x.instant, l⟩

end RateCall

namespace RateCollector

/-- A call. -/
def serve (c : RateCollector) (x : RateCall) : CollectResult × RateCollector :=
  c.collect x.instant.nanos x.cancelled x.source

/-- The results of calls, one after the other. -/
def results (c : RateCollector) : List RateCall → List CollectResult
  | [] => []
  | x :: rest => (c.serve x).1 :: (c.serve x).2.results rest

/-- Whether each of some calls asks the source. -/
def asked (c : RateCollector) : List RateCall → List Bool
  | [] => []
  | x :: rest => c.asksSource x.cancelled :: (c.serve x).2.asked rest

/-- The results of those calls that take a sample. -/
def sampledResults (c : RateCollector) (calls : List RateCall) : List CollectResult :=
  ((calls.zip (c.results calls)).filter (·.1.sample?.isSome)).map (·.2)

/-! ## What calls are to answer

Said without the collector, call by call: a placeholder for a cancellation or an expected failure,
the error itself for an unexpected one, and the rates for a sample. -/

/-- What a call answers, by what becomes of it. -/
inductive Answers (name : String) : RateCall → CollectResult → Prop where
  /-- The token has fired. -/
  | cancelled {t : Duration} {reading : Except CollectorError (List RawCounter)} {m : Measurement}
    (h : m.IsPlaceholder name [("status", "cancelled")]) :
    Answers name ⟨t, true, reading⟩ (.batch [m])
  /-- The source was cancelled. -/
  | interrupted {t : Duration} {m : Measurement}
    (h : m.IsPlaceholder name [("status", "cancelled")]) :
    Answers name ⟨t, false, .error .cancelled⟩ (.batch [m])
  /-- The source failed in a way that concerns this collector alone. -/
  | failed {t : Duration} {e : CollectorError} {m : Measurement} (expected : e.isExpected = true)
    (other : e ≠ .cancelled) (h : m.IsPlaceholder name
      [("reason", String.ofList (e.message.toList.take 160)), ("status", "error")]) :
    Answers name ⟨t, false, .error e⟩ (.batch [m])
  /-- The source failed in any other way. -/
  | broken {t : Duration} {e : CollectorError} (unexpected : e.isExpected = false) :
    Answers name ⟨t, false, .error e⟩ (.failure e)
  /-- There is a sample. -/
  | sampled {t : Duration} {l : List RawCounter} {ms : List Measurement} :
    Answers name ⟨t, false, .ok l⟩ (.batch ms)

/-- A gauge with the rate of a series. -/
structure IsRate (elapsed : Duration) (d : CounterDelta) (m : Measurement) : Prop where
  name : m.name = d.name ++ ".rate"
  kind : m.kind = .gauge
  value : m.value = .scalar (d.rate elapsed)

/-- What a call answers that took a sample: a placeholder where the sample tells nothing, and
otherwise one rate for each delta. -/
inductive Reports (name : String) : DeltaOutcome → CollectResult → Prop where
  | empty {m : Measurement} (h : m.IsPlaceholder name [("status", "empty")]) :
    Reports name .empty (.batch [m])
  | ready {elapsed : Duration} {ds : List CounterDelta} {ms : List Measurement}
    (h : List.Forall₂ (IsRate elapsed) ds ms) : Reports name (.ready elapsed ds) (.batch ms)

end RateCollector

/-! ## Placeholders and rates

The measurements that the collector makes are of these kinds. -/

namespace Measurement

theorem isPlaceholder_degenerate (name : String) (s : Status) :
    (degenerate name s).IsPlaceholder name [("status", s.name)] := by
  have tags : (degenerate name s).tags = (degenerate "" s).tags := rfl
  refine ⟨rfl, rfl, rfl, ?_⟩
  rw [tags]
  cases s <;> decide

theorem isPlaceholder_error (name reason : String) : (error name reason).IsPlaceholder name
    [("reason", String.ofList (reason.toList.take 160)), ("status", "error")] := by
  have marked := isPlaceholder_degenerate name .error
  have room : ¬maxTagCount ≤ (degenerate name .error).tags.size := by
    rw [Tags.size, marked.tags]
    decide
  rw [error, withTag, if_neg fun full ↦ room full.1]
  refine ⟨marked.name, marked.kind, marked.value, ?_⟩
  show Tags.insertEntry reasonTag (truncateTagValue reason)
    (degenerate name .error).tags.entries = _
  rw [marked.tags]
  exact if_pos (by decide)

end Measurement

namespace RateCollector

theorem reports_report (name : String) (o : DeltaOutcome) :
    Reports name o (.batch (report name o)) := by
  cases o with
  | empty => exact .empty (Measurement.isPlaceholder_degenerate name .empty)
  | ready elapsed ds =>
    refine .ready (List.forall₂_map_right_iff.mpr (List.forall₂_same.mpr fun d _ ↦ ?_))
    rw [Measurement.withTags_eq]
    exact ⟨rfl, rfl, rfl⟩

/-! ## One call

Two cases, by whether the call takes a sample. -/

variable {c : RateCollector}

/-- A call whose source fails. -/
theorem answers_failure (c : RateCollector) (t : Duration) (e : CollectorError) :
    Answers c.name ⟨t, false, .error e⟩ (c.sample t.nanos (.failure e)).1 := by
  rw [sample]
  by_cases interrupted : e = .cancelled
  · subst interrupted
    exact .interrupted (Measurement.isPlaceholder_degenerate _ .cancelled)
  · by_cases expected : e.isExpected = true
    · rw [if_pos expected]
      have failed : e.isCancelled = false := by
        cases e <;> first | rfl | exact absurd rfl interrupted
      rw [CollectorError.placeholder, failed]
      exact .failed expected interrupted (Measurement.isPlaceholder_error _ _)
    · rw [if_neg expected]
      exact .broken (Bool.eq_false_iff.mpr expected)

/-- **What a call answers and what becomes of the collector**, by whether it takes a sample. -/
theorem serve_cases (sound : c.poisoned = false) (x : RateCall) :
    Answers c.name x (c.serve x).1 ∧ c.asksSource x.cancelled = !x.cancelled ∧
      (x.sample? = none ∧ (c.serve x).2 = c ∨
        ∃ s, x.sample? = some s ∧ (c.serve x).1 = .batch (report c.name (c.tracker.take s).1) ∧
          (c.serve x).2 = { c with tracker := (c.tracker.take s).2 }) := by
  obtain ⟨t, cancelled, reading⟩ := x
  have asks (b : Bool) : c.asksSource b = !b := by
    rw [asksSource, sound]
    exact Bool.and_true _
  cases cancelled with
  | true =>
    exact ⟨.cancelled (Measurement.isPlaceholder_degenerate _ .cancelled), asks true,
      .inl ⟨rfl, rfl⟩⟩
  | false =>
    have served :
        c.serve ⟨t, false, reading⟩ = c.sample t.nanos (RateCall.source ⟨t, false, reading⟩) := by
      rw [serve, collect, sound]
      rfl
    rw [served]
    cases reading with
    | ok l => exact ⟨.sampled, asks false, .inr ⟨⟨t, l⟩, rfl, rfl, rfl⟩⟩
    | error e => exact ⟨answers_failure c t e, asks false, .inl ⟨rfl, rfl⟩⟩

/-! ## Runs

Both runs are compared with the tracker, which sees the samples and nothing else. -/

/-- **The calls that take a sample answer with what the tracker makes of the samples.** -/
theorem sampledResults_eq (sound : c.poisoned = false) (calls : List RateCall) :
    c.sampledResults calls =
      (c.tracker.outcomes (calls.filterMap (·.sample?))).map fun o ↦ .batch (report c.name o) := by
  induction calls generalizing c with
  | nil => rfl
  | cons x rest ih =>
    rw [sampledResults, results, List.zip_cons_cons]
    obtain ⟨-, -, ⟨nothing, same⟩ | ⟨s, sample, answer, next⟩⟩ := serve_cases sound x
    · rw [same, List.filter_cons_of_neg (by simp [nothing]), List.filterMap_cons_none nothing]
      exact ih sound
    · rw [answer, next, List.filter_cons_of_pos (by simp [sample]), List.filterMap_cons_some sample,
        DeltaTracker.outcomes, List.map_cons, List.map_cons]
      exact congrArg _ (ih sound)

/-- Each call answers as it should, and asks the source if it is not cancelled. -/
theorem answers_results (sound : c.poisoned = false) (calls : List RateCall) :
    List.Forall₂ (Answers c.name) calls (c.results calls) ∧
    c.asked calls = calls.map (!·.cancelled) := by
  induction calls generalizing c with
  | nil => exact ⟨.nil, rfl⟩
  | cons x rest ih =>
    obtain ⟨answer, asks, after⟩ := serve_cases sound x
    have kept : (c.serve x).2.name = c.name ∧ (c.serve x).2.poisoned = c.poisoned := by
      rcases after with ⟨-, same⟩ | ⟨s, -, -, next⟩
      · rw [same]
        exact ⟨rfl, rfl⟩
      · rw [next]
        exact ⟨rfl, rfl⟩
    obtain ⟨answers, asked⟩ := ih (kept.2.trans sound)
    rw [kept.1] at answers
    exact ⟨.cons answer answers, congrArg₂ List.cons asks asked⟩

/-- All results count where every call takes a sample. -/
theorem sampledResults_eq_results {calls : List RateCall}
    (all : ∀ x ∈ calls, x.sample?.isSome = true) : c.sampledResults calls = c.results calls := by
  induction calls generalizing c with
  | nil => rfl
  | cons x rest ih =>
    rw [List.forall_mem_cons] at all
    rw [sampledResults, results, List.zip_cons_cons, List.filter_cons_of_pos (by exact all.1),
      List.map_cons]
    exact congrArg _ (ih all.2)

/-- What failed and cancelled calls do to the others, and they answer themselves. -/
structure LeavesRates (name : String) (window : Duration) (calls : List RateCall) : Prop where
  /-- The source is asked in every call that is not cancelled, and in no other. -/
  asked : (new name window).asked calls = calls.map (!·.cancelled)
  /-- Each call answers as it should. -/
  answers : List.Forall₂ (Answers name) calls ((new name window).results calls)
  /-- Without the calls that take no sample, the others answer the same. -/
  others : (new name window).results (calls.filter (·.sample?.isSome)) =
    (new name window).sampledResults calls
  /-- They answer with what the tracker makes of the samples, -/
  reports : List.Forall₂ (Reports name)
    ((DeltaTracker.new window).outcomes (calls.filterMap (·.sample?)))
    ((new name window).sampledResults calls)
  /-- the first one with nothing. -/
  first : ∀ r ∈ ((new name window).sampledResults calls).head?, Reports name .empty r

/-- **Failed and cancelled calls leave the rates alone.** -/
theorem failures_leave_rates (name : String) (window : Duration) (calls : List RateCall) :
    LeavesRates name window calls := by
  obtain ⟨answers, asked⟩ := answers_results (c := new name window) rfl calls
  have reports :
      List.Forall₂ (Reports name) ((DeltaTracker.new window).outcomes (calls.filterMap (·.sample?)))
      ((new name window).sampledResults calls) := by
    rw [sampledResults_eq rfl]
    exact List.forall₂_map_right_iff.mpr (List.forall₂_same.mpr fun o _ ↦ reports_report name o)
  refine ⟨asked, answers, ?_, reports, ?_⟩
  · -- Leaving the failed collections out of the calls leaves the same samples, and only these reach
    -- the tracker.
    have samples :
        (calls.filter (·.sample?.isSome)).filterMap (·.sample?) = calls.filterMap (·.sample?) := by
      rw [List.filterMap_filter]
      refine List.filterMap_congr fun x _ ↦ ?_
      cases x.sample? <;> rfl
    rw [← sampledResults_eq_results fun x hx ↦ (List.mem_filter.mp hx).2, sampledResults_eq rfl,
      sampledResults_eq rfl, samples]
  · intro r hr
    rw [sampledResults_eq rfl] at hr
    cases samples : calls.filterMap (·.sample?) with
    | nil =>
      rw [samples] at hr
      cases hr
    | cons s rest =>
      rw [samples] at hr
      obtain rfl := Option.some.inj hr
      exact reports_report name .empty

end RateCollector

end MetricsAgent
