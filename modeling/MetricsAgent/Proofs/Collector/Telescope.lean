import Mathlib.Algebra.GroupWithZero.Nat
import Mathlib.Algebra.Order.Group.Nat
import Mathlib.Data.List.Basic
import MetricsAgent.Proofs.Collector.SeriesKey

/-!
# Sums over a run of samples

A sample that comes too early is discarded, and what it would have told is told by a later one.  So
the elapsed times that a run reports add up to the time between its first and its last accepted
sample, and the growth of a counter that never goes back adds up to the difference of its values at
the two: `DeltaTracker.discarded_samples_lose_nothing`.

Both sums are telescopes.  `add_sum_differences` adds the differences of neighbours for any quantity
that does not go back, and it is used for the instants of the samples and for the values of the
counter.  A counter that does go back has a growth of zero at that point, which the statement says
delta by delta; the sum is then more than the difference.

The counter is one of a series that each sample holds once, and no other counter has its key.
Without that a delta might be one of another series (`MetricsAgent.Proofs.Collector.SeriesKey`).
-/

set_option autoImplicit false

namespace MetricsAgent

/-- The series of a delta. -/
def CounterDelta.series (d : CounterDelta) : CounterSeries := ⟨d.name, d.tags⟩

namespace DeltaOutcome

/-- The time over which an outcome measures, in nanoseconds. -/
def nanos : DeltaOutcome → Nat
  | .empty => 0
  | .ready elapsed _ => elapsed.nanos

/-- The deltas of a series that an outcome reports. -/
def deltasOf (x : CounterSeries) : DeltaOutcome → List CounterDelta
  | .empty => []
  | .ready _ ds => ds.filter (·.series = x)

/-- The growth of a series that an outcome reports. -/
def growth (x : CounterSeries) (o : DeltaOutcome) : Nat := ((o.deltasOf x).map (·.delta.toNat)).sum

end DeltaOutcome

/-- A sample holds one counter of a series, with a value, and no other counter with the key of the
series. -/
def Intake.Holds (s : Intake) (x : CounterSeries) (v : UInt64) : Prop :=
  s.counters.filter (·.seriesKey = x.key) = [⟨x.name, x.tags, v⟩]

theorem Intake.Holds.value? {s : Intake} {x : CounterSeries} {v : UInt64} (h : s.Holds x v) :
    s.toSample.value? x.key = some v := by
  rw [CounterSample.value?, ← List.head?_filter, List.filter_reverse]
  exact congrArg (fun l : List RawCounter ↦ l.reverse.head?.map (·.value)) h

theorem Duration.nanos_between (a b : Duration) :
    (between a.nanos b.nanos).nanos = b.nanos - a.nanos := by
  have small : b.nanos - a.nanos < limit := Nat.lt_of_le_of_lt (Nat.sub_le _ _) b.nanos_lt
  rw [between, ofNanos, ofNanos?, dif_pos small]
  rfl

theorem toNat_clampedDelta (v w : UInt64) : (clampedDelta v w).toNat = w.toNat - v.toNat := by
  rw [clampedDelta]
  split
  · exact UInt64.toNat_sub_of_le _ _ ‹_›
  · rename_i less
    rw [UInt64.le_iff_toNat_le, Nat.not_le] at less
    rw [Nat.sub_eq_zero_of_le (Nat.le_of_lt less)]
    rfl

namespace DeltaTracker

/-! ## One comparison

The deltas of a series come from the counters with its key, so a series that both samples hold has
one delta, and that is the clamped difference. -/

section Comparison

variable {a b : Intake} {x : CounterSeries} {v w : UInt64}

/-- The deltas of a series come from the counters with its key. -/
theorem filter_deltas (b : CounterSample) (x : CounterSeries) (counters : List RawCounter) :
    (deltas b counters).filter (·.series = x) =
      (deltas b (counters.filter (·.seriesKey = x.key))).filter (·.series = x) := by
  rw [deltas, deltas, List.filter_filterMap, List.filter_filterMap, List.filterMap_filter]
  refine List.filterMap_congr fun c _ ↦ ?_
  by_cases same : c.seriesKey = x.key
  · rw [if_pos (decide_eq_true same)]
  · have other : c.series ≠ x := fun e ↦ same (congrArg CounterSeries.key e)
    rw [if_neg (by simpa using same)]
    cases b.value? c.seriesKey with
    | none => rfl
    | some v => exact if_neg (mt of_decide_eq_true other)

/-- A series that two samples hold has one delta. -/
theorem deltasOf_comparison (ha : a.Holds x v) (hb : b.Holds x w) :
    (comparison a.toSample b).deltasOf x = [⟨x.name, x.tags, clampedDelta v w⟩] := by
  have known : a.toSample.value? (RawCounter.mk x.name x.tags w).seriesKey = some v := ha.value?
  rw [comparison, DeltaOutcome.deltasOf, filter_deltas, hb, deltas,
    List.filterMap_cons_some (by rw [known]; rfl)]
  simp [CounterDelta.series]

theorem growth_comparison (ha : a.Holds x v) (hb : b.Holds x w) :
    (comparison a.toSample b).growth x = w.toNat - v.toNat := by
  rw [DeltaOutcome.growth, deltasOf_comparison ha hb, List.map_singleton, List.sum_singleton,
    toNat_clampedDelta]

theorem nanos_comparison (a b : Intake) :
    (comparison a.toSample b).nanos = b.instant.nanos - a.instant.nanos :=
  Duration.nanos_between a.instant b.instant

end Comparison

/-! ## All comparisons

What is read off each comparison of a run, as a list beside the accepted samples. -/

theorem exists_of_mem_comparisons {samples : List Intake} {o : DeltaOutcome}
    (told : o ∈ comparisons samples) :
    ∃ a ∈ samples, ∃ b ∈ samples, o = comparison a.toSample b := by
  obtain ⟨i, hi, rfl⟩ := List.getElem_of_mem told
  obtain ⟨first, second⟩ := Nat.lt_min.mp (Nat.lt_of_lt_of_eq hi List.length_zipWith)
  refine ⟨_, List.getElem_mem first, _, List.mem_of_mem_tail (List.getElem_mem second), ?_⟩
  exact List.getElem_zipWith

/-- What is read off each comparison. -/
theorem map_comparisons {β : Type} {f : DeltaOutcome → β} {g : Intake → Intake → β}
    {samples : List Intake}
    (each : ∀ a ∈ samples, ∀ b ∈ samples, f (comparison a.toSample b) = g a b) :
    (comparisons samples).map f = List.zipWith g samples samples.tail := by
  refine List.ext_getElem (by simp [comparisons]) fun i hi hi' ↦ ?_
  obtain ⟨first, second⟩ := Nat.lt_min.mp (Nat.lt_of_lt_of_eq hi' List.length_zipWith)
  rw [List.getElem_map, List.getElem_zipWith]
  simp only [comparisons, List.getElem_zipWith]
  exact each _ (List.getElem_mem first) _ (List.mem_of_mem_tail (List.getElem_mem second))

/-- **Differences of neighbours add up to the difference of the last and the first.** -/
theorem add_sum_differences {f : Intake → Nat} {samples : List Intake}
    (sorted : samples.Pairwise (f · ≤ f ·)) : ∀ a ∈ samples.head?, ∀ b ∈ samples.getLast?,
      f a + (List.zipWith (fun a b ↦ f b - f a) samples samples.tail).sum = f b := by
  induction samples with
  | nil => simp
  | cons s rest ih =>
    cases rest with
    | nil => simp
    | cons s' rest =>
      obtain ⟨first, sorted⟩ := List.pairwise_cons.mp sorted
      intro a ha b hb
      obtain rfl : s = a := Option.some.inj ha
      have later := ih sorted s' rfl b hb
      have grows : f s ≤ f s' := first s' List.mem_cons_self
      simp only [List.tail_cons, List.zipWith_cons_cons, List.sum_cons] at later ⊢
      omega

/-! ## Runs

The accepted samples are in the order of all samples, so that what is ordered there stays
ordered. -/

/-- Nothing is lost of the series `x`, whose values in the samples are `value`, when samples are
discarded. -/
structure LosesNothing (window : Duration) (x : CounterSeries) (value : Intake → UInt64)
    (samples : List Intake) : Prop where
  /-- Whatever is reported is reported over the window at least, with one delta for the series. -/
  ready : ∀ elapsed ds, .ready elapsed ds ∈ (new window).outcomes samples →
    window ≤ elapsed ∧ ∃ d, ds.filter (·.series = x) = [d]
  /-- The reported times add up to the time between the first and the last accepted sample. -/
  elapsed :
    ∀ a ∈ ((new window).accepted samples).head?, ∀ b ∈ ((new window).accepted samples).getLast?,
    a.instant.nanos + ((((new window).outcomes samples).filter (·.isReady)).map (·.nanos)).sum =
      b.instant.nanos
  /-- Each delta is the difference to the accepted value before, or zero where that would be
  negative. -/
  clamped : (((new window).outcomes samples).filter (·.isReady)).map (fun o ↦ (o.growth x : Int)) =
    List.zipWith (fun a b ↦ max 0 ((value b).toNat - (value a).toNat : Int))
      ((new window).accepted samples) ((new window).accepted samples).tail
  /-- The deltas of a counter that never goes back add up to the last accepted value less the first
  value. -/
  total : samples.Pairwise (value · ≤ value ·) → ∀ a ∈ samples.head?,
    ∀ b ∈ ((new window).accepted samples).getLast?,
      (value a).toNat +
      ((((new window).outcomes samples).filter (·.isReady)).map (·.growth x)).sum =
        (value b).toNat

/-- **Discarded samples lose nothing.** -/
theorem discarded_samples_lose_nothing {window : Duration} {x : CounterSeries}
    {value : Intake → UInt64} {samples : List Intake}
    (ordered : samples.Pairwise (·.instant ≤ ·.instant))
    (holds : ∀ s ∈ samples, s.Holds x (value s)) : LosesNothing window x value samples := by
  have part := accepted_sublist (new window) samples
  have holds' : ∀ s ∈ (new window).accepted samples, s.Holds x (value s) :=
    fun s hs ↦ holds s (part.subset hs)
  constructor
  case ready =>
    intro elapsed ds told
    refine ⟨le_of_mem_outcomes told, ?_⟩
    have compared :
        DeltaOutcome.ready elapsed ds ∈ comparisons ((new window).accepted samples) := by
      rw [← filter_outcomes]
      exact List.mem_filter.mpr ⟨told, rfl⟩
    obtain ⟨a, ha, b, hb, same⟩ := exists_of_mem_comparisons compared
    exact ⟨_, (congrArg (·.deltasOf x) same).trans
      (deltasOf_comparison (holds' a ha) (holds' b hb))⟩
  case elapsed =>
    -- Discarded samples never become a baseline, so the comparisons are those of accepted
    -- neighbours and their differences telescope.
    rw [filter_outcomes, map_comparisons fun a _ b _ ↦ nanos_comparison a b]
    exact add_sum_differences (f := fun s ↦ s.instant.nanos) (ordered.sublist part)
  case clamped =>
    rw [filter_outcomes]
    refine map_comparisons fun a ha b hb ↦ ?_
    rw [growth_comparison (holds' a ha) (holds' b hb)]
    omega
  case total =>
    intro grows a ha b hb
    rw [filter_outcomes, map_comparisons fun a ha b hb ↦ growth_comparison
      (holds' a ha) (holds' b hb)]
    rw [← head?_accepted window] at ha
    have sorted :
        ((new window).accepted samples).Pairwise fun a b ↦ (value a).toNat ≤ (value b).toNat :=
      (grows.imp UInt64.le_iff_toNat_le.mp).sublist part
    exact add_sum_differences sorted a ha b hb

/-- A counter of an interface at an instant. -/
def reading (ms : Nat) (v : UInt64) : Intake := ⟨.ofMillis ms, [⟨"rx", .empty, v⟩]⟩

theorem holds_reading (ms : Nat) (v : UInt64) : (reading ms v).Holds ⟨"rx", .empty⟩ v :=
  List.filter_cons_of_pos (decide_eq_true rfl)

/-- Of four samples the second is discarded; the third and the fourth tell of the whole time, and of
all that was received. -/
theorem discarded_samples_lose_nothing_early :
    let samples := [reading 0 100, reading 200 150, reading 2000 400, reading 3500 1000]
    ((new (.ofSeconds 1)).outcomes samples).map
    (fun o ↦ (o.nanos / 1000000, o.growth ⟨"rx", .empty⟩)) =
        [(0, 0), (0, 0), (2000, 300), (1500, 600)] ∧
      LosesNothing (.ofSeconds 1) ⟨"rx", .empty⟩
        (fun s ↦ (s.counters.map (·.value)).headD 0) samples := by
  refine ⟨by decide, discarded_samples_lose_nothing (by decide) ?_⟩
  simp only [List.forall_mem_cons, List.not_mem_nil, false_implies, implies_true, and_true]
  exact ⟨holds_reading 0 100, holds_reading 200 150, holds_reading 2000 400,
    holds_reading 3500 1000⟩

end DeltaTracker

end MetricsAgent
