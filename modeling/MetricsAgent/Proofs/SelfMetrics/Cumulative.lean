import Mathlib.Data.List.Induction
import MetricsAgent.Proofs.Counter
import MetricsAgent.Proofs.Double.Order
import MetricsAgent.SelfMetrics.Basic

/-!
# What a histogram counts

An observation is counted in the first bucket that takes it, and a snapshot sums the counts up.
That makes the number of all observations at most a bound, if the bounds ascend: what goes into a
bucket before is at most the bound of that bucket, and so at most every later one.  `Observed.shows`
says so of every snapshot, and `zip_runningSums` what its sums are.

Counters wrap, so what a count says of the number of observations holds for fewer than `2 ^ 64` of
them.  The sum is that of the whole microseconds of each observation, as a number of 64 bits.
-/

set_option autoImplicit false

namespace MetricsAgent

namespace LatencyHistogram

/-! ## Slots

`slots` are the counts that there should be, as a function of the observations.  One observation
more adds one in one slot, which is what `observe` does. -/

/-- How many of the numbers are counted for each bound, and how many beyond the last. -/
def slots : List Float → List Float → List Nat
  | [], xs => [xs.length]
  | b :: bs, xs => xs.countP (· ≤ b) :: slots bs (xs.filter fun x ↦ !decide (x ≤ b))

/-- One more number is counted in its slot. -/
theorem modify_slots (bounds xs : List Float) (x : Float) :
    (slots bounds xs).modify (bounds.findIdx (x ≤ ·)) (· + 1) = slots bounds (xs ++ [x]) := by
  induction bounds generalizing xs with
  | nil => simp [slots]
  | cons b bs ih =>
    rw [slots, slots, List.findIdx_cons, List.countP_append, List.filter_append]
    by_cases le : x ≤ b
    · simp [le]
    · simp [le, ih]

/-- A slot and the counter of the slot. -/
theorem map_modify_succ (ns : List Nat) (i : Nat) :
    (ns.modify i (· + 1)).map Nat.toUInt64 = (ns.map Nat.toUInt64).modify i (· + 1) := by
  induction ns generalizing i with
  | nil => simp
  | cons n ns ih =>
    cases i with
    | zero => simp
    | succ i => simp [ih]

/-- The microseconds of some durations, together. -/
def totalMicros : List Duration → Nat
  | [] => 0
  | d :: ds => min (d.nanos / 1000) (UInt64.size - 1) + totalMicros ds

theorem totalMicros_append (ds : List Duration) (d : Duration) :
    totalMicros (ds ++ [d]) = totalMicros ds + min (d.nanos / 1000) (UInt64.size - 1) := by
  induction ds with
  | nil => exact Nat.add_comm _ _
  | cons e ds ih => rw [List.cons_append, totalMicros, totalMicros, ih, Nat.add_assoc]

/-- A histogram after some observations. -/
structure Observed (bounds : List Float) (ds : List Duration) (h : LatencyHistogram) : Prop where
  same : h.bounds = bounds
  counts : h.counts = (slots bounds (ds.map Duration.toFloat)).map Nat.toUInt64
  sumMicros : h.sumMicros = (totalMicros ds).toUInt64
  count : h.count = ds.length.toUInt64

theorem slots_nil (bounds : List Float) :
    slots bounds [] = List.replicate (bounds.length + 1) 0 := by
  induction bounds with
  | nil => rfl
  | cons b bs ih =>
    rw [slots, List.filter_nil, ih]
    rfl

theorem observed_new (bounds : List Float) : Observed bounds [] (new bounds) where
  same := rfl
  counts := by
    rw [List.map_nil, slots_nil, List.map_replicate]
    rfl
  sumMicros := rfl
  count := rfl

theorem Observed.observe {bounds : List Float} {ds : List Duration} {h : LatencyHistogram}
    (seen : Observed bounds ds h) (d : Duration) : Observed bounds (ds ++ [d]) (h.observe d) where
  same := seen.same
  counts := by
    rw [List.map_append, List.map_singleton, ← modify_slots, map_modify_succ,
      ← seen.counts, ← seen.same]
    rfl
  sumMicros := by
    rw [totalMicros_append, Counter.toUInt64_add, ← seen.sumMicros]
    rfl
  count := by
    rw [List.length_append, List.length_singleton, Counter.toUInt64_add, ← seen.count]
    rfl

/-- The histogram of some durations. -/
def ofDurations (bounds : List Float) (ds : List Duration) : LatencyHistogram :=
  ds.foldl observe (new bounds)

theorem observed_ofDurations (bounds : List Float) (ds : List Duration) :
    Observed bounds ds (ofDurations bounds ds) := by
  induction ds using List.reverseRecOn with
  | nil => exact observed_new bounds
  | append_singleton ds d ih =>
    rw [ofDurations, List.foldl_append]
    exact ih.observe d

/-! ## Sums

Where the bounds ascend, the observations at most a bound are those in the slots up to it.  This
needs the order of doubles to be transitive, and nothing else of it. -/

/-- Of two bounds, the lower one takes none that the higher one does not take. -/
theorem countP_eq_add (xs : List Float) {b c : Float} (le : b ≤ c) :
    xs.countP (· ≤ c) = xs.countP (· ≤ b) + (xs.filter fun x ↦ !decide (x ≤ b)).countP (· ≤ c) := by
  have low : (xs.filter (· ≤ b)).countP (· ≤ c) = xs.countP (· ≤ b) := by
    rw [List.countP_eq_length_filter (l := xs)]
    refine List.countP_eq_length.mpr fun x hx ↦ ?_
    exact decide_eq_true (Double.le_trans (of_decide_eq_true (List.mem_filter.mp hx).2) le)
  rw [List.countP_eq_countP_filter_add xs (· ≤ c) (· ≤ b), low]

/-- **The sums up to a bound** count the numbers that are at most the bound. -/
theorem zip_runningSums {bounds : List Float} (ascending : bounds.Pairwise (· ≤ ·)) (start : Nat)
    (xs : List Float) :
    bounds.zip (runningSums start.toUInt64 ((slots bounds xs).map Nat.toUInt64)) =
      bounds.map fun b ↦ (b, (start + xs.countP (· ≤ b)).toUInt64) := by
  induction bounds generalizing start xs with
  | nil => rfl
  | cons b bs ih =>
    obtain ⟨first, others⟩ := List.pairwise_cons.mp ascending
    rw [slots, List.map_cons, runningSums, ← Counter.toUInt64_add, List.zip_cons_cons, ih others,
      List.map_cons]
    congr 1
    refine List.map_congr_left fun c hc ↦ ?_
    rw [countP_eq_add xs (first c hc), Nat.add_assoc]

/-- What a snapshot shows of a histogram after the observations `ds`. -/
structure Shows (bounds : List Float) (ds : List Duration) (s : HistogramSnapshot) : Prop where
  bounds : s.buckets.map (·.upperBound) = bounds
  /-- The count at a bound. -/
  counts : ∀ b ∈ s.buckets, b.count.toNat = ds.countP (·.toFloat ≤ b.upperBound)
  ascending : s.buckets.Pairwise (·.count ≤ ·.count)
  within : ∀ b ∈ s.buckets, b.count ≤ s.count
  count : s.count.toNat = ds.length
  sum : s.sumSeconds = (totalMicros ds).toUInt64.toFloat / 1000000.0

theorem Observed.buckets {bounds : List Float} {ds : List Duration} {h : LatencyHistogram}
    (seen : Observed bounds ds h) (ascending : bounds.Pairwise (· ≤ ·)) :
    h.snapshot.buckets = bounds.map fun b ↦ ⟨b, (ds.countP (·.toFloat ≤ b)).toUInt64⟩ := by
  rw [snapshot, seen.same, seen.counts]
  dsimp only
  rw [show (0 : UInt64) = Nat.toUInt64 0 from rfl, zip_runningSums ascending, List.map_map]
  refine List.map_congr_left fun b _ ↦ ?_
  rw [Function.comp_apply, Nat.zero_add, List.countP_map]
  rfl

theorem toNat_countP {ds : List Duration} (few : ds.length < UInt64.size) (b : Float) :
    (ds.countP (·.toFloat ≤ b)).toUInt64.toNat = ds.countP (·.toFloat ≤ b) :=
  Nat.mod_eq_of_lt (Nat.lt_of_le_of_lt List.countP_le_length few)

/-- **A snapshot shows the number of observations at most each bound.** -/
theorem Observed.shows {bounds : List Float} {ds : List Duration} {h : LatencyHistogram}
    (seen : Observed bounds ds h) (ascending : bounds.Pairwise (· ≤ ·))
    (few : ds.length < UInt64.size) : Shows bounds ds h.snapshot := by
  have buckets := seen.buckets ascending
  have count : h.snapshot.count.toNat = ds.length := by
    rw [show h.snapshot.count = h.count from rfl, seen.count]
    exact Nat.mod_eq_of_lt few
  have counts : ∀ b ∈ h.snapshot.buckets, b.count.toNat = ds.countP (·.toFloat ≤ b.upperBound) := by
    rw [buckets]
    exact List.forall_mem_map.mpr fun b _ ↦ toNat_countP few b
  refine ⟨?_, counts, ?_, fun b hb ↦ ?_, count, ?_⟩
  · rw [buckets, List.map_map]
    exact List.map_id _
  · rw [buckets, List.pairwise_map]
    refine ascending.imp fun {b c} le ↦ ?_
    rw [UInt64.le_iff_toNat_le, toNat_countP few, toNat_countP few]
    refine List.countP_mono_left fun d _ hd ↦ ?_
    exact decide_eq_true (Double.le_trans (of_decide_eq_true hd) le)
  · rw [UInt64.le_iff_toNat_le, counts b hb, count]
    exact List.countP_le_length
  · rw [← seen.sumMicros]
    rfl

end LatencyHistogram

end MetricsAgent
