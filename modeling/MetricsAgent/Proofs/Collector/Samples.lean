import MetricsAgent.Collector.Delta

/-!
# Samples one after the other

A tracker takes in one sample after the other.  A sample is *accepted* when there is nothing yet to
compare it with or when it gives deltas, and it is then the baseline of those that follow; all
others are discarded.  `DeltaTracker.filter_outcomes` says that what a run tells is what comes of
comparing each accepted sample with the one before it, whatever was discarded in between.

This is the whole of what the other statements about counters need: which series have a delta
(`MetricsAgent.Proofs.Collector.SeriesKey`), what the deltas add up to
(`MetricsAgent.Proofs.Collector.Telescope`), and what failed collections do to them
(`MetricsAgent.Proofs.Collector.Collections`).
-/

set_option autoImplicit false

namespace MetricsAgent

/-- A sample with the instant at which it is taken, told as the time since a fixed origin. -/
structure Intake where
  instant : Duration
  counters : List RawCounter

/-- The sample as a baseline. -/
def Intake.toSample (s : Intake) : CounterSample := ⟨s.instant.nanos, s.counters⟩

/-- Whether a sample gave deltas. -/
def DeltaOutcome.isReady : DeltaOutcome → Bool
  | .empty => false
  | .ready .. => true

namespace DeltaTracker

/-- Take in a sample at its instant. -/
def take (t : DeltaTracker) (s : Intake) : DeltaOutcome × DeltaTracker :=
  t.observe s.instant.nanos s.counters

/-- What the samples of a run tell, in order. -/
def outcomes (t : DeltaTracker) : List Intake → List DeltaOutcome
  | [] => []
  | s :: rest => (t.take s).1 :: (t.take s).2.outcomes rest

/-- The tracker after a run. -/
def after (t : DeltaTracker) (samples : List Intake) : DeltaTracker :=
  samples.foldl (fun t s ↦ (t.take s).2) t

/-- Whether a sample is accepted: there is nothing to compare it with, or it gives deltas. -/
def accepts (t : DeltaTracker) (s : Intake) : Bool := t.baseline.isNone || (t.take s).1.isReady

/-- The samples of a run that are accepted. -/
def accepted (t : DeltaTracker) : List Intake → List Intake
  | [] => []
  | s :: rest =>
    if t.accepts s then s :: (t.take s).2.accepted rest else (t.take s).2.accepted rest

/-- What comes of comparing a sample with a baseline. -/
def comparison (b : CounterSample) (s : Intake) : DeltaOutcome :=
  .ready (.between b.time s.instant.nanos) (deltas b s.counters)

/-- What comes of comparing each of some samples with the one before it. -/
def comparisons (samples : List Intake) : List DeltaOutcome :=
  List.zipWith (fun a s ↦ comparison a.toSample s) samples samples.tail

/-! ## One sample

Three cases: there is no baseline, the sample comes too early, or it is compared and takes its
place. -/

section Step

variable {t : DeltaTracker} {b : CounterSample} {s : Intake}

/-- The first sample tells nothing, and is the first baseline. -/
theorem take_of_none (first : t.baseline = none) :
    t.take s = (.empty, { t with baseline := some s.toSample }) := by
  rw [take, observe, first]
  rfl

/-- A sample that comes too early is discarded. -/
theorem take_of_lt (later : t.baseline = some b)
    (early : Duration.between b.time s.instant.nanos < t.minWindow) : t.take s = (.empty, t) := by
  rw [take, observe, later]
  exact if_pos early

/-- Every other sample is compared with the baseline, and takes its place. -/
theorem take_of_not_lt (later : t.baseline = some b)
    (due : ¬Duration.between b.time s.instant.nanos < t.minWindow) :
    t.take s = (comparison b s, { t with baseline := some s.toSample }) := by
  rw [take, observe, later]
  exact if_neg due

/-- **What a sample tells and what becomes of the tracker**, by whether the sample is accepted. -/
theorem take_cases (t : DeltaTracker) (s : Intake) :
    t.accepts s = false ∧ t.take s = (.empty, t) ∨
      t.accepts s = true ∧ (t.take s).2 = { t with baseline := some s.toSample } ∧
        (t.baseline = none ∧ (t.take s).1 = .empty ∨
          ∃ b, t.baseline = some b ∧ (t.take s).1 = comparison b s ∧
            t.minWindow ≤ .between b.time s.instant.nanos) := by
  cases known : t.baseline with
  | none =>
    have taken := take_of_none (s := s) known
    exact .inr ⟨by rw [accepts, known]; rfl, by rw [taken], .inl ⟨rfl, by rw [taken]⟩⟩
  | some b =>
    by_cases early : Duration.between b.time s.instant.nanos < t.minWindow
    · have taken := take_of_lt known early
      exact .inl ⟨by rw [accepts, known, taken]; rfl, taken⟩
    · have taken := take_of_not_lt known early
      refine .inr
        ⟨by rw [accepts, known, taken]; rfl, by rw [taken], .inr ⟨b, rfl, by rw [taken], ?_⟩⟩
      exact Nat.le_of_not_lt early

theorem minWindow_take (t : DeltaTracker) (s : Intake) : (t.take s).2.minWindow = t.minWindow := by
  rcases take_cases t s with ⟨-, same⟩ | ⟨-, same, -⟩ <;> rw [same]

end Step

/-! ## Runs

The recursion is over the samples, with the tracker as the only state, and the accepted samples are
a part of all samples in their order. -/

variable {t : DeltaTracker} {a : Intake}

@[simp] theorem after_nil (t : DeltaTracker) : t.after [] = t := rfl

@[simp] theorem after_cons (t : DeltaTracker) (s : Intake) (rest : List Intake) :
    t.after (s :: rest) = (t.take s).2.after rest := rfl

theorem accepted_sublist (t : DeltaTracker) (samples : List Intake) :
    (t.accepted samples).Sublist samples := by
  induction samples generalizing t with
  | nil => exact .slnil
  | cons s rest ih =>
    rw [accepted]
    split
    · exact (ih _).cons_cons s
    · exact (ih _).cons s

/-- The first sample of all is accepted. -/
theorem accepted_new (window : Duration) (s : Intake) (rest : List Intake) :
    (new window).accepted (s :: rest) =
    s :: (DeltaTracker.mk window (some s.toSample)).accepted rest := rfl

@[simp] theorem head?_accepted (window : Duration) (samples : List Intake) :
    ((new window).accepted samples).head? = samples.head? := by
  cases samples <;> rfl

theorem outcomes_new (window : Duration) (s : Intake) (rest : List Intake) :
    (new window).outcomes (s :: rest) =
      .empty :: (DeltaTracker.mk window (some s.toSample)).outcomes rest := rfl

/-- **The baseline is the last accepted sample.** -/
theorem baseline_after (t : DeltaTracker) (samples : List Intake) :
    (t.after samples).baseline =
    ((t.accepted samples).getLast?.map Intake.toSample).or t.baseline := by
  induction samples generalizing t with
  | nil => rfl
  | cons s rest ih =>
    rw [after_cons, ih, accepted]
    rcases take_cases t s with ⟨no, taken⟩ | ⟨yes, taken, -⟩
    · rw [if_neg (by rw [no]; exact Bool.false_ne_true), taken]
    · rw [if_pos yes, taken, List.getLast?_cons]
      cases (DeltaTracker.accepted _ rest).getLast? <;> rfl

/-- What a run tells once there is a baseline. -/
theorem filter_outcomes_of_some (known : t.baseline = some a.toSample) (samples : List Intake) :
    (t.outcomes samples).filter (·.isReady) = comparisons (a :: t.accepted samples) := by
  induction samples generalizing t a with
  | nil => rfl
  | cons s rest ih =>
    rw [outcomes, accepted]
    rcases take_cases t s with ⟨no, taken⟩ | ⟨yes, next, ⟨first, -⟩ | ⟨b, known', told, -⟩⟩
    · rw [if_neg (by rw [no]; exact Bool.false_ne_true), taken,
        List.filter_cons_of_neg Bool.false_ne_true]
      exact ih known
    · rw [known] at first
      cases first
    · obtain rfl : a.toSample = b := Option.some.inj (known.symm.trans known')
      rw [if_pos yes, told, next, List.filter_cons_of_pos rfl, ih rfl]
      rfl

/-- **What a run tells is what comes of comparing each accepted sample with the one before it.** -/
theorem filter_outcomes (window : Duration) (samples : List Intake) :
    ((new window).outcomes samples).filter (·.isReady) = comparisons
    ((new window).accepted samples) := by
  cases samples with
  | nil => rfl
  | cons s rest =>
    rw [outcomes_new, accepted_new, List.filter_cons_of_neg Bool.false_ne_true]
    exact filter_outcomes_of_some rfl rest

/-- A sample that gives deltas is taken no earlier than the window allows. -/
theorem le_of_mem_outcomes {elapsed : Duration} {ds : List CounterDelta} {samples : List Intake}
    (told : .ready elapsed ds ∈ t.outcomes samples) : t.minWindow ≤ elapsed := by
  induction samples generalizing t with
  | nil => cases told
  | cons s rest ih =>
    rcases List.mem_cons.mp told with told | told
    · rcases take_cases t s with ⟨-, taken⟩ | ⟨-, -, ⟨-, nothing⟩ | ⟨b, -, compared, late⟩⟩
      · rw [taken] at told
        cases told
      · rw [nothing] at told
        cases told
      · rw [compared] at told
        cases told
        exact late
    · rw [← minWindow_take t s]
      exact ih told

end DeltaTracker

end MetricsAgent
