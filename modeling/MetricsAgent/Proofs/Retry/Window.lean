import MetricsAgent.Proofs.Retry.Specification

/-!
# Backoff windows

The window after the `n`-th failure should be the lesser of the limit and `2 ^ n` times the base
delay.  `RetryPolicy.backoffWindow` reckons with a 32-bit factor and with durations, and answers the
limit where either leaves its range.  A product that leaves the range of durations is above every
limit, so nothing is lost there; a factor that leaves its range says nothing of the product.

The main statement is `RetryRun.windows_of_runs`: the failures after which a window is the exact
one, what it is after the others, and where the delays of every run lie.  The exception is narrow
but real.  With a base delay of zero every window should be empty, and after 32 failures it is the
limit (`exists_window_ne`).
-/

set_option autoImplicit false

namespace MetricsAgent

namespace RetryPolicy

variable {p : RetryPolicy} {n : Nat}

/-! ## The window

`exactWindow` has no bound on the factor or the product, and `IsExactAt` is the condition under
which it is the window that is computed. -/

/-- The window after the `n`-th failure in nanoseconds, with no bound on the factor or the
product. -/
def exactWindow (p : RetryPolicy) (n : Nat) : Nat :=
  min p.maxDelay.nanos (p.baseDelay.nanos * Nat.pow 2 n)

/-- The factor is in its range, or the product reaches the limit. -/
def IsExactAt (p : RetryPolicy) (n : Nat) : Prop :=
  n < 32 ∨ p.maxDelay.nanos ≤ p.baseDelay.nanos * Nat.pow 2 n

/-- A duration below the limit of a policy is within the range of durations. -/
theorem fits_of_le_maxDelay {k : Nat} (h : k ≤ p.maxDelay.nanos) : k < Duration.limit :=
  Nat.lt_of_le_of_lt h p.maxDelay.nanos_lt

theorem backoffWindow_of_lt (h : n < 32) : (p.backoffWindow n).nanos = p.exactWindow n := by
  have factor : factor? n = some (Nat.pow 2 n) := if_pos h
  rw [backoffWindow, factor, Option.bind_some, Duration.times?, Duration.ofNanos?, exactWindow]
  by_cases fits : p.baseDelay.nanos * Nat.pow 2 n < Duration.limit
  · rw [dif_pos fits]
    by_cases below : p.baseDelay.nanos * Nat.pow 2 n ≤ p.maxDelay.nanos
    · rw [Nat.min_eq_right below]
      exact congrArg Duration.nanos (if_pos below)
    · rw [Nat.min_eq_left (Nat.le_of_not_le below)]
      exact congrArg Duration.nanos (if_neg below)
  · -- A product that is no duration is above the limit.
    have above : p.maxDelay.nanos ≤ p.baseDelay.nanos * Nat.pow 2 n :=
      Nat.le_of_not_le fun below ↦ fits (fits_of_le_maxDelay below)
    rw [dif_neg fits, Nat.min_eq_left above]

theorem backoffWindow_of_le (h : 32 ≤ n) : p.backoffWindow n = p.maxDelay := by
  have factor : factor? n = none := if_neg (Nat.not_lt_of_le h)
  rw [backoffWindow, factor]
  rfl

/-- **Where the window is the exact one.** -/
theorem nanos_backoffWindow_eq_iff (p : RetryPolicy) (n : Nat) :
    (p.backoffWindow n).nanos = p.exactWindow n ↔ p.IsExactAt n := by
  by_cases h : n < 32
  · exact iff_of_true (backoffWindow_of_lt h) (.inl h)
  · rw [backoffWindow_of_le (Nat.le_of_not_lt h), exactWindow, IsExactAt, or_iff_right h]
    exact ⟨fun same ↦ same ▸ Nat.min_le_right _ _, fun above ↦ (Nat.min_eq_left above).symm⟩

/-- Where it is not, it is the limit, which is longer. -/
theorem backoffWindow_of_not_isExactAt (h : ¬p.IsExactAt n) :
    p.backoffWindow n = p.maxDelay ∧ p.exactWindow n < p.maxDelay.nanos := by
  obtain ⟨late, short⟩ := not_or.mp h
  have short : p.baseDelay.nanos * Nat.pow 2 n < p.maxDelay.nanos := Nat.lt_of_not_le short
  refine ⟨backoffWindow_of_le (Nat.le_of_not_lt late), ?_⟩
  rw [exactWindow, Nat.min_eq_right (Nat.le_of_lt short)]
  exact short

theorem backoffWindow_le (p : RetryPolicy) (n : Nat) :
    (p.backoffWindow n).nanos ≤ p.maxDelay.nanos := by
  by_cases h : n < 32
  · rw [backoffWindow_of_lt h]
    exact Nat.min_le_left _ _
  · exact Nat.le_of_eq (congrArg Duration.nanos (backoffWindow_of_le (Nat.le_of_not_lt h)))

/-! ## The delay

A delay lies in its window, the end not included; in an empty window lies zero. -/

/-- A number of nanoseconds lies in a window that begins with zero and does not contain its end; in
an empty window lies zero. -/
def Within (d window : Nat) : Prop := d < window ∨ window = 0 ∧ d = 0

theorem below_nanos (window : Duration) : (below window).nanos = window.nanos - 1 := rfl

/-- **A delay lies in its window**, whatever the source answers. -/
theorem backoff_within (p : RetryPolicy) (asked n : Nat) :
    Within (p.backoff asked n).delay.nanos (p.backoffWindow n).nanos := by
  rw [backoff]
  split
  · rename_i empty
    rw [empty]
    exact .inr ⟨rfl, rfl⟩
  · rename_i room
    have positive : 0 < (p.backoffWindow n).nanos :=
      Nat.pos_of_ne_zero (mt Duration.eq_zero_iff.mpr room)
    refine .inl ?_
    dsimp only
    split
    · rename_i within
      have within :
          (p.jitter asked (p.backoffWindow n)).nanos ≤ (p.backoffWindow n).nanos - 1 := within
      omega
    · rw [below_nanos]
      omega

theorem window_backoff (p : RetryPolicy) (asked n : Nat) :
    (p.backoff asked n).window = p.backoffWindow n := by
  rw [backoff]
  split <;> rfl

theorem length_delays (p : RetryPolicy) (k : Nat) : (p.delays k).length = k := by
  induction k with
  | zero => rfl
  | succ k ih => rw [delays, List.length_append, ih, List.length_singleton]

/-- The entry `i` of the delays is the one after the failure `i + 1`. -/
theorem exists_of_getElem?_delays {k i : Nat} {b : Backoff} (h : (p.delays k)[i]? = some b) :
    ∃ asked, b = p.backoff asked (i + 1) := by
  induction k with
  | zero => exact nomatch h
  | succ k ih =>
    rw [delays] at h
    rcases Nat.lt_or_ge i k with early | late
    · rw [List.getElem?_append_left (by rw [length_delays]; exact early)] at h
      exact ih h
    · rw [List.getElem?_append_right (by rw [length_delays]; exact late), length_delays,
        List.getElem?_singleton, Option.ite_none_right_eq_some, Option.some_inj] at h
      obtain ⟨last, rfl⟩ := h
      obtain rfl : i = k := by omega
      exact ⟨_, rfl⟩

end RetryPolicy

/-! ## The delays of a run

A run keeps its delays with the windows that they were drawn from, in order, so the statement about
a window carries over to each of them. -/

namespace RetryRun

open RetryPolicy

variable {α ε : Type}

/-- The delay `i` of a run has the window after the failure `i + 1`, and lies in it. -/
theorem window_of_backoffs {s : RetrySetup α ε} {r : RetryRun α ε} (h : Reachable s r) {i : Nat}
    {b : Backoff} (drawn : r.backoffs[i]? = some b) :
    b.window = s.policy.backoffWindow (i + 1) ∧ Within b.delay.nanos b.window.nanos := by
  obtain ⟨l, run⟩ := reachable_iff_exists_trail.mp h
  rw [(progress_of_trail run).backoffs] at drawn
  obtain ⟨asked, rfl⟩ := exists_of_getElem?_delays drawn
  rw [window_backoff]
  exact ⟨rfl, s.policy.backoff_within asked (i + 1)⟩

/-- **The windows of a policy and the delays of its runs**, for every base delay, limit, jitter
source and failure: a window is the exact one where the factor is in its range or the product
reaches the limit, and the limit elsewhere, and every delay of every run lies in the window of its
failure. -/
theorem windows_of_runs (s : RetrySetup α ε) :
    (∀ n, (s.policy.backoffWindow n).nanos = s.policy.exactWindow n ↔ s.policy.IsExactAt n) ∧
      (∀ n, ¬s.policy.IsExactAt n →
        s.policy.backoffWindow n = s.policy.maxDelay ∧
        s.policy.exactWindow n < s.policy.maxDelay.nanos) ∧
      ∀ r, Reachable s r → ∀ i b, r.backoffs[i]? = some b →
        b.window = s.policy.backoffWindow (i + 1) ∧ Within b.delay.nanos b.window.nanos ∧
          (s.policy.IsExactAt (i + 1) → Within b.delay.nanos (s.policy.exactWindow (i + 1))) := by
  refine ⟨s.policy.nanos_backoffWindow_eq_iff, fun n ↦ backoffWindow_of_not_isExactAt,
    fun r h i b drawn ↦ ?_⟩
  obtain ⟨window, within⟩ := window_of_backoffs h drawn
  refine ⟨window, within, fun isExact ↦ ?_⟩
  rw [← (s.policy.nanos_backoffWindow_eq_iff (i + 1)).mpr isExact, ← window]
  exact within

/-- No base delay, and a limit of ten seconds. -/
def baseless : RetryPolicy := ⟨40, .zero, .ofSeconds 10, fun _ window ↦ window⟩

/-- Twice nothing is nothing, but after 32 failures the window is ten seconds. -/
theorem exists_window_ne :
    ¬∀ (p : RetryPolicy) (n : Nat), (p.backoffWindow n).nanos = p.exactWindow n := by
  intro always
  have same : 10000000000 = baseless.exactWindow 32 := always baseless 32
  rw [exactWindow, show baseless.baseDelay.nanos = 0 from rfl, Nat.zero_mul, Nat.min_zero] at same
  cases same

end RetryRun

end MetricsAgent
