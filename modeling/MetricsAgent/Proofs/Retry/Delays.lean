import Mathlib.Algebra.Group.Action.Defs
import Mathlib.Algebra.Order.BigOperators.Group.List
import Mathlib.Tactic.Ring
import MetricsAgent.Proofs.Retry.Window

/-!
# How long a run waits

Every delay lies below its window, whatever the jitter source answers, the windows only grow, and
the limit bounds them all.  A run has no more delays than it has retries, so the time that it asks
to wait for is bounded by its budget: `RetryRun.delays_stay_below_windows`.

The bounds are strict where the windows are not empty.  A delay is then at least a nanosecond
shorter than its window, so that even a source that always answers the end of the window stays
below, and the sum of the delays of a run stays strictly below the number of retries times the
limit, unless the run does not wait at all.
-/

set_option autoImplicit false

namespace MetricsAgent

namespace RetryPolicy

variable {p : RetryPolicy} {asked m n : Nat}

/-! ## Windows

The window doubles until the factor or the product leaves its range, and is the limit from there on;
since no window is longer than the limit, it grows there too. -/

/-- **Windows only grow**, also where the factor or the product leaves its range. -/
theorem backoffWindow_mono (p : RetryPolicy) (h : m ≤ n) :
    p.backoffWindow m ≤ p.backoffWindow n := by
  show (p.backoffWindow m).nanos ≤ (p.backoffWindow n).nanos
  rcases Nat.lt_or_ge n 32 with early | late
  · have factors : Nat.pow 2 m ≤ Nat.pow 2 n := Nat.pow_le_pow_right Nat.two_pos h
    have products := Nat.mul_le_mul_left p.baseDelay.nanos factors
    rw [backoffWindow_of_lt early, backoffWindow_of_lt (Nat.lt_of_le_of_lt h early),
      exactWindow, exactWindow]
    omega
  · rw [backoffWindow_of_le late]
    exact p.backoffWindow_le m

/-! ## Delays

Whatever a source answers is cut to the longest delay below the window. -/

theorem backoff_of_zero (empty : p.backoffWindow n = .zero) :
    p.backoff asked n = ⟨.zero, .zero, false⟩ := by
  rw [backoff, if_pos empty, empty]

theorem asked_backoff (room : p.backoffWindow n ≠ .zero) : (p.backoff asked n).asked = true := by
  rw [backoff, if_neg room]

theorem delay_lt_window (room : p.backoffWindow n ≠ .zero) :
    (p.backoff asked n).delay < p.backoffWindow n :=
  (p.backoff_within asked n).resolve_right fun empty ↦ room (Duration.eq_zero_iff.mpr empty.1)

/-- A window that is not empty is at least a nanosecond, so that the longest delay below it is a
nanosecond shorter. -/
theorem below_add_one {window : Duration} (room : window ≠ .zero) :
    Duration.ofNanos 1 ≤ window ∧
      (below window).nanos + (Duration.ofNanos 1).nanos = window.nanos := by
  have positive : 1 ≤ window.nanos := Nat.pos_of_ne_zero (mt Duration.eq_zero_iff.mpr room)
  exact ⟨positive, Nat.sub_add_cancel positive⟩

/-! ## Sums of delays

A sum of entries with a common bound, of which one stays strictly below it. -/

/-- The time that some backoffs ask to wait for, in nanoseconds. -/
def totalDelay (l : List Backoff) : Nat := (l.map (·.delay.nanos)).sum

theorem totalDelay_le {l : List Backoff} {limit : Nat} (each : ∀ b ∈ l, b.delay.nanos ≤ limit) :
    totalDelay l ≤ l.length * limit := by
  have bound := List.sum_le_card_nsmul (l.map (·.delay.nanos)) limit (List.forall_mem_map.mpr each)
  rwa [List.length_map, smul_eq_mul] at bound

/-- Delays that lie in their windows stay below the limit together, when one of them is not zero. -/
theorem totalDelay_lt {l : List Backoff} {limit : Nat}
    (within : ∀ b ∈ l, Within b.delay.nanos b.window.nanos ∧ b.window.nanos ≤ limit)
    (waits : ∃ b ∈ l, b.delay ≠ .zero) : totalDelay l < l.length * limit := by
  have each : ∀ b ∈ l, b.delay.nanos ≤ limit := by
    intro b hb
    obtain ⟨below | ⟨-, none⟩, bound⟩ := within b hb <;> omega
  obtain ⟨b, hb, waits⟩ := waits
  have short : b.delay.nanos < limit := by
    obtain ⟨below | ⟨-, none⟩, bound⟩ := within b hb
    · omega
    · exact absurd (Duration.eq_zero_iff.mpr none) waits
  obtain ⟨before, after, rfl⟩ := List.append_of_mem hb
  have first := totalDelay_le fun a ha ↦ each a (List.mem_append_left _ ha)
  have rest := totalDelay_le fun a ha ↦ each a (List.mem_append_right _ (List.mem_cons_of_mem _ ha))
  calc totalDelay (before ++ b :: after)
      = totalDelay before + (b.delay.nanos + totalDelay after) := by simp [totalDelay]
    _ < before.length * limit + (limit + after.length * limit) := by omega
    _ = (before ++ b :: after).length * limit := by simp; ring

end RetryPolicy

namespace RetryRun

open RetryPolicy

variable {α ε : Type} {s : RetrySetup α ε} {r : RetryRun α ε}

/-- A run has no more delays than its policy allows retries. -/
theorem length_backoffs_le (h : Reachable s r) : r.backoffs.length ≤ s.policy.maxAttempts := by
  obtain ⟨l, run⟩ := reachable_iff_exists_trail.mp h
  have progress := progress_of_trail run
  rw [progress.backoffs, length_delays]
  exact progress.budget

theorem within_of_mem_backoffs (h : Reachable s r) : ∀ b ∈ r.backoffs,
    Within b.delay.nanos b.window.nanos ∧ b.window.nanos ≤ s.policy.maxDelay.nanos := by
  intro b hb
  obtain ⟨i, drawn⟩ := List.getElem?_of_mem hb
  obtain ⟨window, within⟩ := window_of_backoffs h drawn
  exact ⟨within, window ▸ s.policy.backoffWindow_le (i + 1)⟩

/-- **The time that a run asks to wait for is below its budget**, unless it does not wait at all. -/
theorem totalDelay_lt_budget (h : Reachable s r) (waits : ∃ b ∈ r.backoffs, b.delay ≠ .zero) :
    totalDelay r.backoffs < s.policy.maxAttempts * s.policy.maxDelay.nanos :=
  Nat.lt_of_lt_of_le (totalDelay_lt (within_of_mem_backoffs h) waits)
    (Nat.mul_le_mul_right _ (length_backoffs_le h))

/-- **Delays stay below their windows**, for every base delay, limit, failure and jitter source: a
delay is below its window, which is not empty, or it is zero and the source has no part in it; the
windows only grow and stay within the limit; and what a run waits for is below its retries times the
limit. -/
theorem delays_stay_below_windows (s : RetrySetup α ε) :
    (∀ asked n, (s.policy.backoff asked n).window = s.policy.backoffWindow n ∧
      (s.policy.backoffWindow n ≠ .zero →
        (s.policy.backoff asked n).asked = true ∧
          (s.policy.backoff asked n).delay < s.policy.backoffWindow n ∧
          Duration.ofNanos 1 ≤ s.policy.backoffWindow n ∧
          (below (s.policy.backoffWindow n)).nanos + (Duration.ofNanos 1).nanos =
            (s.policy.backoffWindow n).nanos) ∧
      (s.policy.backoffWindow n = .zero →
        (s.policy.backoff asked n).asked = false ∧ (s.policy.backoff asked n).delay = .zero ∧
          ∀ jitter asked', ({ s.policy with jitter := jitter } : RetryPolicy).backoff asked' n =
            s.policy.backoff asked n)) ∧
      (∀ m n, m ≤ n → s.policy.backoffWindow m ≤ s.policy.backoffWindow n) ∧
      (∀ n, s.policy.backoffWindow n ≤ s.policy.maxDelay) ∧
      ∀ r, Reachable s r → (∃ b ∈ r.backoffs, b.delay ≠ .zero) →
        totalDelay r.backoffs < s.policy.maxAttempts * s.policy.maxDelay.nanos := by
  refine ⟨fun asked n ↦ ⟨window_backoff .., fun room ↦ ?_, fun empty ↦ ?_⟩,
    fun m n h ↦ backoffWindow_mono _ h, backoffWindow_le _,
    fun r h waits ↦ totalDelay_lt_budget h waits⟩
  · exact ⟨asked_backoff room, delay_lt_window room, below_add_one room⟩
  · rw [backoff_of_zero empty]
    exact ⟨rfl, rfl, fun jitter asked' ↦ backoff_of_zero
      (p := { s.policy with jitter := jitter }) empty⟩

/-- A source that answers the end of the window each time. -/
theorem delays_stay_below_windows_twice : ∃ r : RetryRun Nat String, Reachable busyTwice r ∧
    r.backoffs.map (·.delay.nanos) = [19999999, 39999999] ∧
    totalDelay r.backoffs < busyTwice.policy.maxAttempts * busyTwice.policy.maxDelay.nanos := by
  have run : Trail (move busyTwice) start _ _ :=
    Trail.of_follow [.step, .step, .elapse 20, .step, .step, .step] rfl
  have reached := reachable_iff_exists_trail.mpr ⟨_, run⟩
  refine ⟨_, reached, rfl, ?_⟩
  exact (delays_stay_below_windows busyTwice).2.2.2 _ reached ⟨_, List.mem_cons_self, by decide⟩

end RetryRun

end MetricsAgent
