import MetricsAgent.Proofs.Trail
import MetricsAgent.Retry.Run

/-!
# The course of a retry run

The moves of a retry run, and what one of its stretches can be.  `RetryRun.Stretch` has one
constructor for each kind, and `RetryRun.step_stretch` says that there is nothing else.

Everything that is proved about retry runs goes through this inductive.  Its constructors say in
full what a stretch does — the guard under which it happens, and what it changes in each field — so
that no later proof looks at the definition of `RetryRun.step` again.
-/

set_option autoImplicit false

namespace MetricsAgent

namespace RetryRun

variable {α ε : Type} {s : RetrySetup α ε} {r r' : RetryRun α ε}

/-! ## Moves

A run of the model is a trail of moves: a stretch, time that passes, or the token that fires.  The
reachable states are those at the end of a trail. -/

/-- What can happen next to a retry run. -/
inductive Move where
  | step
  | elapse (ms : Nat)
  | fire
  deriving DecidableEq

/-- Make a move, if it is possible. -/
def move (s : RetrySetup α ε) (m : Move) (r : RetryRun α ε) : Option (RetryRun α ε) :=
  match m with
  | .step => r.step s
  | .elapse ms => some { r with now := r.now + ms }
  | .fire => some { r with fired := true }

/-- The reachable states are those at the end of a trail. -/
theorem reachable_iff_exists_trail : Reachable s r ↔ ∃ l, Trail (move s) start l r := by
  constructor
  · intro h
    induction h with
    | start => exact ⟨[], .start⟩
    | step _ e ih => obtain ⟨l, h⟩ := ih; exact ⟨_, h.move .step e⟩
    | elapse _ ms ih => obtain ⟨l, h⟩ := ih; exact ⟨_, h.move (.elapse ms) rfl⟩
    | fire _ ih => obtain ⟨l, h⟩ := ih; exact ⟨_, h.move .fire rfl⟩
  · rintro ⟨l, h⟩
    refine h.invariant .start fun m hv e ↦ ?_
    cases m with
    | step => exact .step hv e
    | elapse ms => cases e; exact .elapse hv ms
    | fire => cases e; exact .fire hv

/-! ## Stretches

A run stands between two invocations, in an invocation, or at its end.  There are seven things that
can happen, and a run that has not ended always goes on when enough time has passed
(`exists_step`). -/

namespace Phase

/-- Whether no invocation is in flight, and the run has not ended. -/
def isBetween : Phase α ε → Bool
  | deciding | waiting _ => true
  | acting _ | ended _ => false

/-- Whether an invocation is in flight. -/
def isActing : Phase α ε → Bool
  | acting _ => true
  | _ => false

end Phase

/-- The run is over. -/
def finish (r : RetryRun α ε) (o : Except (RetryError ε) α) : RetryRun α ε :=
  { r with phase := .ended o }

/-- What happens when an invocation fails with `e` and is to be retried: the callback is told, and a
delay begins. -/
def backOff (s : RetrySetup α ε) (r : RetryRun α ε) (e : ε) : RetryRun α ε :=
  let b := s.policy.backoff r.asked (r.retries + 1)
  { r with
    retries := r.retries + 1
    notices := r.notices ++ [(r.retries + 1, e)]
    fired := r.fired || s.callbackCancels (r.retries + 1)
    backoffs := r.backoffs ++ [b]
    phase := .waiting (r.now + b.delay.ceilMillis) }

/-- What a stretch can be. -/
inductive Stretch (s : RetrySetup α ε) (r : RetryRun α ε) : RetryRun α ε → Prop where
  | cancels (between : r.phase.isBetween = true) (fired : r.fired = true) :
    Stretch s r (r.finish (.error .cancelled))
  /-- The next invocation begins. -/
  | begins (deciding : r.phase = .deciding) (unfired : r.fired = false) :
    Stretch s r { r with
      calls := r.calls ++ [r.retries + 1]
      fired := s.actionCancels (r.retries + 1)
      phase := .acting (r.now + s.actionMs (r.retries + 1)) }
  | succeeds (acting : r.phase.isActing = true) (x : α)
    (result : s.result (r.retries + 1) = .ok x) :
    Stretch s r (r.finish (.ok x))
  | fails (acting : r.phase.isActing = true) (e : ε) (result : s.result (r.retries + 1) = .error e)
    (final : s.isTransient e = false) : Stretch s r (r.finish (.error (.fatal (r.retries + 1) e)))
  | exhausts (acting : r.phase.isActing = true) (e : ε)
    (result : s.result (r.retries + 1) = .error e) (transient : s.isTransient e = true)
    (used : s.policy.maxAttempts ≤ r.retries) :
    Stretch s r (r.finish (.error (.exhausted (r.retries + 1) e)))
  | retries (acting : r.phase.isActing = true) (e : ε)
    (result : s.result (r.retries + 1) = .error e) (transient : s.isTransient e = true)
    (left : r.retries < s.policy.maxAttempts) : Stretch s r (r.backOff s e)
  /-- A delay is over. -/
  | wakes (t : Nat) (waiting : r.phase = .waiting t) (due : t ≤ r.now) (unfired : r.fired = false) :
    Stretch s r { r with phase := .deciding }

/-- What follows from a failure. -/
theorem afterFailure_stretch (acting : r.phase.isActing = true) {e : ε}
    (result : s.result (r.retries + 1) = .error e) : Stretch s r (r.afterFailure s e) := by
  cases transient : s.isTransient e with
  | false =>
    have decided : s.policy.decision r.retries false = .fatal := rfl
    rw [afterFailure, transient, decided]
    exact .fails acting e result transient
  | true =>
    by_cases used : s.policy.maxAttempts ≤ r.retries
    · have decided : s.policy.decision r.retries true = .exhausted := by
        simp [RetryPolicy.decision, used]
      rw [afterFailure, transient, decided]
      exact .exhausts acting e result transient used
    · have decided : s.policy.decision r.retries true = .retry := by
        simp [RetryPolicy.decision, used]
      -- Whether the callback crashes makes no difference.
      have backs_off : r.afterFailure s e = r.backOff s e := by
        rw [afterFailure, transient, decided]
        cases called : s.callback (r.retries + 1) e <;> simp only [called, backOff]
      rw [backs_off]
      exact .retries acting e result transient (Nat.lt_of_not_le used)

/-- **There are no other stretches.** -/
theorem step_stretch (h : r.step s = some r') : Stretch s r r' := by
  cases phase : r.phase with
  | deciding =>
    simp only [step, phase] at h
    split at h
    · rename_i fired
      cases h
      exact .cancels (by rw [phase]; rfl) fired
    · rename_i unfired
      have unfired : r.fired = false := Bool.eq_false_iff.mpr unfired
      cases h
      rw [unfired, Bool.false_or]
      exact .begins phase unfired
  | acting t =>
    have acting : r.phase.isActing = true := by rw [phase]; rfl
    simp only [step, phase, Option.ite_none_left_eq_some] at h
    obtain ⟨-, h⟩ := h
    cases result : s.result (r.retries + 1) with
    | ok x =>
      rw [result] at h
      cases h
      exact .succeeds acting x result
    | error e =>
      rw [result] at h
      cases h
      exact afterFailure_stretch acting result
  | waiting t =>
    simp only [step, phase] at h
    split at h
    · rename_i fired
      cases h
      exact .cancels (by rw [phase]; rfl) fired
    · rename_i unfired
      rw [Option.ite_none_left_eq_some] at h
      obtain ⟨due, h⟩ := h
      cases h
      exact .wakes t phase (Nat.le_of_not_lt due) (Bool.eq_false_iff.mpr unfired)
  | ended o => simp [step, phase] at h

/-- **A run that has not ended goes on**, when enough time has passed. -/
theorem exists_step (h : r.outcome? = none) :
    ∃ ms r', ({ r with now := r.now + ms } : RetryRun α ε).step s = some r' := by
  cases phase : r.phase with
  | deciding =>
    refine ⟨0, ?_⟩
    simp only [step]
    split <;> exact ⟨_, rfl⟩
  | acting t =>
    refine ⟨t, ?_⟩
    have due : ¬r.now + t < t := by omega
    simp only [step, if_neg due]
    split <;> exact ⟨_, rfl⟩
  | waiting t =>
    refine ⟨t, ?_⟩
    have due : ¬r.now + t < t := by omega
    simp only [step, if_neg due]
    split <;> exact ⟨_, rfl⟩
  | ended o => simp [outcome?, phase] at h

end RetryRun

end MetricsAgent
