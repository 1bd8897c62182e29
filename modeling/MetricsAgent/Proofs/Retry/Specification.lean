import MetricsAgent.Proofs.Retry.Course

/-!
# Retry runs, specified

What a retry run does is told by its script and by when the token fires.  `RetryRun.Progress` is the
invariant: it counts invocations, retries and stretches by where the run stands.  From it follows
`RetryRun.run_specified`: which invocations there are, what the callback is told, how the run ends,
and that it ends.

The statement is a structure, `Specified`, and its parts are about runs of any length, with any
policy, script, classifier, jitter source and callback, and with the token firing at any moment.
They say when an invocation begins, when the callback is told and with what, that a run which has
not ended can go on, that it has no more stretches than its budget allows, and, in `Ending`, which
of the four ends it has and why.
-/

set_option autoImplicit false

namespace MetricsAgent

/-- The delays after the first failures, each of which may ask the jitter source. -/
def RetryPolicy.delays (p : RetryPolicy) : Nat → List Backoff
  | 0 => []
  | n + 1 => p.delays n ++ [p.backoff ((p.delays n).filter (·.asked)).length (n + 1)]

namespace RetryRun

variable {α ε : Type}

/-- The run has stood before the invocation `i`, or before an earlier one, when the token had
fired. -/
def FiredBefore (l : List (Passage (RetryRun α ε) Move)) (i : Nat) : Prop :=
  ∃ t ∈ l, t.before.fired = true ∧ t.before.phase.isBetween = true ∧ t.before.retries < i

/-- The invocation `i` fails, and may be retried. -/
def FailsTransiently (s : RetrySetup α ε) (i : Nat) : Prop :=
  ∃ e, s.result i = .error e ∧ s.isTransient e = true

/-- The number of stretches of a run. -/
def steps (l : List (Passage (RetryRun α ε) Move)) : Nat := l.countP (·.move = .step)

theorem steps_append (l : List (Passage (RetryRun α ε) Move)) (t : Passage (RetryRun α ε) Move) :
    steps (l ++ [t]) = steps l + if t.move = .step then 1 else 0 := by
  rw [steps, List.countP_append, List.countP_singleton, steps]
  simp only [decide_eq_true_eq]

/-! ## Where a run stands

A run that has begun `n` invocations has failed transiently in all before the last, and has told the
callback of each.  `begun` and `Stretches` count, by where the run stands, and `Verdict` says of a
run that is over how it ended. -/

/-- The number of invocations that have begun, by where the run stands. -/
def begun (r : RetryRun α ε) : Nat :=
  match r.phase with
  | .deciding | .waiting _ | .ended (.error .cancelled) => r.retries
  | .acting _ | .ended _ => r.retries + 1

/-- The number of stretches, by where the run stands; for a run that has ended a bound. -/
def Stretches (r : RetryRun α ε) (n : Nat) : Prop :=
  match r.phase with
  | .deciding => n = 3 * r.retries
  | .acting _ => n = 3 * r.retries + 1
  | .waiting _ => n + 1 = 3 * r.retries
  | .ended _ => n ≤ 3 * r.retries + 2

/-- How a run has ended, and why. -/
def Verdict (s : RetrySetup α ε) (l : List (Passage (RetryRun α ε) Move)) (r : RetryRun α ε) :
    Except (RetryError ε) α → Prop
  | .ok x => s.result (r.retries + 1) = .ok x
  | .error (.fatal n e) =>
    n = r.retries + 1 ∧ s.result (r.retries + 1) = .error e ∧ s.isTransient e = false
  | .error (.exhausted n e) =>
    n = r.retries + 1 ∧ s.result (r.retries + 1) = .error e ∧ s.isTransient e = true ∧
      r.retries = s.policy.maxAttempts
  | .error .cancelled =>
    ∃ t ∈ l, t.before.fired = true ∧ t.before.phase.isBetween = true ∧ t.before.retries = r.retries

/-- What a run has done so far. -/
structure Progress (s : RetrySetup α ε) (l : List (Passage (RetryRun α ε) Move))
    (r : RetryRun α ε) : Prop
    where
  calls : r.calls = List.range' 1 r.begun
  noticed : r.notices.map Prod.fst = List.range' 1 r.retries
  notices : ∀ a ∈ r.notices, s.result a.1 = .error a.2 ∧ s.isTransient a.2 = true
  backoffs : r.backoffs = s.policy.delays r.retries
  budget : r.retries ≤ s.policy.maxAttempts
  stretches : r.Stretches (steps l)
  verdict : ∀ o, r.phase = .ended o → Verdict s l r o
  /-- Once the token had fired between two invocations, there is no further one. -/
  stopped : ∀ t ∈ l, t.before.fired = true → t.before.phase.isBetween = true →
    r.retries = t.before.retries ∧
      (r.fired = true ∧ r.phase.isBetween = true ∨ r.phase = .ended (.error .cancelled))

section Moves

variable {s : RetrySetup α ε} {r r' : RetryRun α ε}
  {l : List (Passage (RetryRun α ε) Move)} {m : Move}

theorem progress_start : Progress s [] (start : RetryRun α ε) where
  calls := rfl
  noticed := rfl
  notices _ h := nomatch h
  backoffs := rfl
  budget := Nat.zero_le _
  stretches := rfl
  verdict _ h := nomatch h
  stopped _ h := nomatch h

theorem isBetween_of_isActing {φ : Phase α ε} (h : φ.isActing = true) : φ.isBetween = false := by
  cases φ with
  | acting t => rfl
  | _ => cases h

theorem begun_of_isBetween (h : r.phase.isBetween = true) : r.begun = r.retries := by
  cases phase : r.phase with
  | deciding | waiting t => rw [begun, phase]
  | acting t | ended o => rw [phase] at h; cases h

theorem begun_of_isActing (h : r.phase.isActing = true) : r.begun = r.retries + 1 := by
  cases phase : r.phase with
  | acting t => rw [begun, phase]
  | _ => rw [phase] at h; cases h

theorem Stretches.le_of_isBetween {n : Nat} (h : r.Stretches n)
    (between : r.phase.isBetween = true) : n ≤ 3 * r.retries := by
  cases phase : r.phase with
  | deciding => rw [Stretches, phase] at h; exact Nat.le_of_eq h
  | waiting t => rw [Stretches, phase] at h; exact Nat.le_of_succ_le (Nat.le_of_eq h)
  | acting t | ended o => rw [phase] at between; cases between

theorem Stretches.eq_of_isActing {n : Nat} (h : r.Stretches n) (acting : r.phase.isActing = true) :
    n = 3 * r.retries + 1 := by
  cases phase : r.phase with
  | acting t => rw [Stretches, phase] at h; exact h
  | _ => rw [phase] at acting; cases acting

/-- Between two invocations, a fired token leaves nothing to do but to end. -/
theorem stays_of_fired (e : move s m r = some r') (fired : r.fired = true)
    (between : r.phase.isBetween = true) : r'.retries = r.retries ∧
      (r'.fired = true ∧ r'.phase.isBetween = true ∨ r'.phase = .ended (.error .cancelled)) := by
  cases m with
  | step =>
    cases step_stretch e with
    | cancels => exact ⟨rfl, .inr rfl⟩
    | begins _ unfired => rw [fired] at unfired; cases unfired
    | wakes _ _ _ unfired => rw [fired] at unfired; cases unfired
    | succeeds acting | fails acting | exhausts acting | retries acting =>
      rw [isBetween_of_isActing acting] at between
      cases between
  | elapse ms => cases e; exact ⟨rfl, .inl ⟨fired, between⟩⟩
  | fire => cases e; exact ⟨rfl, .inl ⟨rfl, between⟩⟩

theorem stays_of_ended (e : move s m r = some r') {o : Except (RetryError ε) α}
    (ended : r.phase = .ended o) : r'.retries = r.retries ∧ r'.phase = .ended o := by
  cases m with
  | step => simp [move, step, ended] at e
  | elapse ms => cases e; exact ⟨rfl, ended⟩
  | fire => cases e; exact ⟨rfl, ended⟩

/-- There is no invocation after the token was seen. -/
theorem Progress.stopped_move (h : Progress s l r) (e : move s m r = some r') :
    ∀ t ∈ l ++ [⟨r, m, r'⟩], t.before.fired = true → t.before.phase.isBetween = true →
      r'.retries = t.before.retries ∧
        (r'.fired = true ∧ r'.phase.isBetween = true ∨ r'.phase = .ended (.error .cancelled)) := by
  intro t ht fired between
  rcases List.mem_append.mp ht with ht | ht
  · obtain ⟨same, ⟨fired, between⟩ | ended⟩ := h.stopped t ht fired between
    · rw [← same]
      exact stays_of_fired e fired between
    · obtain ⟨still, ended⟩ := stays_of_ended e ended
      exact ⟨still.trans same, .inr ended⟩
  · rw [List.mem_singleton.mp ht] at fired between ⊢
    exact stays_of_fired e fired between

/-- Time passes or the token fires: the run stands where it stood. -/
theorem Progress.quiet (h : Progress s l r) (e : move s m r = some r') (quiet : m ≠ .step)
    (calls : r'.calls = r.calls) (notices : r'.notices = r.notices)
    (backoffs : r'.backoffs = r.backoffs) (retries : r'.retries = r.retries)
    (phase : r'.phase = r.phase) : Progress s (l ++ [⟨r, m, r'⟩]) r' where
  calls := by rw [calls, h.calls, begun, begun, phase, retries]
  noticed := by rw [notices, retries]; exact h.noticed
  notices := notices ▸ h.notices
  backoffs := by rw [backoffs, retries]; exact h.backoffs
  budget := retries ▸ h.budget
  stretches := by
    rw [steps_append, if_neg quiet, Nat.add_zero, Stretches, phase, retries]
    exact h.stretches
  verdict o ended := by
    have verdict := h.verdict o (phase ▸ ended)
    cases o with
    | ok x => rw [Verdict, retries]; exact verdict
    | error err =>
      cases err with
      | fatal n e => rw [Verdict, retries]; exact verdict
      | exhausted n e => rw [Verdict, retries]; exact verdict
      | cancelled =>
        obtain ⟨t, ht, fired, between, same⟩ := verdict
        exact ⟨t, List.mem_append_left _ ht, fired, between, same.trans retries.symm⟩
  stopped := h.stopped_move e

/-- The run ends, with the invocations that there are. -/
theorem Progress.finish (h : Progress s l r) {o : Except (RetryError ε) α}
    (e : move s .step r = some (r.finish o)) (begun : (r.finish o).begun = r.begun)
    (bound : steps l + 1 ≤ 3 * r.retries + 2)
    (verdict : Verdict s (l ++ [⟨r, .step, r.finish o⟩]) (r.finish o) o) :
    Progress s (l ++ [⟨r, .step, r.finish o⟩]) (r.finish o) where
  calls := by rw [begun]; exact h.calls
  noticed := h.noticed
  notices := h.notices
  backoffs := h.backoffs
  budget := h.budget
  stretches := by rw [steps_append, if_pos rfl]; exact bound
  verdict o' ended := by
    obtain rfl : o = o' := Phase.ended.inj ended
    exact verdict
  stopped := h.stopped_move e

/-- **Every stretch is told.** -/
theorem Progress.stretch (h : Progress s l r) (e : move s .step r = some r') :
    Progress s (l ++ [⟨r, .step, r'⟩]) r' := by
  have stopped := h.stopped_move e
  -- The three ends of an attempt differ in their verdicts only.
  have finishes {o : Except (RetryError ε) α} (acting : r.phase.isActing = true)
      (e : move s .step r = some (r.finish o)) (begun : (r.finish o).begun = r.retries + 1)
      (verdict : Verdict s (l ++ [⟨r, .step, r.finish o⟩]) (r.finish o) o) :
      Progress s (l ++ [⟨r, .step, r.finish o⟩]) (r.finish o) := by
    have stretches := h.stretches.eq_of_isActing acting
    exact h.finish e (begun.trans (begun_of_isActing acting).symm) (by omega) verdict
  cases step_stretch e with
  | cancels between fired =>
    have stretches := h.stretches.le_of_isBetween between
    exact h.finish e (begun_of_isBetween between).symm (by omega)
      ⟨_, List.mem_append_right _ (List.mem_singleton_self _), fired, between, rfl⟩
  | succeeds acting x result => exact finishes acting e rfl result
  | fails acting err result final => exact finishes acting e rfl ⟨rfl, result, final⟩
  | exhausts acting err result transient used =>
    exact finishes acting e rfl ⟨rfl, result, transient, Nat.le_antisymm h.budget used⟩
  | begins deciding unfired =>
    have between : r.phase.isBetween = true := by rw [deciding]; rfl
    have stretches : steps l = 3 * r.retries := by
      have stretches := h.stretches
      rw [Stretches, deciding] at stretches
      exact stretches
    refine ⟨?_, h.noticed, h.notices, h.backoffs, h.budget, ?_,
      fun o ended ↦ (nomatch ended), stopped⟩
    · show r.calls ++ [r.retries + 1] = List.range' 1 (r.retries + 1)
      rw [h.calls, begun_of_isBetween between, List.range'_1_concat, Nat.add_comm]
    · rw [steps_append, if_pos rfl, stretches]
      rfl
  | retries acting err result transient left =>
    have stretches := h.stretches.eq_of_isActing acting
    refine ⟨?_, ?_, ?_, ?_, left, ?_, fun o ended ↦ (nomatch ended), stopped⟩
    · exact h.calls.trans (by rw [begun_of_isActing acting]; rfl)
    · -- The notice carries the attempt's number, which is the number of the notice.
      show (r.notices ++ [(r.retries + 1, err)]).map Prod.fst = List.range' 1 (r.retries + 1)
      rw [List.map_append, h.noticed, List.range'_1_concat, Nat.add_comm 1]
      rfl
    · exact List.forall_mem_append.mpr
        ⟨h.notices, List.forall_mem_singleton.mpr ⟨result, transient⟩⟩
    · show r.backoffs ++ [s.policy.backoff r.asked (r.retries + 1)] =
        s.policy.delays (r.retries + 1)
      rw [asked, h.backoffs]
      rfl
    · rw [steps_append, if_pos rfl, stretches]
      show 3 * r.retries + 1 + 1 + 1 = 3 * (r.retries + 1)
      omega
  | wakes t waiting due unfired =>
    have between : r.phase.isBetween = true := by rw [waiting]; rfl
    have stretches : steps l + 1 = 3 * r.retries := by
      have stretches := h.stretches
      rw [Stretches, waiting] at stretches
      exact stretches
    refine ⟨?_, h.noticed, h.notices, h.backoffs, h.budget, ?_,
      fun o ended ↦ (nomatch ended), stopped⟩
    · exact h.calls.trans (by rw [begun_of_isBetween between]; rfl)
    · rw [steps_append, if_pos rfl, stretches]
      rfl

theorem progress_of_trail (h : Trail (move s) start l r) : Progress s l r := by
  induction h with
  | start => exact progress_start
  | move _ m e ih =>
    cases m with
    | step => exact ih.stretch e
    | elapse ms => cases e; exact ih.quiet rfl (fun h ↦ nomatch h) rfl rfl rfl rfl rfl
    | fire => cases e; exact ih.quiet rfl (fun h ↦ nomatch h) rfl rfl rfl rfl rfl

end Moves

/-! ## What a run was told and what it answers

The invariant read off: invocations, notices and delays as lists, and the outcome as a function of
the script.  Only the last invocation can have another result than a transient error, so if it has
begun, it decides. -/

section Progress

variable {s : RetrySetup α ε} {r r' : RetryRun α ε}
  {l : List (Passage (RetryRun α ε) Move)} {m : Move} {o : Except (RetryError ε) α}

theorem begun_le (r : RetryRun α ε) : r.retries ≤ r.begun ∧ r.begun ≤ r.retries + 1 := by
  rw [begun]
  split <;> omega

theorem Progress.mem_calls (h : Progress s l r) (i : Nat) : i ∈ r.calls ↔ 1 ≤ i ∧ i ≤ r.begun := by
  rw [h.calls, List.mem_range'_1]
  omega

theorem Progress.length_calls (h : Progress s l r) : r.calls.length = r.begun := by
  rw [h.calls, List.length_range']

theorem Progress.length_notices (h : Progress s l r) : r.notices.length = r.retries := by
  rw [← List.length_map (f := Prod.fst), h.noticed, List.length_range']

/-- The callback was told the errors of the invocations that were retried. -/
theorem Progress.mem_notices (h : Progress s l r) (n : Nat) (e : ε) :
    (n, e) ∈ r.notices ↔ 1 ≤ n ∧ n ≤ r.retries ∧ s.result n = .error e := by
  have told : n ∈ r.notices.map Prod.fst ↔ 1 ≤ n ∧ n ≤ r.retries := by
    rw [h.noticed, List.mem_range'_1]
    omega
  constructor
  · intro mem
    obtain ⟨first, last⟩ := told.mp (List.mem_map_of_mem mem)
    exact ⟨first, last, (h.notices _ mem).1⟩
  · rintro ⟨first, last, result⟩
    obtain ⟨⟨n', e'⟩, mem, rfl⟩ := List.mem_map.mp (told.mpr ⟨first, last⟩)
    obtain rfl : e = e' := Except.error.inj (result.symm.trans (h.notices _ mem).1)
    exact mem

/-- What was retried has failed transiently. -/
theorem Progress.earlier (h : Progress s l r) {j : Nat} (first : 1 ≤ j) (last : j ≤ r.retries) :
    FailsTransiently s j := by
  have told : j ∈ r.notices.map Prod.fst := by
    rw [h.noticed, List.mem_range'_1]
    omega
  obtain ⟨a, mem, rfl⟩ := List.mem_map.mp told
  exact ⟨a.2, h.notices a mem⟩

/-- How a run ends after its last invocation. -/
def outcomeAt (s : RetrySetup α ε) (n : Nat) : Except (RetryError ε) α :=
  match s.result n with
  | .ok x => .ok x
  | .error e => if s.isTransient e then .error (.exhausted n e) else .error (.fatal n e)

section Outcome

variable {n n' : Nat} {x : α} {e : ε}

theorem outcomeAt_eq_ok : outcomeAt s n = .ok x ↔ s.result n = .ok x := by
  rw [outcomeAt]
  cases s.result n with
  | ok y => simp
  | error e =>
    dsimp only
    refine iff_of_false (fun h ↦ ?_) fun h ↦ nomatch h
    split at h <;> cases h

theorem outcomeAt_eq_fatal : outcomeAt s n = .error (.fatal n' e) ↔
    n' = n ∧ s.result n = .error e ∧ s.isTransient e = false := by
  rw [outcomeAt]
  cases s.result n with
  | ok y => simp
  | error e' =>
    dsimp only
    constructor
    · intro h
      split at h
      · cases h
      · rename_i final
        cases h
        exact ⟨rfl, rfl, Bool.eq_false_iff.mpr final⟩
    · rintro ⟨rfl, same, final⟩
      cases same
      simp [final]

theorem outcomeAt_eq_exhausted : outcomeAt s n = .error (.exhausted n' e) ↔
    n' = n ∧ s.result n = .error e ∧ s.isTransient e = true := by
  rw [outcomeAt]
  cases s.result n with
  | ok y => simp
  | error e' =>
    dsimp only
    constructor
    · intro h
      split at h
      · rename_i transient
        cases h
        exact ⟨rfl, rfl, transient⟩
      · cases h
    · rintro ⟨rfl, same, transient⟩
      cases same
      simp [transient]

theorem attempts?_of_outcomeAt {err : RetryError ε} (h : outcomeAt s n = .error err) :
    err.attempts? = some n := by
  cases err with
  | cancelled =>
    rw [outcomeAt] at h
    split at h
    · cases h
    · split at h <;> cases h
  | fatal n' e => rw [(outcomeAt_eq_fatal.mp h).1]; rfl
  | exhausted n' e => rw [(outcomeAt_eq_exhausted.mp h).1]; rfl

end Outcome

/-- A run that has ended was cancelled between two invocations, or the last invocation decides. -/
theorem Progress.decided (h : Progress s l r) (ended : r.phase = .ended o) :
    o = .error .cancelled ∧ r.begun = r.retries ∧
        (∃ t ∈ l, t.before.fired = true ∧ t.before.phase.isBetween = true ∧
          t.before.retries = r.retries) ∨
      o = outcomeAt s (r.retries + 1) ∧ r.begun = r.retries + 1 ∧
        (FailsTransiently s (r.retries + 1) → r.retries = s.policy.maxAttempts) ∧
          ¬∃ i, FiredBefore l i := by
  have verdict := h.verdict o ended
  -- A run that was seen to be cancelled has ended so.
  have unseen (answered : o ≠ .error .cancelled) : ¬∃ i, FiredBefore l i := by
    rintro ⟨i, t, ht, fired, between, -⟩
    rcases (h.stopped t ht fired between).2 with ⟨-, between⟩ | cancelled
    · rw [ended] at between
      cases between
    · exact answered (Phase.ended.inj (ended.symm.trans cancelled))
  cases o with
  | ok x =>
    have result : s.result (r.retries + 1) = .ok x := verdict
    refine .inr ⟨by rw [outcomeAt, result], by rw [begun, ended], ?_, unseen fun h ↦ (nomatch h)⟩
    rintro ⟨e, failed, -⟩
    rw [result] at failed
    cases failed
  | error err =>
    cases err with
    | cancelled => exact .inl ⟨rfl, by rw [begun, ended], verdict⟩
    | fatal n e =>
      obtain ⟨rfl, result, final⟩ := verdict
      refine .inr
        ⟨by simp [outcomeAt, result, final], by rw [begun, ended], ?_, unseen fun h ↦ (nomatch h)⟩
      rintro ⟨e', failed, transient⟩
      obtain rfl : e = e' := Except.error.inj (result.symm.trans failed)
      rw [final] at transient
      cases transient
    | exhausted n e =>
      obtain ⟨rfl, result, transient, used⟩ := verdict
      exact .inr ⟨by simp [outcomeAt, result, transient], by rw [begun, ended], fun _ ↦ used,
        unseen fun h ↦ (nomatch h)⟩

/-- Only the last invocation can have another result than a transient error. -/
theorem Progress.eq_last (h : Progress s l r) {i : Nat} (mem : i ∈ r.calls)
    (answers : ¬FailsTransiently s i) : i = r.retries + 1 := by
  obtain ⟨first, within⟩ := (h.mem_calls i).mp mem
  have later : ¬i ≤ r.retries := fun early ↦ answers (h.earlier first early)
  have := (begun_le r).2
  omega

/-- If the last invocation has begun, it decides. -/
theorem Progress.eq_outcomeAt (h : Progress s l r) (ended : r.phase = .ended o) {i : Nat}
    (mem : i ∈ r.calls) (last : i = r.retries + 1) : o = outcomeAt s i := by
  rcases h.decided ended with ⟨-, begun, -⟩ | ⟨outcome, -⟩
  · have within := ((h.mem_calls i).mp mem).2
    omega
  · rw [outcome, last]

/-- Which invocations there are. -/
theorem Progress.mem_calls_iff (h : Progress s l r) (ended : r.phase = .ended o) (i : Nat) :
    i ∈ r.calls ↔ 1 ≤ i ∧ i ≤ s.policy.maxAttempts + 1 ∧
      (∀ j, 1 ≤ j → j < i → FailsTransiently s j) ∧ ¬FiredBefore l i := by
  have budget := h.budget
  have at_most := (begun_le r).2
  constructor
  · intro mem
    obtain ⟨first, within⟩ := (h.mem_calls i).mp mem
    refine ⟨first, by omega, fun j one early ↦ h.earlier one (by omega), ?_⟩
    rintro ⟨t, ht, fired, between, before⟩
    rcases h.decided ended with ⟨-, begun, -⟩ | ⟨-, -, -, unseen⟩
    · have same := (h.stopped t ht fired between).1
      omega
    · exact unseen ⟨i, t, ht, fired, between, before⟩
  · rintro ⟨first, bound, earlier, unfired⟩
    refine (h.mem_calls i).mpr ⟨first, Nat.le_of_not_lt fun beyond ↦ ?_⟩
    rcases h.decided ended with ⟨-, begun, t, ht, fired, between, same⟩ | ⟨-, begun, used, -⟩
    · exact unfired ⟨t, ht, fired, between, by omega⟩
    · have used := used (earlier (r.retries + 1) (by omega) (by omega))
      omega

theorem Progress.ok_iff (h : Progress s l r) (ended : r.phase = .ended o) (x : α) :
    o = .ok x ↔ ∃ i ∈ r.calls, s.result i = .ok x := by
  constructor
  · rintro rfl
    rcases h.decided ended with ⟨cancelled, -⟩ | ⟨outcome, begun, -⟩
    · cases cancelled
    · exact ⟨r.retries + 1, (h.mem_calls _).mpr (by omega), outcomeAt_eq_ok.mp outcome.symm⟩
  · rintro ⟨i, mem, result⟩
    have last := h.eq_last mem fun ⟨e, failed, _⟩ ↦ by rw [result] at failed; cases failed
    exact (h.eq_outcomeAt ended mem last).trans (outcomeAt_eq_ok.mpr result)

theorem Progress.fatal_iff (h : Progress s l r) (ended : r.phase = .ended o) (n : Nat) (e : ε) :
    o = .error (.fatal n e) ↔ n ∈ r.calls ∧ s.result n = .error e ∧ s.isTransient e = false := by
  constructor
  · rintro rfl
    rcases h.decided ended with ⟨cancelled, -⟩ | ⟨outcome, begun, -⟩
    · cases cancelled
    · obtain ⟨rfl, result, final⟩ := outcomeAt_eq_fatal.mp outcome.symm
      exact ⟨(h.mem_calls _).mpr (by omega), result, final⟩
  · rintro ⟨mem, result, final⟩
    have last := h.eq_last mem fun ⟨e', failed, transient⟩ ↦ by
      obtain rfl : e = e' := Except.error.inj (result.symm.trans failed)
      rw [final] at transient
      cases transient
    exact (h.eq_outcomeAt ended mem last).trans (outcomeAt_eq_fatal.mpr ⟨rfl, result, final⟩)

theorem Progress.exhausted_iff (h : Progress s l r) (ended : r.phase = .ended o) (n : Nat) (e : ε) :
    o = .error (.exhausted n e) ↔ n = s.policy.maxAttempts + 1 ∧ n ∈ r.calls ∧
      s.result n = .error e ∧ s.isTransient e = true := by
  constructor
  · rintro rfl
    rcases h.decided ended with ⟨cancelled, -⟩ | ⟨outcome, begun, used, -⟩
    · cases cancelled
    · obtain ⟨rfl, result, transient⟩ := outcomeAt_eq_exhausted.mp outcome.symm
      have used := used ⟨e, result, transient⟩
      exact ⟨by omega, (h.mem_calls _).mpr (by omega), result, transient⟩
  · rintro ⟨rfl, mem, result, transient⟩
    have budget := h.budget
    have at_most := (begun_le r).2
    have within := ((h.mem_calls _).mp mem).2
    have last : s.policy.maxAttempts + 1 = r.retries + 1 := by omega
    exact (h.eq_outcomeAt ended mem last).trans
      (outcomeAt_eq_exhausted.mpr ⟨rfl, result, transient⟩)

theorem Progress.cancelled_iff (h : Progress s l r) (ended : r.phase = .ended o) :
    o = .error .cancelled ↔ ∃ i, FiredBefore l i := by
  rcases h.decided ended with ⟨rfl, -, t, ht, fired, between, same⟩ | ⟨rfl, -, -, unseen⟩
  · exact iff_of_true rfl ⟨r.retries + 1, t, ht, fired, between, by omega⟩
  · refine iff_of_false (fun cancelled ↦ ?_) unseen
    have attempts := attempts?_of_outcomeAt cancelled
    cases attempts

/-- A failure tells the number of the invocations. -/
theorem Progress.attempts?_eq (h : Progress s l r) {err : RetryError ε}
    (ended : r.phase = .ended (.error err)) {n : Nat} (attempts : err.attempts? = some n) :
    n = r.calls.length := by
  rcases h.decided ended with ⟨cancelled, -⟩ | ⟨outcome, begun, -⟩
  · cases cancelled
    cases attempts
  · rw [attempts?_of_outcomeAt outcome.symm, Option.some_inj] at attempts
    rw [h.length_calls, begun, attempts]

/-- The callback was told the transient errors within the budget. -/
theorem Progress.mem_notices_iff (h : Progress s l r) (ended : r.phase = .ended o)
    (n : Nat) (e : ε) : (n, e) ∈ r.notices ↔ n ∈ r.calls ∧ n ≤ s.policy.maxAttempts ∧
      s.result n = .error e ∧ s.isTransient e = true := by
  have budget := h.budget
  have begun_le := begun_le r
  rw [h.mem_notices, h.mem_calls]
  constructor
  · rintro ⟨first, early, result⟩
    obtain ⟨e', failed, transient⟩ := h.earlier first early
    obtain rfl : e = e' := Except.error.inj (result.symm.trans failed)
    exact ⟨⟨first, by omega⟩, by omega, result, transient⟩
  · rintro ⟨⟨first, within⟩, bound, result, transient⟩
    refine ⟨first, Nat.le_of_not_lt fun late ↦ ?_, result⟩
    obtain rfl : n = r.retries + 1 := by omega
    rcases h.decided ended with ⟨-, begun, -⟩ | ⟨-, -, used, -⟩
    · omega
    · have used := used ⟨e, result, transient⟩
      omega

/-- How a run ends, told by the script and by when the token fired. -/
structure Ending (s : RetrySetup α ε) (l : List (Passage (RetryRun α ε) Move)) (r : RetryRun α ε)
    (o : Except (RetryError ε) α) : Prop where
  /-- The invocations that there are. -/
  calls : ∀ i, i ∈ r.calls ↔ 1 ≤ i ∧ i ≤ s.policy.maxAttempts + 1 ∧
    (∀ j, 1 ≤ j → j < i → FailsTransiently s j) ∧ ¬FiredBefore l i
  /-- The first success. -/
  ok : ∀ x, o = .ok x ↔ ∃ i ∈ r.calls, s.result i = .ok x
  /-- The first error that is final. -/
  fatal : ∀ n e, o = .error (.fatal n e) ↔
    n ∈ r.calls ∧ s.result n = .error e ∧ s.isTransient e = false
  /-- The error of the last invocation that is allowed. -/
  exhausted : ∀ n e, o = .error (.exhausted n e) ↔ n = s.policy.maxAttempts + 1 ∧ n ∈ r.calls ∧
    s.result n = .error e ∧ s.isTransient e = true
  /-- The token had fired before an invocation or in a delay. -/
  cancelled : o = .error .cancelled ↔ ∃ i, FiredBefore l i
  /-- A failure tells the number of the invocations. -/
  attempts : ∀ err n, o = .error err → err.attempts? = some n → n = r.calls.length
  /-- The callback is told each error that is retried. -/
  notices : ∀ n e, (n, e) ∈ r.notices ↔ n ∈ r.calls ∧ n ≤ s.policy.maxAttempts ∧
    s.result n = .error e ∧ s.isTransient e = true

/-- **The end of a run.** -/
theorem Progress.ending (h : Progress s l r) (ended : r.phase = .ended o) : Ending s l r o where
  calls := h.mem_calls_iff ended
  ok := h.ok_iff ended
  fatal := h.fatal_iff ended
  exhausted := h.exhausted_iff ended
  cancelled := h.cancelled_iff ended
  attempts err n failed attempts := by
    subst failed
    exact h.attempts?_eq ended attempts
  notices := h.mem_notices_iff ended

/-! ## All runs

The statements about what happens at one stretch of a run, which need the state before it and not
the state at the end. -/

/-- An invocation begins when all before have failed, and the callback was told. -/
theorem Progress.begins_of_calls (h : Progress s l r) (e : move s m r = some r')
    (more : r'.calls ≠ r.calls) : r.phase = .deciding ∧ r.notices.length = r.calls.length ∧
      r'.calls = r.calls ++ [r.calls.length + 1] := by
  cases m with
  | step =>
    cases step_stretch e with
    | begins deciding unfired =>
      have between : r.phase.isBetween = true := by rw [deciding]; rfl
      rw [h.length_notices, h.length_calls, begun_of_isBetween between]
      exact ⟨deciding, rfl, rfl⟩
    | _ => exact absurd rfl more
  | elapse ms => cases e; exact absurd rfl more
  | fire => cases e; exact absurd rfl more

/-- The callback is told when an invocation has failed and a delay begins. -/
theorem Progress.tells_of_notices (h : Progress s l r) (e : move s m r = some r')
    (more : r'.notices ≠ r.notices) :
      r.phase.isActing = true ∧
        (∃ e, s.result r.calls.length = .error e ∧
          r'.notices = r.notices ++ [(r.calls.length, e)]) ∧
            r'.backoffs = r.backoffs ++ [s.policy.backoff r.asked r.calls.length] := by
  cases m with
  | step =>
    cases step_stretch e with
    | retries acting err result =>
      rw [h.length_calls, begun_of_isActing acting]
      exact ⟨acting, ⟨err, result, rfl⟩, rfl⟩
    | _ => exact absurd rfl more
  | elapse ms => cases e; exact absurd rfl more
  | fire => cases e; exact absurd rfl more

theorem progress_of_mem (run : Trail (move s) start l r) : ∀ t ∈ l,
    (∃ l', Progress s l' t.before) ∧ move s t.move t.before = some t.after := by
  induction run with
  | start => exact fun _ h ↦ nomatch h
  | move run m e ih =>
    exact List.forall_mem_append.mpr
      ⟨ih, List.forall_mem_singleton.mpr ⟨⟨_, progress_of_trail run⟩, e⟩⟩

/-- What a retry run does. -/
structure Specified (s : RetrySetup α ε) (l : List (Passage (RetryRun α ε) Move))
    (r : RetryRun α ε) : Prop where
  /-- The action is invoked with 1, 2, 3, … -/
  numbers : r.calls = List.range' 1 r.calls.length
  /-- No invocation begins before the one before it has failed and the callback was told. -/
  oneByOne : ∀ t ∈ l, t.after.calls ≠ t.before.calls → t.before.phase = .deciding ∧
    t.before.notices.length = t.before.calls.length ∧
      t.after.calls = t.before.calls ++ [t.before.calls.length + 1]
  /-- The callback is told the number and the error of the invocation that has just failed, and then
  a delay begins. -/
  notified : ∀ t ∈ l, t.after.notices ≠ t.before.notices → t.before.phase.isActing = true ∧
    (∃ e, s.result t.before.calls.length = .error e ∧
      t.after.notices = t.before.notices ++ [(t.before.calls.length, e)]) ∧
        t.after.backoffs =
          t.before.backoffs ++ [s.policy.backoff t.before.asked t.before.calls.length]
  /-- There is one delay for each call of the callback. -/
  backoffs : r.backoffs = s.policy.delays r.notices.length
  ending : ∀ o, r.outcome? = some o → Ending s l r o
  /-- A run that has not ended goes on when enough time has passed, -/
  goesOn : r.outcome? = none →
    ∃ ms r', ({ r with now := r.now + ms } : RetryRun α ε).step s = some r'
  /-- and not for ever. -/
  bounded : steps l ≤ 3 * s.policy.maxAttempts + 2

/-- A run does not have more stretches than its budget allows. -/
theorem Progress.steps_le (h : Progress s l r) : steps l ≤ 3 * s.policy.maxAttempts + 2 := by
  have budget := h.budget
  have stretches := h.stretches
  rw [Stretches] at stretches
  split at stretches <;> omega

/-- **Retry runs, specified**: for every policy, script, classifier, jitter source and callback,
whenever the token fires and however long everything takes. -/
theorem run_specified (run : Trail (move s) start l r) : Specified s l r := by
  have progress := progress_of_trail run
  have moves := progress_of_mem run
  exact
    { numbers := by rw [progress.length_calls]; exact progress.calls
      oneByOne := fun t ht more ↦ by
        obtain ⟨⟨_, before⟩, e⟩ := moves t ht
        exact before.begins_of_calls e more
      notified := fun t ht more ↦ by
        obtain ⟨⟨_, before⟩, e⟩ := moves t ht
        exact before.tells_of_notices e more
      backoffs := by rw [progress.length_notices]; exact progress.backoffs
      ending := fun o outcome ↦ by
        refine progress.ending ?_
        rw [outcome?] at outcome
        split at outcome
        · rename_i ended
          rw [ended, Option.some.inj outcome]
        · cases outcome
      goesOn := exists_step
      bounded := progress.steps_le }

end Progress

/-- An action that is busy twice before it succeeds, and a callback that crashes the first time. -/
def busyTwice : RetrySetup Nat String where
  policy := ⟨5, .ofMillis 10, .ofMillis 100, fun _ window ↦ window⟩
  isTransient e := e = "busy"
  result n := if n < 3 then .error "busy" else .ok n
  actionMs _ := 0
  actionCancels _ := false
  callback n _ := if n = 1 then .crashed else .returned
  callbackCancels _ := false

/-- The token fires in the second delay. -/
theorem run_specified_cancelled : ∃ (l : List (Passage (RetryRun Nat String) Move))
    (r : RetryRun Nat String), Trail (move busyTwice) start l r ∧
      r.outcome? = some (.error .cancelled) ∧ r.calls = [1, 2] ∧
      r.notices = [(1, "busy"), (2, "busy")] ∧ Specified busyTwice l r := by
  have run : Trail (move busyTwice) start _ _ :=
    Trail.of_follow [.step, .step, .elapse 20, .step, .step, .step, .elapse 5, .fire, .step] rfl
  exact ⟨_, _, run, rfl, rfl, rfl, run_specified run⟩

end RetryRun

end MetricsAgent
