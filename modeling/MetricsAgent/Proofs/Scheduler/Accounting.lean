import Mathlib.Data.List.Induction
import MetricsAgent.Proofs.Counter
import MetricsAgent.Proofs.Scheduler.Invariant

/-!
# The accounts of a cycle

What a run adds to a counter on behalf of a cycle is added by the turns of the cycle and of its
invocations (`Scheduler.credit`).  For the counters of collections that is what the ends of its
invocations weigh, and for the counters of cycles it is one for the counter that belongs to its
result, and nothing for the others (`Scheduler.Credited`).

With the report of a cycle this gives `Scheduler.cycle_accounts`:

* every collector of the registry is in just one figure of the report,
* the measurements are the batches of the collectors that have succeeded, in the order in which they
  ended,
* the counters have grown by these figures on behalf of the cycle,
* the cycle was counted once, by the counter that belongs to its outcome.

Several cycles may add to the same counters in one run, which is why the statement is about the
share of one cycle and not about the counters themselves.  A move is made on behalf of one cycle at
most (`Scheduler.owner?`), and the share of a cycle is the sum over its moves of what each of them
changes.

The counters are machine words, and the sums are sums of words.
-/

set_option autoImplicit false

namespace MetricsAgent

namespace Scheduler

/-! ## The figures of a report

Every counter of collections has a figure in a report, and a weight for each end.  The report of a
list of ends has as its figures the sums of the weights. -/

/-- The batch of an invocation that has collected. -/
def batch? : Target × InvocationEnd → Option (List Measurement)
  | (_, .collected batch) => some batch
  | _ => none

namespace CollectCounter

/-- What ended invocations add to a counter. -/
def total (k : CollectCounter) : List (Target × InvocationEnd) → Nat
  | [] => 0
  | a :: l => k.weight a.2 + k.total l

theorem total_append (k : CollectCounter) (l l' : List (Target × InvocationEnd)) :
    k.total (l ++ l') = k.total l + k.total l' := by
  induction l with
  | nil => exact (Nat.zero_add _).symm
  | cons a l ih => rw [List.cons_append, total, ih, total, Nat.add_assoc]

theorem total_singleton (k : CollectCounter) (a : Target × InvocationEnd) :
    k.total [a] = k.weight a.2 := Nat.add_zero _

/-- Ends that all weigh the same. -/
theorem total_eq_mul (k : CollectCounter) (n : Nat) {l : List (Target × InvocationEnd)}
    (h : ∀ a ∈ l, k.weight a.2 = n) : k.total l = n * l.length := by
  induction l with
  | nil => rfl
  | cons a l ih =>
    rw [total, h a (List.mem_cons_self ..), ih fun b hb ↦ h b (List.mem_cons_of_mem a hb),
      List.length_cons, Nat.mul_succ, Nat.add_comm]

/-- What a counter should have grown by, going by the report of a cycle. -/
def figure (r : CycleReport) : CollectCounter → Nat
  | ok => r.succeeded
  | error => r.failed + r.timedOut
  | cancelled => r.cancelled
  | timeouts => r.timedOut
  | timed => r.succeeded + r.failed + r.timedOut + r.cancelled

/-- The end of an invocation changes a figure by its weight. -/
theorem figure_record (k : CollectCounter) (r : CycleReport) {e : InvocationEnd}
    (regular : e.isRegular = true) : k.figure (r.record e) = k.figure r + k.weight e := by
  cases e with
  | fatal _ => cases regular
  | aborted => cases regular
  | _ => cases k <;> simp only [figure, CycleReport.record, weight] <;> omega

end CollectCounter

/-- Every counter has a figure in the report of regular ends. -/
theorem figure_reportOf (k : CollectCounter) {l : List (Target × InvocationEnd)}
    (regular : ∀ a ∈ l, a.2.isRegular = true) : k.figure (reportOf l) = k.total l := by
  induction l using List.reverseRecOn with
  | nil => cases k <;> rfl
  | append_singleton l a ih =>
    have before := ih fun b hb ↦ regular b (List.mem_append_left _ hb)
    have last := regular a (List.mem_append_right _ (List.mem_singleton_self a))
    rw [reportOf_append, k.figure_record _ last, k.total_append, k.total_singleton, before]

/-- Each regular end has a place in the report. -/
theorem timed_total {l : List (Target × InvocationEnd)} (regular : ∀ a ∈ l, a.2.isRegular = true) :
    CollectCounter.timed.total l = l.length := by
  refine (CollectCounter.total_eq_mul .timed 1 fun ⟨t, e⟩ ha ↦ ?_).trans (Nat.one_mul _)
  have regular := regular (t, e) ha
  cases e with
  | fatal _ => cases regular
  | aborted => cases regular
  | _ => rfl

/-- Without a cancelled end, the report counts none. -/
theorem cancelled_reportOf {l : List (Target × InvocationEnd)}
    (regular : ∀ a ∈ l, a.2.isRegular = true) (none_cancelled : ∀ a ∈ l, a.2 ≠ .cancelled) :
    (reportOf l).cancelled = 0 := by
  refine (figure_reportOf .cancelled regular).trans ?_
  refine (CollectCounter.total_eq_mul .cancelled 0 fun ⟨t, e⟩ ha ↦ ?_).trans (Nat.zero_mul _)
  cases e with
  | cancelled => exact absurd rfl (none_cancelled _ ha)
  | _ => rfl

/-- The report holds the batches in the order in which they came, and their number. -/
theorem batches_reportOf (l : List (Target × InvocationEnd)) :
    (reportOf l).measurements = (l.filterMap batch?).flatten ∧
      (reportOf l).succeeded = (l.filterMap batch?).length := by
  induction l using List.reverseRecOn with
  | nil => exact ⟨rfl, rfl⟩
  | append_singleton l a ih =>
    obtain ⟨measurements, succeeded⟩ := ih
    obtain ⟨t, e⟩ := a
    rw [reportOf_append]
    cases e with
    | collected batch => simp [CycleReport.record, batch?, measurements, succeeded]
    | _ => simp [CycleReport.record, batch?, measurements, succeeded]

/-! ## The counter of a result

A cycle is counted in the turn in which it ends, and by one counter. -/

/-- The counter for cycles with a result. -/
def CycleCounter.of : Except CycleError CycleReport → CycleCounter
  | .ok r => if r.isCancelled then .cancelled else .ok
  | .error _ => .failed

/-- The counter that has counted a cycle. -/
def CyclePhase.counter? : CyclePhase → Option CycleCounter
  | ended r => some (.of r)
  | _ => none

theorem CyclePhase.counter?_of_not_over {φ : CyclePhase} (h : φ.isOver = false) :
    φ.counter? = none := by
  cases φ with
  | ended => cases h
  | _ => rfl

section Turns

variable {s : SchedulerSetup} {w w' : Scheduler} {c c' : Cycle}

/-- A cycle that is over has no turns. -/
theorem counter?_of_stepCycle (h : w.stepCycle s c = some w') : c.phase.counter? = none := by
  cases phase : c.phase with
  | ended r => simp [stepCycle, phase] at h
  | _ => rfl

/-- A turn of a cycle changes the counters of collections only to enter an aborted invocation. -/
theorem Advance.collect (e : Advance s w c w' c') (unharmed : ∀ a ∈ c.arrived, a.2 ≠ .aborted)
    (k : CollectCounter) : k.read w'.metrics = k.read w.metrics := by
  cases e with
  | passes _ _ _ _ _ _ _ metrics => rw [metrics]
  | skips _ _ _ _ _ _ _ _ _ _ _ metrics => rw [metrics]
  | spawns _ _ _ _ _ _ _ _ _ _ _ metrics => rw [metrics]
  | enters _ t end_ arrived first _ _ _ _ _ _ _ metrics =>
    rw [metrics (unharmed (t, end_) (by rw [first]; exact List.mem_cons_self ..))]
  | fails _ _ _ _ _ _ _ _ _ metrics => rw [metrics]
  | endsEarly _ _ _ _ _ _ counts => exact counts.collect k
  | endsCancelled _ _ _ counts => exact counts.collect k
  | endsCompleted _ _ _ _ counts => exact counts.collect k
  | errs _ _ _ _ counts => exact counts.collect k

/-- A turn of a cycle counts the cycle when it ends it. -/
theorem Advance.count (e : Advance s w c w' c')
    (completed : c.phase = .visiting [] → c.report.outcome = .completed) (k : CycleCounter) :
    k.read w'.metrics = k.read w.metrics + if c'.phase.counter? = some k then 1 else 0 := by
  have goes_on {φ : CyclePhase} (unended : φ.isOver = false)
      (same : k.read w'.metrics = k.read w.metrics) :
      k.read w'.metrics = k.read w.metrics + if φ.counter? = some k then 1 else 0 := by
    rw [CyclePhase.counter?_of_not_over unended, if_neg (by simp), same, UInt64.add_zero]
  have ends_with {j : CycleCounter} {r : Except CycleError CycleReport} (counter : .of r = j)
      (counts : Counts j w.metrics w'.metrics) :
      k.read w'.metrics = k.read w.metrics +
        if (CyclePhase.ended r).counter? = some k then 1 else 0 := by
    rw [counts.cycle, CyclePhase.counter?, counter]
    simp only [Option.some_inj, eq_comm]
  cases e with
  | passes _ _ _ _ unended _ _ metrics => exact goes_on unended (by rw [metrics])
  | skips _ _ _ _ _ _ _ unended _ _ _ metrics => exact goes_on unended (by rw [metrics])
  | spawns _ _ _ _ _ _ _ _ unended _ _ metrics => exact goes_on unended (by rw [metrics])
  | enters _ _ _ _ _ _ _ _ _ unended _ _ _ cycleCounters => exact goes_on unended (cycleCounters k)
  | fails _ _ _ _ _ _ unended _ _ metrics => exact goes_on unended (by rw [metrics])
  | endsEarly r before report fired invocations next counts =>
    exact ends_with (by rw [report]; rfl) counts
  | endsCancelled _ _ _ counts => exact ends_with rfl counts
  | endsCompleted before _ _ _ counts =>
    exact ends_with (by simp [CycleCounter.of, CycleReport.isCancelled, completed before]) counts
  | errs _ _ _ _ counts => exact ends_with rfl counts

end Turns

/-! ## What is added on behalf of a cycle

A move that is not made on behalf of a cycle changes neither its ends nor its share. -/

/-- The cycle on whose behalf a move is made. -/
def owner? (w : Scheduler) : Move → Option Nat
  | .turn (.cycle id) => some id
  | .turn (.invocation id) => (w.invocations.find? (·.id = id)).map (·.cycle)
  | _ => none

/-- What a move adds to a counter on behalf of a cycle. -/
def share (id : Nat) (read : SelfMetrics → UInt64) (t : Passage Scheduler Move) : UInt64 :=
  if t.before.owner? t.move = some id then read t.after.metrics - read t.before.metrics else 0

/-- What a run adds to a counter on behalf of a cycle. -/
def credit (id : Nat) (read : SelfMetrics → UInt64) (l : List (Passage Scheduler Move)) : UInt64 :=
  l.foldl (fun n t ↦ n + share id read t) 0

theorem credit_append (id : Nat) (read : SelfMetrics → UInt64) (l : List (Passage Scheduler Move))
    (t : Passage Scheduler Move) :
    credit id read (l ++ [t]) = credit id read l + share id read t := by
  rw [credit, List.foldl_append]
  rfl

theorem share_of_ne {w w' : Scheduler} {m : Move} {id : Nat} (other : w.owner? m ≠ some id)
    (read : SelfMetrics → UInt64) : share id read ⟨w, m, w'⟩ = 0 := if_neg other

theorem share_of_eq {w w' : Scheduler} {m : Move} {id : Nat} (own : w.owner? m = some id)
    {read : SelfMetrics → UInt64} {d : UInt64} (h : read w'.metrics = read w.metrics + d) :
    share id read ⟨w, m, w'⟩ = d := by
  rw [share, if_pos own, h, Counter.add_sub_self]

section Moves

variable {s : SchedulerSetup} {w w' : Scheduler} {m : Move}

/-- Moves are made on behalf of cycles that have a number. -/
theorem owner?_lt (h : Numbered w) (e : move s m w = some w') {id : Nat}
    (own : w.owner? m = some id) : id < w.next := by
  cases m with
  | turn t =>
    cases t with
    | cycle n =>
      cases own
      obtain ⟨c, -, hc, -⟩ := step_cycle e
      exact h.lt_of_cycle? hc
    | invocation n =>
      obtain ⟨i, hi, rfl⟩ := Option.map_eq_some_iff.mp own
      exact h.lt_of_mem (List.mem_of_find?_eq_some hi)
  | _ => cases own

/-- Numbers that were given out stay so. -/
theorem next_le_move (e : move s m w = some w') : w.next ≤ w'.next := by
  cases m with
  | call token => cases e; exact Nat.le_succ _
  | cancel token => cases e; exact Nat.le_refl _
  | elapse ms => cases e; exact Nat.le_refl _
  | drop id => cases e; exact Nat.le_of_eq (drop_drops w id).next.symm
  | turn t =>
    cases t with
    | cycle id =>
      obtain ⟨c, c', -, -, -, advance, -⟩ := step_cycle e
      rcases advance.invocations with ⟨_, -, -, next⟩ | ⟨_, -, -, -, -, next⟩ <;> omega
    | invocation id =>
      obtain ⟨i, -, hstep⟩ := Option.bind_eq_some_iff.mp e
      rcases stepInvocation_cases hstep with begins | ⟨_, leaves⟩
      · exact Nat.le_of_eq begins.next.symm
      · exact Nat.le_of_eq leaves.next.symm

/-- **A move on behalf of another cycle** ends no invocation of a cycle, and leaves it as it is,
unless the move is the call for it. -/
theorem apart_of_ne (h : Numbered w) (e : move s m w = some w') {id : Nat}
    (other : w.owner? m ≠ some id) : w'.ends id = w.ends id ∧
      ∀ c, w'.cycle? id = some c → w.cycle? id = some c ∨ id = w.next ∧ c.phase = .arriving := by
  cases m with
  | call token =>
    cases e
    refine ⟨rfl, fun c hc ↦ ?_⟩
    rw [h.cycle?_call] at hc
    split at hc
    · rename_i new
      cases hc
      exact .inr ⟨new, rfl⟩
    · exact .inl hc
  | cancel token => cases e; exact ⟨rfl, fun c hc ↦ .inl hc⟩
  | elapse ms => cases e; exact ⟨rfl, fun c hc ↦ .inl hc⟩
  | drop n =>
    cases e
    refine ⟨(drop_drops w n).ends id, fun c hc ↦ ?_⟩
    rw [(drop_drops w n).cycle?] at hc
    split at hc
    · cases hc
    · exact .inl hc
  | turn t =>
    cases t with
    | cycle n =>
      obtain ⟨c, c', hc, rfl, -, advance, frame⟩ := step_cycle e
      have hid : id ≠ c'.id := fun hid ↦ other (by rw [hid, advance.id_eq]; rfl)
      exact ⟨frame.ends id, fun d hd ↦ .inl ((frame.cycle?_of_ne hid).symm.trans hd)⟩
    | invocation n =>
      obtain ⟨i, hi, hstep⟩ := Option.bind_eq_some_iff.mp e
      have hid : i.cycle ≠ id := fun hid ↦ other (by rw [owner?, hi, ← hid]; rfl)
      rcases stepInvocation_cases hstep with begins | ⟨end_, leaves⟩
      · exact ⟨begins.ends id, fun d hd ↦ .inl (by rw [← hd, cycle?, cycle?, begins.cycles])⟩
      · refine ⟨by rw [leaves.ends, if_neg hid]; exact List.append_nil _, fun d hd ↦ .inl ?_⟩
        rw [leaves.cycle?, Option.map_eq_some_iff] at hd
        obtain ⟨c, hc, rfl⟩ := hd
        have hne : ¬c.id = i.cycle := fun same ↦ hid (same.symm.trans (Keyed.key_of_find? hc))
        rw [if_neg hne]
        exact hc

/-- **A move on behalf of a cycle** adds to the counters of collections what the end weighs that it
brings about, as long as no end is due to another. -/
theorem collect_of_owner (h : Invariant s w) (e : move s m w = some w') {id : Nat}
    (own : w.owner? m = some id) : ∃ new, w'.ends id = w.ends id ++ new ∧
      ((∀ a ∈ w'.ends id, a.2 ≠ .aborted) → ∀ k : CollectCounter,
        share id k.read ⟨w, m, w'⟩ = (k.total new).toUInt64) := by
  cases m with
  | turn t =>
    cases t with
    | cycle n =>
      cases own
      obtain ⟨c, c', hc, rfl, -, advance, frame⟩ := step_cycle e
      refine ⟨[], (frame.ends c.id).trans (List.append_nil _).symm, fun unharmed k ↦ ?_⟩
      have heard := (h.cycles c.id c hc).heard
      rw [frame.ends] at unharmed
      refine share_of_eq rfl ?_
      rw [advance.collect fun a ha ↦ unharmed a (heard a ha)]
      exact (UInt64.add_zero _).symm
    | invocation n =>
      obtain ⟨i, hi, rfl⟩ := Option.map_eq_some_iff.mp own
      obtain ⟨j, hj, hstep⟩ := Option.bind_eq_some_iff.mp e
      obtain rfl : i = j := Option.some.inj (hi.symm.trans hj)
      rcases stepInvocation_cases hstep with begins | ⟨end_, leaves⟩
      · refine ⟨[], (begins.ends _).trans (List.append_nil _).symm, fun _ k ↦ share_of_eq own ?_⟩
        rw [begins.metrics]
        exact (UInt64.add_zero _).symm
      · refine ⟨[(i.target, end_)], by rw [leaves.ends, if_pos rfl], fun _ k ↦ share_of_eq own ?_⟩
        rw [k.total_singleton]
        exact leaves.charges.collect k
  | _ => cases own

/-- A turn of a cycle adds to the counters of cycles one if it ends the cycle, and otherwise
nothing. -/
theorem Invariant.count_of_advance (h : Invariant s w) {c c' : Cycle}
    (there : w.cycle? c.id = some c) (advance : Advance s w c w' c') (k : CycleCounter) :
    k.read w'.metrics = k.read w.metrics + if c'.phase.counter? = some k then 1 else 0 := by
  refine advance.count (fun last ↦ ?_) k
  obtain ⟨_, -, -, report⟩ := ((h.cycles c.id c there).going [] (by rw [last]; rfl)).entered
  rw [report]
  exact reportOf_outcome _

/-- **A move on behalf of a cycle** adds to the counters of cycles one if it ends the cycle, and
otherwise nothing. -/
theorem count_of_owner (h : Invariant s w) (e : move s m w = some w') {id : Nat}
    (own : w.owner? m = some id) {c' : Cycle} (hc' : w'.cycle? id = some c') :
    ∃ c, w.cycle? id = some c ∧
      ((∀ k : CycleCounter, share id k.read ⟨w, m, w'⟩ = 0) ∧ c'.phase.counter? = c.phase.counter? ∨
        c.phase.counter? = none ∧ ∀ k : CycleCounter,
          share id k.read ⟨w, m, w'⟩ = if c'.phase.counter? = some k then 1 else 0) := by
  cases m with
  | turn t =>
    cases t with
    | cycle n =>
      cases own
      obtain ⟨c, d, hc, rfl, hstep, advance, frame⟩ := step_cycle e
      have self : w'.cycle? c.id = some d := by
        rw [← advance.id_eq]
        exact frame.cycle?_self (by rw [advance.id_eq]; exact hc)
      obtain rfl : d = c' := Option.some.inj (self.symm.trans hc')
      refine ⟨c, hc, .inr ⟨counter?_of_stepCycle hstep, fun k ↦ share_of_eq rfl ?_⟩⟩
      exact h.count_of_advance hc advance k
    | invocation n =>
      obtain ⟨i, hi, rfl⟩ := Option.map_eq_some_iff.mp own
      obtain ⟨j, hj, hstep⟩ := Option.bind_eq_some_iff.mp e
      obtain rfl : i = j := Option.some.inj (hi.symm.trans hj)
      rcases stepInvocation_cases hstep with begins | ⟨end_, leaves⟩
      · refine ⟨c', by rw [← hc', cycle?, cycle?, begins.cycles],
          .inl ⟨fun k ↦ share_of_eq own ?_, rfl⟩⟩
        rw [begins.metrics, UInt64.add_zero]
      · rw [leaves.cycle?, Option.map_eq_some_iff] at hc'
        obtain ⟨c, hc, rfl⟩ := hc'
        refine ⟨c, hc, .inl ⟨fun k ↦ share_of_eq own ?_, by split <;> rfl⟩⟩
        rw [leaves.charges.cycle, UInt64.add_zero]
  | _ => cases own

end Moves

/-- What the tasks of each cycle have added to the counters in a run. -/
structure Credited (w : Scheduler) (l : List (Passage Scheduler Move)) : Prop where
  /-- Nothing is added on behalf of a number that was not given out. -/
  fresh : ∀ id, w.next ≤ id → ∀ read, credit id read l = 0
  collect : ∀ id, (∀ a ∈ w.ends id, a.2 ≠ .aborted) → ∀ k : CollectCounter,
    credit id k.read l = (k.total (w.ends id)).toUInt64
  cycle : ∀ id c, w.cycle? id = some c → ∀ k : CycleCounter,
    credit id k.read l = if c.phase.counter? = some k then 1 else 0

section Runs

variable {s : SchedulerSetup} {metrics : SelfMetrics} {l : List (Passage Scheduler Move)}
  {w : Scheduler}

theorem invariant_of_trail (h : Trail (move s) (start s metrics) l w) : Invariant s w :=
  h.invariant (invariant_start s metrics) fun m hw e ↦ hw.move m e

theorem Credited.move {w' : Scheduler} {m : Move} (h : Credited w l) (inv : Invariant s w)
    (e : Scheduler.move s m w = some w') : Credited w' (l ++ [⟨w, m, w'⟩]) where
  fresh id hid read := by
    have hid : w.next ≤ id := Nat.le_trans (next_le_move e) hid
    have other : w.owner? m ≠ some id := fun own ↦
      absurd (owner?_lt inv.numbered e own) (Nat.not_lt.mpr hid)
    rw [credit_append, h.fresh id hid, share_of_ne other, UInt64.add_zero]
  collect id unharmed k := by
    rw [credit_append]
    by_cases own : w.owner? m = some id
    · obtain ⟨new, hends, hshare⟩ := collect_of_owner inv e own
      rw [hshare unharmed]
      rw [hends] at unharmed ⊢
      rw [h.collect id fun a ha ↦ unharmed a (List.mem_append_left _ ha), k.total_append,
        Counter.toUInt64_add]
    · obtain ⟨hends, -⟩ := apart_of_ne inv.numbered e own
      rw [hends] at unharmed ⊢
      rw [share_of_ne own, h.collect id unharmed, UInt64.add_zero]
  cycle id c' hc' k := by
    rw [credit_append]
    by_cases own : w.owner? m = some id
    · obtain ⟨c, hc, ⟨hshare, same⟩ | ⟨before, hshare⟩⟩ := count_of_owner inv e own hc'
      · rw [hshare, h.cycle id c hc, same, UInt64.add_zero]
      · rw [hshare, h.cycle id c hc, before, if_neg (by simp), UInt64.zero_add]
    · rw [share_of_ne own, UInt64.add_zero]
      rcases (apart_of_ne inv.numbered e own).2 c' hc' with hc | ⟨rfl, arriving⟩
      · exact h.cycle id c' hc k
      · rw [h.fresh _ (Nat.le_refl _), arriving]
        rfl

theorem credited_of_trail (h : Trail (move s) (start s metrics) l w) : Credited w l := by
  induction h with
  | start => exact ⟨fun _ _ _ ↦ rfl, fun _ _ _ ↦ rfl, fun _ _ hc ↦ (nomatch hc)⟩
  | move h m e ih => exact ih.move (invariant_of_trail h) e

end Runs

/-! ## Cycles that have returned

A cycle that has returned a report has no aborted invocation, so all of its ends were counted when
they happened. -/

/-- The report of a cycle accounts for the collectors of the registry, whose ends are `ends` in the
order of completion, and for what was added on behalf of the cycle. -/
structure Accounts (s : SchedulerSetup) (r : CycleReport) (ends : List (Target × InvocationEnd))
    (credit : (SelfMetrics → UInt64) → UInt64) : Prop where
  /-- The five figures cover the registry. -/
  collectors :
    r.succeeded + r.failed + r.timedOut + r.cancelled + r.skipped = s.registry.collectorCount
  /-- Every collector has ended once or was skipped. -/
  targets : ∃ skipped : List Target, skipped.length = r.skipped ∧
    (ends.map Prod.fst ++ skipped).Perm s.registry.targets
  /-- The figures are the numbers of the ends of each kind. -/
  figures : ∀ k : CollectCounter, k.figure r = k.total ends
  /-- The measurements are the batches of the collectors that have succeeded. -/
  measurements : r.measurements = (ends.filterMap batch?).flatten
  succeeded : r.succeeded = (ends.filterMap batch?).length
  /-- Each batch is what a call of its collector gave. -/
  batches : ∀ a ∈ ends, ∀ batch, batch? a = some batch →
    ∃ n, (a.1.collector.behaviour n).result = .batch batch
  /-- The counters of collections have grown by the figures. -/
  counters : ∀ k : CollectCounter, credit k.read = (k.figure r).toUInt64
  completed : r.outcome = .completed → r.skipped = 0 ∧ r.cancelled = 0

theorem result?_eq_some {w : Scheduler} {id : Nat} {r : Except CycleError CycleReport}
    (h : w.result? id = some r) : ∃ c, w.cycle? id = some c ∧ c.phase = .ended r := by
  obtain ⟨c, hc, h⟩ := Option.bind_eq_some_iff.mp h
  refine ⟨c, hc, ?_⟩
  split at h
  · rename_i phase
    rw [phase, Option.some.inj h]
  · cases h

/-- A cycle that has returned is counted once, by the counter that belongs to its result. -/
theorem Credited.of_result {w : Scheduler} {l : List (Passage Scheduler Move)}
    (h : Credited w l) {id : Nat} {r : Except CycleError CycleReport}
    (returned : w.result? id = some r) (k : CycleCounter) :
    credit id k.read l = if k = .of r then 1 else 0 := by
  obtain ⟨c, hc, phase⟩ := result?_eq_some returned
  rw [h.cycle id c hc, phase, CyclePhase.counter?]
  simp only [Option.some_inj, eq_comm]

/-- The report of ended collectors, with what was skipped, accounts for them. -/
theorem Done.accounts {s : SchedulerSetup} {w : Scheduler} {id : Nat} {r : CycleReport}
    {l : List (Passage Scheduler Move)} (h : Done s r (w.ends id)) (genuine : Genuine w)
    (credited : Credited w l) : Accounts s r (w.ends id) fun read ↦ credit id read l := by
  have figure (k : CollectCounter) : k.figure r = k.total (w.ends id) := by
    rw [← figure_reportOf k h.regular, h.report]
    cases k <;> rfl
  -- A report comes of regular ends only; with no abort among them, it agrees with the counters.
  have unharmed : ∀ a ∈ w.ends id, a.2 ≠ .aborted := by
    intro a ha ab
    have regular := h.regular a ha
    rw [ab] at regular
    cases regular
  obtain ⟨measurements, succeeded⟩ := batches_reportOf (w.ends id)
  obtain ⟨skipped, hskipped, perm⟩ := h.count
  exact
    { collectors := by
        have timed := (figure .timed).trans (timed_total h.regular)
        have length := perm.length_eq
        rw [List.length_append, List.length_map, hskipped, s.registry.length_targets] at length
        rw [← length, ← timed]
        rfl
      targets := ⟨skipped, hskipped, perm⟩
      figures := figure
      measurements := by rw [h.report]; exact measurements
      succeeded := by rw [h.report]; exact succeeded
      batches := by
        rintro ⟨t, e⟩ ha batch hb
        cases e with
        | collected b => exact genuine.ends id _ ha batch (by rw [← Option.some.inj hb])
        | _ => cases hb
      counters := fun k ↦ by rw [credited.collect id unharmed, figure]
      completed := fun ho ↦ by
        obtain ⟨none_skipped, none_cancelled⟩ := h.completed ho
        refine ⟨none_skipped, ?_⟩
        rw [h.report]
        exact cancelled_reportOf h.regular none_cancelled }

/-- **The accounts of a cycle**, for every registry, every configuration and all behaviours of
collectors, whatever the order in which cycles are called for, tasks have their turns, tokens fire
and time passes. Once the cycle has returned it is counted once, by the counter that belongs to its
result, and if it has a report the report accounts for all collectors. -/
theorem cycle_accounts {s : SchedulerSetup} {metrics : SelfMetrics}
    {l : List (Passage Scheduler Move)} {w : Scheduler}
    (run : Trail (move s) (start s metrics) l w) {id : Nat} {r : Except CycleError CycleReport}
    (returned : w.result? id = some r) :
    (∀ k : CycleCounter, credit id k.read l = if k = .of r then 1 else 0) ∧
      ∀ report, r = .ok report → Accounts s report (w.ends id) fun read ↦ credit id read l := by
  have inv := invariant_of_trail run
  have credited := credited_of_trail run
  obtain ⟨c, hc, phase⟩ := result?_eq_some returned
  constructor
  · intro k
    rw [credited.cycle id c hc, phase, CyclePhase.counter?]
    simp only [Option.some_inj, eq_comm]
  · rintro report rfl
    obtain ⟨-, done⟩ := (inv.cycles id c hc).done report phase
    exact done.accounts inv.genuine credited

/-- A module of two collectors that run one after the other, of which each gives one measurement. -/
def twoInTurn : SchedulerSetup where
  registry :=
    ⟨[⟨"host",
      [⟨"cpu", fun _ ↦ ⟨some 0, false, false, .batch [.gauge "load" 1]⟩, 0⟩,
        ⟨"disk", fun _ ↦ ⟨some 0, false, false, .batch [.gauge "used" 2]⟩, 0⟩], none⟩]⟩
  config := ⟨false, 1, none, true⟩

/-- The token fires when the first collector has ended; the second one is skipped. -/
theorem cycle_accounts_skipped :
    ∃ (l : List (Passage Scheduler Move)) (w : Scheduler) (r : CycleReport),
      Trail (move twoInTurn) (start twoInTurn .new) l w ∧ w.result? 0 = some (.ok r) ∧
        (r.succeeded = 1 ∧ r.skipped = 1 ∧ r.outcome = .cancelled) ∧
      (∀ k : CycleCounter, credit 0 k.read l = if k = .cancelled then 1 else 0) ∧
      Accounts twoInTurn r (w.ends 0) fun read ↦ credit 0 read l := by
  have run : Trail (move twoInTurn) (start twoInTurn .new) _ _ :=
    Trail.of_follow
      [.call 7, .turn (.cycle 0), .turn (.cycle 0), .turn (.cycle 0), .turn (.cycle 0),
        .turn (.invocation 1), .turn (.invocation 1), .cancel 7, .turn (.cycle 0), .turn (.cycle 0),
        .turn (.cycle 0), .turn (.cycle 0), .turn (.cycle 0)] rfl
  obtain ⟨counted, accounts⟩ := @cycle_accounts _ _ _ _ run 0 (.ok _) rfl
  exact ⟨_, _, _, run, rfl, ⟨rfl, rfl, rfl⟩, counted, accounts _ rfl⟩

end Scheduler

end MetricsAgent
