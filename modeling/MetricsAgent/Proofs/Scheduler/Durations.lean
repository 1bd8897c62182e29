import MetricsAgent.Proofs.Scheduler.Tally

/-!
# Timed collections

The end of a call is counted and timed at once, in the scope of the call, and so the durations agree
with the counters of outcomes.  The exception is an invocation that was told to stop because another
one has failed: its scope is given up, and when its cycle enters its end it is counted as cancelled,
but it was not timed.

`Scheduler.outcomes_of_move` is what one move adds to either side, and `Scheduler.Timekeeping` what
has come together in a run: by how much the outcomes are ahead of the durations, and on account of
which cycles.

* The difference is the number of ends that were entered late.
* Only a cycle that has failed in parallel mode enters ends late.
* When it has returned, it has entered late all the invocations that were told to stop.

So the two agree in sequential mode, and wherever all cycles return reports.  They do not agree in
general (`Scheduler.not_outcomes_eq_durations`).
-/

set_option autoImplicit false

namespace MetricsAgent

/-- The number of collections that were counted, as collected, failed or cancelled. -/
def SelfMetrics.outcomes (m : SelfMetrics) : UInt64 :=
  m.collectOk + m.collectError + m.collectCancelled

/-- The invocation was told to stop. -/
def InvocationEnd.isAborted : InvocationEnd → Bool
  | .aborted => true
  | _ => false

namespace Scheduler

/-! ## Ends that are entered late

An end is entered in the turn of the cycle in which it is the first one of those that have
arrived. -/

/-- The number of invocations that were told to stop. -/
def aborted (l : List (Target × InvocationEnd)) : Nat := l.countP (·.2.isAborted)

/-- The end that a cycle enters in its turn. -/
def entered? (t : Passage Scheduler Move) : Option InvocationEnd :=
  match t.move with
  | .turn (.cycle id) => (t.before.cycle? id).bind fun c ↦ (t.after.cycle? id).bind fun d ↦
      if d.arrived.length < c.arrived.length then c.arrived.head?.map (·.2) else none
  | _ => none

/-- A cycle enters the end of an invocation that was told to stop. -/
def isLate (t : Passage Scheduler Move) : Bool := (entered? t).any (·.isAborted)

/-- The number of ends of invocations told to stop that were entered. -/
def late (l : List (Passage Scheduler Move)) : Nat := l.countP isLate

/-- Those of them that one cycle has entered. -/
def lateOf (id : Nat) (l : List (Passage Scheduler Move)) : Nat :=
  l.countP fun t ↦ isLate t && t.before.owner? t.move = some id

theorem late_append (l : List (Passage Scheduler Move)) (t : Passage Scheduler Move) :
    late (l ++ [t]) = late l + if isLate t then 1 else 0 := by
  rw [late, List.countP_append, List.countP_singleton, late]

theorem lateOf_append (id : Nat) (l : List (Passage Scheduler Move)) (t : Passage Scheduler Move) :
    lateOf id (l ++ [t]) =
      lateOf id l + if isLate t && t.before.owner? t.move = some id then 1 else 0 := by
  rw [lateOf, List.countP_append, List.countP_singleton, lateOf]

/-- Where another cycle has its turn, or none, nothing is late for the cycle. -/
theorem lateOf_append_of_ne {id : Nat} {t : Passage Scheduler Move}
    (other : t.before.owner? t.move ≠ some id) (l : List (Passage Scheduler Move)) :
    lateOf id (l ++ [t]) = lateOf id l := by
  rw [lateOf_append, decide_eq_false other, Bool.and_false]
  rfl

theorem aborted_append (l l' : List (Target × InvocationEnd)) :
    aborted (l ++ l') = aborted l + aborted l' :=
  List.countP_append

theorem aborted_singleton (a : Target × InvocationEnd) :
    aborted [a] = if a.2.isAborted then 1 else 0 :=
  List.countP_singleton

/-! ## What one move adds

Outcomes are the sum of three counters, each of them a machine word. -/

section Moves

variable {s : SchedulerSetup} {w w' : Scheduler} {m : Move} {l : List (Passage Scheduler Move)}
  {before after : SelfMetrics}

/-- The outcomes of a call that was not aborted are timed. -/
theorem Charges.outcomes {e : InvocationEnd} (h : Charges e before after) :
    ∃ d, after.collectDuration.count = before.collectDuration.count + d ∧
      after.outcomes = before.outcomes + d := by
  have once : CollectCounter.ok.weight e + CollectCounter.error.weight e +
      CollectCounter.cancelled.weight e = CollectCounter.timed.weight e := by
    cases e with
    | fatal err => cases err <;> rfl
    | _ => rfl
  refine ⟨(CollectCounter.timed.weight e).toUInt64, h.collect .timed, ?_⟩
  have ok : after.collectOk = before.collectOk + _ := h.collect .ok
  have error : after.collectError = before.collectError + _ := h.collect .error
  have cancelled : after.collectCancelled = before.collectCancelled + _ := h.collect .cancelled
  rw [SelfMetrics.outcomes, ok, error, cancelled, ← once, Counter.toUInt64_add,
    Counter.toUInt64_add, SelfMetrics.outcomes]
  ac_rfl

/-- **The turn of a cycle** enters the end that arrived first, or leaves what has arrived. -/
theorem enters_of_turn (governed : Governed s w) {id : Nat}
    (e : move s (.turn (.cycle id)) w = some w') :
    ∃ c c', w.cycle? id = some c ∧ w'.cycle? id = some c' ∧ (∀ n, w'.ends n = w.ends n) ∧
      (entered? ⟨w, .turn (.cycle id), w'⟩ = none ∧ c'.arrived = c.arrived ∧
          (∀ k : CollectCounter, k.read w'.metrics = k.read w.metrics) ∨
        ∃ t e, entered? ⟨w, .turn (.cycle id), w'⟩ = some e ∧ c.arrived = (t, e) :: c'.arrived ∧
          ∀ k : CollectCounter, k.read w'.metrics = k.read w.metrics + (k.dues e).toUInt64) := by
  obtain ⟨c, d, there, rfl, step, -, frame⟩ := step_cycle e
  obtain ⟨c', crossing⟩ := stepCycle_crosses (governed.settled c.id c there).suits step
  have later := crossing.cycle?_self there
  refine ⟨c, c', there, later, frame.ends, ?_⟩
  simp only [entered?, there, later, Option.bind_some]
  cases crossing.heard with
  | nothing arrived collect =>
    exact .inl ⟨if_neg (by rw [arrived]; exact Nat.lt_irrefl _), arrived, collect⟩
  | one t e arrived collect =>
    refine .inr ⟨t, e, ?_, arrived, collect⟩
    rw [arrived, if_pos (by rw [List.length_cons]; exact Nat.lt_succ_self _)]
    rfl

/-- What a cycle enters late is counted and not timed. -/
theorem outcomes_of_dues {e : InvocationEnd}
    (h : ∀ k : CollectCounter, k.read after = k.read before + (k.dues e).toUInt64) :
    after.collectDuration.count = before.collectDuration.count ∧
      after.outcomes = before.outcomes + if e.isAborted then 1 else 0 := by
  have ok : after.collectOk = before.collectOk := (h .ok).trans (UInt64.add_zero _)
  have error : after.collectError = before.collectError := (h .error).trans (UInt64.add_zero _)
  have cancelled :
      after.collectCancelled = before.collectCancelled + if e.isAborted then 1 else 0 := by
    refine (h .cancelled).trans (congrArg _ ?_)
    cases e <;> rfl
  refine ⟨(h .timed).trans (UInt64.add_zero _), ?_⟩
  rw [SelfMetrics.outcomes, ok, error, cancelled, ← UInt64.add_assoc, SelfMetrics.outcomes]

/-- **What a move adds to the outcomes it adds to the durations**, but for an end that is entered
late. -/
theorem outcomes_of_move (governed : Governed s w) (e : move s m w = some w') :
    ∃ d, w'.metrics.collectDuration.count = w.metrics.collectDuration.count + d ∧
      w'.metrics.outcomes = w.metrics.outcomes + d + if isLate ⟨w, m, w'⟩ then 1 else 0 := by
  have quiet (same : w'.metrics = w.metrics) (on_time : isLate ⟨w, m, w'⟩ = false) :
      ∃ d, w'.metrics.collectDuration.count = w.metrics.collectDuration.count + d ∧
        w'.metrics.outcomes = w.metrics.outcomes + d + if isLate ⟨w, m, w'⟩ then 1 else 0 :=
    ⟨0, by rw [same, UInt64.add_zero],
      by rw [same, on_time, UInt64.add_zero]; exact (UInt64.add_zero _).symm⟩
  cases m with
  | call token => cases e; exact quiet rfl rfl
  | cancel token => cases e; exact quiet rfl rfl
  | elapse ms => cases e; exact quiet rfl rfl
  | drop id => cases e; exact quiet (drop_drops w id).metrics rfl
  | turn t =>
    cases t with
    | cycle id =>
      obtain ⟨-, -, -, -, -, ⟨nothing, -, same⟩ | ⟨t, end_, enters, -, dues⟩⟩ :=
        enters_of_turn governed e
      · have dues (k : CollectCounter) :
            k.read w'.metrics = k.read w.metrics + (k.dues (.collected [])).toUInt64 := by
          rw [same k]
          cases k <;> exact (UInt64.add_zero _).symm
        obtain ⟨timed, outcomes⟩ := outcomes_of_dues dues
        refine ⟨0, by rw [timed, UInt64.add_zero], ?_⟩
        rw [outcomes, isLate, nothing, UInt64.add_zero]
        rfl
      · obtain ⟨timed, outcomes⟩ := outcomes_of_dues dues
        refine ⟨0, by rw [timed, UInt64.add_zero], ?_⟩
        rw [outcomes, isLate, enters, UInt64.add_zero]
        rfl
    | invocation id =>
      obtain ⟨i, -, step⟩ := Option.bind_eq_some_iff.mp e
      rcases stepInvocation_cases step with begins | ⟨end_, leaves⟩
      · exact quiet begins.metrics rfl
      · obtain ⟨d, timed, outcomes⟩ := leaves.charges.outcomes
        exact ⟨d, timed, outcomes.trans (UInt64.add_zero _).symm⟩

/-- **Only a cycle that has failed in parallel mode is late.** -/
theorem failed_of_isLate (governed : Governed s w) (e : move s m w = some w')
    (late : isLate ⟨w, m, w'⟩ = true) : s.config.parallel = true ∧ ∃ id c n err rest,
      m = .turn (.cycle id) ∧ w.cycle? id = some c ∧ c.phase = .joining n (some err) rest := by
  cases m with
  | turn t =>
    cases t with
    | cycle id =>
      obtain ⟨c, c', there, -, -, ⟨nothing, -⟩ | ⟨t, end_, enters, arrived, -⟩⟩ :=
        enters_of_turn governed e
      · rw [isLate, nothing] at late
        cases late
      · have stopped : end_ = .aborted := by
          rw [isLate, enters] at late
          cases end_ with
          | aborted => rfl
          | _ => cases late
        have settled := governed.settled id c there
        have cycles := governed.inv.cycles id c there
        -- A cycle that goes on has told no invocation to stop.
        have halted (later : List Target) (ahead : c.phase.ahead s = some later) : False :=
          (cycles.going later ahead).unharmed.1 (t, end_) (arrived ▸ List.mem_cons_self ..) stopped
        have uncalm (calm : c.phase.isCalm = true) : False := by
          have heard := (settled.calm calm).2
          rw [arrived] at heard
          cases heard
        have suits := settled.suits
        cases phase : c.phase with
        | joining n failure rest =>
          cases failure with
          | none => rw [phase] at halted; exact (halted _ rfl).elim
          | some err =>
            rw [phase] at suits
            exact ⟨suits, id, c, n, err, rest, rfl, there, phase⟩
        | spawning | awaiting => rw [phase] at halted; exact (halted _ rfl).elim
        | _ => rw [phase] at uncalm; exact (uncalm rfl).elim
    | invocation id => cases late
  | _ => cases late

/-! ## Which invocations are entered late

While a cycle goes on, the ends of its invocations that were told to stop are entered or have
arrived. -/

/-- A cycle has entered the ends of the invocations that were told to stop, or it has heard of
them. -/
structure Heeded (w : Scheduler) (l : List (Passage Scheduler Move)) : Prop where
  fresh : ∀ id, w.next ≤ id → lateOf id l = 0
  ledger : ∀ id c, w.cycle? id = some c → lateOf id l + aborted c.arrived = aborted (w.ends id)

/-- **Every move leaves the ends heeded.** -/
theorem Heeded.move (h : Heeded w l) (governed : Governed s w)
    (e : Scheduler.move s m w = some w') : Heeded w' (l ++ [⟨w, m, w'⟩]) where
  fresh id hid := by
    have hid : w.next ≤ id := Nat.le_trans (next_le_move e) hid
    have other : w.owner? m ≠ some id := fun own ↦
      absurd (owner?_lt governed.inv.numbered e own) (Nat.not_lt.mpr hid)
    rw [lateOf_append_of_ne other]
    exact h.fresh id hid
  ledger id c' hc' := by
    have numbered := governed.inv.numbered
    by_cases own : w.owner? m = some id
    · cases m with
      | turn t =>
        cases t with
        | cycle n =>
          cases own
          obtain ⟨c, d, hc, hd, ends, turned⟩ := enters_of_turn governed e
          obtain rfl : d = c' := Option.some.inj (hd.symm.trans hc')
          have before := h.ledger id c hc
          rw [ends, ← before, lateOf_append, decide_eq_true (by rfl), Bool.and_true]
          rcases turned with ⟨nothing, arrived, -⟩ | ⟨t, end_, enters, arrived, -⟩
          · rw [isLate, nothing, arrived]
            rfl
          · -- What the cycle takes from its inbox moves from the unheard aborts to the counted
            -- ones.
            have first : aborted c.arrived = aborted [(t, end_)] + aborted d.arrived := by
              rw [arrived, ← aborted_append, List.singleton_append]
            rw [isLate, enters, first, aborted_singleton, Nat.add_assoc]
            rfl
        | invocation n =>
          have on_time : isLate ⟨w, .turn (.invocation n), w'⟩ = false := rfl
          rw [lateOf_append, on_time, Bool.false_and, if_neg Bool.false_ne_true, Nat.add_zero]
          obtain ⟨i, hi, rfl⟩ := Option.map_eq_some_iff.mp own
          obtain ⟨j, hj, step⟩ := Option.bind_eq_some_iff.mp e
          obtain rfl : i = j := Option.some.inj (hi.symm.trans hj)
          rcases stepInvocation_cases step with begins | ⟨end_, leaves⟩
          · rw [cycle?, begins.cycles] at hc'
            rw [begins.ends]
            exact h.ledger _ c' hc'
          · rw [leaves.cycle?, Option.map_eq_some_iff] at hc'
            obtain ⟨c, hc, rfl⟩ := hc'
            rw [if_pos (Keyed.key_of_find? hc), leaves.ends, if_pos rfl,
              aborted_append, aborted_append, ← h.ledger _ c hc, Nat.add_assoc]
      | _ => cases own
    · rw [lateOf_append_of_ne own]
      obtain ⟨ends, same | ⟨new, phase⟩⟩ := (apart_of_ne numbered e own).imp_right fun h ↦ h c' hc'
      · rw [ends]
        exact h.ledger id c' same
      · have calm : c'.phase.isCalm = true := by rw [phase]; rfl
        have silent := (governed.move e).settled id c' hc'
        subst new
        rw [ends, (silent.calm calm).2, h.fresh _ (Nat.le_refl _),
          (numbered.fresh _ (Nat.le_refl _)).2.2]
        rfl

end Moves

/-! ## Runs

Any number of cycles may run, be dropped or fail.  Each has its own part in the difference. -/

section Runs

variable {s : SchedulerSetup} {metrics : SelfMetrics} {l : List (Passage Scheduler Move)}
  {w : Scheduler}

theorem heeded_of_trail (run : Trail (move s) (start s metrics) l w) : Heeded w l := by
  induction run with
  | start => exact ⟨fun _ _ ↦ rfl, fun _ _ hc ↦ nomatch hc⟩
  | move h m e ih => exact ih.move (governed_of_trail h) e

theorem outcomes_of_trail (run : Trail (move s) (start s metrics) l w)
    (agree : metrics.outcomes = metrics.collectDuration.count) :
    w.metrics.outcomes = w.metrics.collectDuration.count + (late l).toUInt64 := by
  induction run with
  | start => exact agree.trans (UInt64.add_zero _).symm
  | move h m e ih =>
    obtain ⟨d, timed, outcomes⟩ := outcomes_of_move (governed_of_trail h) e
    have one (b : Bool) : (if b then 1 else 0 : UInt64) = (if b then 1 else 0 : Nat).toUInt64 := by
      cases b <;> rfl
    rw [outcomes, timed, ih, late_append, Counter.toUInt64_add, one]
    ac_rfl

/-- How the durations of a run compare with the counters of outcomes. -/
structure Timekeeping (s : SchedulerSetup) (l : List (Passage Scheduler Move)) (w : Scheduler) :
    Prop where
  /-- What was counted was timed, but for the invocations that were entered late. -/
  outcomes : w.metrics.outcomes = w.metrics.collectDuration.count + (late l).toUInt64
  /-- That happens to no cycle that has not failed, -/
  failed : ∀ t ∈ l, isLate t = true → ∃ id c n err rest,
    t.move = .turn (.cycle id) ∧ t.before.cycle? id = some c ∧ c.phase = .joining n (some err) rest
  /-- nor in sequential mode. -/
  sequential : s.config.parallel = false → w.metrics.outcomes = w.metrics.collectDuration.count
  /-- A cycle that has returned has entered late the invocations that were told to stop, -/
  returned : ∀ id r, w.result? id = some r → lateOf id l = aborted (w.ends id)
  /-- and there are none where it has a report. -/
  reported : ∀ id report, w.result? id = some (.ok report) → lateOf id l = 0

/-- **The durations agree with the counters of outcomes, but for the invocations that are told to
stop when another one has failed**, in every run, with any number of cycles, after every move. -/
theorem timekeeping_of_trail (run : Trail (move s) (start s metrics) l w)
    (agree : metrics.outcomes = metrics.collectDuration.count) : Timekeeping s l w := by
  have governed := governed_of_trail run
  have outcomes := outcomes_of_trail run agree
  have failed : ∀ t ∈ l, isLate t = true → s.config.parallel = true ∧ ∃ id c n err rest,
      t.move = .turn (.cycle id) ∧ t.before.cycle? id = some c ∧
      c.phase = .joining n (some err) rest := by
    intro t ht late
    obtain ⟨before, e⟩ := run.forall_mem (governed_of_trail .start) (fun _ h e ↦ h.move e) t ht
    exact failed_of_isLate before e late
  -- A returned cycle has heard of every end, so none of its aborts is still uncounted.
  have returned (id : Nat) (r : Except CycleError CycleReport) (ended : w.result? id = some r) :
      lateOf id l = aborted (w.ends id) := by
    obtain ⟨c, hc, phase⟩ := result?_eq_some ended
    have heard := ((governed.settled id c hc).calm (by rw [phase]; rfl)).2
    rw [← (heeded_of_trail run).ledger id c hc, heard]
    rfl
  exact
    { outcomes := outcomes
      failed := fun t ht late ↦ (failed t ht late).2
      sequential := fun sequential ↦ by
        have none_late : late l = 0 := List.countP_eq_zero.mpr fun t ht late ↦ by
          have parallel := (failed t ht late).1
          rw [sequential] at parallel
          cases parallel
        rw [outcomes, none_late]
        exact UInt64.add_zero _
      returned := returned
      reported := fun id report ended ↦ by
        obtain ⟨c, hc, phase⟩ := result?_eq_some ended
        obtain ⟨-, done⟩ := (governed.inv.cycles id c hc).done report phase
        rw [returned id _ ended, aborted, List.countP_eq_zero]
        intro a ha stopped
        have regular := done.regular a ha
        obtain ⟨t, e⟩ := a
        cases e with
        | aborted => cases regular
        | _ => cases stopped }

end Runs

/-- The moves of a cycle of `hangAndFail` from its call to its return. -/
def hangAndFailMoves : List Move :=
  [.call 7, .turn (.cycle 0), .turn (.cycle 0), .turn (.cycle 0), .turn (.cycle 0),
    .turn (.cycle 0), .turn (.cycle 0), .turn (.invocation 1), .turn (.invocation 2),
    .turn (.invocation 2), .turn (.cycle 0), .turn (.invocation 1), .turn (.cycle 0),
    .turn (.cycle 0), .turn (.cycle 0)]

/-- One of two collectors fails, and the other one is told to stop. -/
theorem timekeeping_of_trail_stopped : ∃ (l : List (Passage Scheduler Move)) (w : Scheduler),
    Trail (move hangAndFail) (start hangAndFail .new) l w ∧
      SelfMetrics.new.outcomes = SelfMetrics.new.collectDuration.count ∧
      (late l = 1 ∧ w.metrics.outcomes = 2 ∧ w.metrics.collectDuration.count = 1) ∧
      Timekeeping hangAndFail l w := by
  have run : Trail (move hangAndFail) (start hangAndFail .new) _ _ :=
    Trail.of_follow hangAndFailMoves rfl
  exact ⟨_, _, run, rfl, ⟨rfl, rfl, rfl⟩, timekeeping_of_trail run rfl⟩

/-- It is not so that the durations agree with the counters of outcomes whenever all cycles have
returned. -/
theorem not_outcomes_eq_durations :
    ¬∀ (s : SchedulerSetup) (l : List (Passage Scheduler Move)) (w : Scheduler),
      Trail (move s) (start s .new) l w → (∀ c ∈ w.cycles, c.phase.isOver = true) →
        w.metrics.outcomes = w.metrics.collectDuration.count := by
  intro agree
  have run : Trail (move hangAndFail) (start hangAndFail .new) _ _ :=
    Trail.of_follow hangAndFailMoves rfl
  have same : (2 : UInt64) = 1 := agree hangAndFail _ _ run fun c hc ↦ by
    obtain rfl := List.mem_singleton.mp hc
    rfl
  exact absurd same (by decide)

end Scheduler

end MetricsAgent
