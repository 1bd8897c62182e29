import MetricsAgent.Proofs.Agent.Handover
import MetricsAgent.Proofs.Sampling.Draws
import MetricsAgent.Proofs.Scheduler.Accounting

/-!
# Ticks

A *tick* is a call whose batch goes to the exporters.  It has a turn when its cycle has returned.
What it does then depends on the result of the cycle alone (`Agent.TickEnds`).

* If the cycle has failed or was cancelled, the tick answers that there was nothing, and no exporter
  gets anything, neither then nor later.
* Otherwise there is one batch: what the sampling policy keeps of the measurements, in their order,
  and behind it the agent's own metrics, taken when the cycle was counted already.  The own metrics
  come after the sampling, so they use no random numbers and none of them is left out.  This batch
  goes through the exporters as `Agent.HandsOver` says, and the tick answers its length in the end.

The exporters may take their time, so that a tick is spread over a run in which other ticks go on.
`Agent.tick_exports` therefore says what the turn at the end of the cycle does and what is the case
in every later state, for all runs of all agents, and that nothing else gives the exporters
anything.
-/

set_option autoImplicit false

namespace MetricsAgent

namespace Agent

/-! ## What a tick collects

The random numbers that a result uses are counted, so that the next tick goes on with the next
ones. -/

/-- The agent's own metrics, as they go behind a batch. -/
def ownMetrics (s : AgentSetup) (metrics : SelfMetrics) : List Measurement :=
  if s.options.selfMetrics then metrics.snapshot.toMeasurements s.options.lead else []

/-- Whether there is nothing to export: the cycle has failed, or it was cancelled. -/
def IsVoid (r : Except CycleError CycleReport) : Prop :=
  (∃ e, r = .error e) ∨ ∃ report, r = .ok report ∧ report.outcome = .cancelled

/-- The random numbers that a result uses. -/
def drawsOf (s : AgentSetup) : Except CycleError CycleReport → Nat
  | .error _ => 0
  | .ok report => s.policy.draws report.measurements

/-- A cycle that was completed leaves something to export. -/
theorem IsVoid.not_completed {r : Except CycleError CycleReport} (h : IsVoid r)
    {report : CycleReport} (same : r = .ok report) : report.outcome ≠ .completed := by
  subst same
  rcases h with ⟨e, failed⟩ | ⟨report', same, cancelled⟩
  · cases failed
  · cases same
    rw [cancelled]
    exact CycleOutcome.noConfusion

theorem isVoid_or_completed (r : Except CycleError CycleReport) :
    IsVoid r ∨ ∃ report, r = .ok report ∧ report.outcome = .completed := by
  cases r with
  | error e => exact .inl (.inl ⟨e, rfl⟩)
  | ok report =>
    cases outcome : report.outcome with
    | cancelled => exact .inl (.inr ⟨report, rfl, outcome⟩)
    | completed => exact .inr ⟨report, rfl, outcome⟩

/-! ## The end of the cycle of a tick

A turn at the end of a cycle does two things at most: the measurements are sampled, and the first
exporter gets the batch. -/

/-- What a tick with the result `r` of its cycle does when its cycle has returned, after a run of
its agent. -/
structure TickEnds (s : AgentSetup) (l : List (Passage Agent Move)) (a : Agent) (cycle : Nat)
    (r : Except CycleError CycleReport) (a' : Agent) : Prop where
  /-- By then the cycle was counted once, by the counter that belongs to its result. -/
  counted : ∀ k : Scheduler.CycleCounter,
    Scheduler.credit cycle k.read (schedulings l) = if k = .of r then 1 else 0
  /-- The tick answers that there was nothing just where there is nothing to export. -/
  nothing_iff : a'.answer? cycle = some none ↔ IsVoid r
  /-- Then no exporter gets anything, -/
  silent : IsVoid r → a'.history.toList = a.history.toList
  /-- not even later. -/
  unheard : IsVoid r → ∀ l' b, Trail (move s) a' l' b → b.told cycle = []
  /-- Otherwise all exporters get the same batch, each once, in order, whatever they make of it. -/
  handsOver : ∀ report, r = .ok report → report.outcome = .completed →
    ∃ batch, batch = s.policy.kept a.drawn report.measurements ++ ownMetrics s a.scheduler.metrics ∧
      ∀ l' b, Trail (move s) a' l' b → HandsOver s cycle batch l' b
  /-- Only the measurements of the cycle use random numbers. -/
  draws : a'.drawn = a.drawn + drawsOf s r
  /-- The cycle has returned for good. -/
  final : ∀ l' b, Trail (move s) a' l' b → b.isTicking cycle = false

section Ends

variable {s : AgentSetup} {a a' : Agent} {c : Call}

/-- What becomes of a report, place by place. -/
theorem refine_eq (s : AgentSetup) (metrics : SelfMetrics) (drawn : Nat) (report : CycleReport) :
    refine s metrics drawn report =
      ({ report with
          measurements := s.policy.kept drawn report.measurements ++ ownMetrics s metrics },
        drawn + s.policy.draws report.measurements) := by
  rw [refine, SamplingPolicy.apply, SamplingPolicy.retain_eq, ownMetrics]

/-- A call that ends without a batch. -/
structure EndsVoid (a : Agent) (c : Call) (draws : Nat) (a' : Agent) : Prop where
  call : a'.call? c.cycle = some { c with phase := .exported none }
  history : a'.history = a.history
  drawn : a'.drawn = a.drawn + draws

/-- Nothing goes to the exporters where there is nothing to export, but the measurements of a cycle
that was cancelled were sampled. -/
theorem finishCall_void (there : a.call? c.cycle = some c) (exports : c.exports = true)
    {r : Except CycleError CycleReport} (void : IsVoid r) :
    EndsVoid a c (drawsOf s r) (a.finishCall s c r) := by
  obtain ⟨cycle, _, phase⟩ := c
  obtain rfl := exports
  let after : Call := ⟨cycle, true, .exported none⟩
  rcases void with ⟨e, rfl⟩ | ⟨report, rfl, cancelled⟩
  · exact ⟨@call?_putCall_self _ _ after there, rfl, rfl⟩
  · simp only [finishCall, refine_eq, Bool.not_true, Bool.false_eq_true, if_false,
      CycleReport.isCancelled, cancelled, decide_true, if_true]
    exact ⟨@call?_putCall_self _ _ after there, rfl, rfl⟩

/-- The batch of a cycle that was completed goes to the exporters. -/
theorem finishCall_completed {report : CycleReport} (exports : c.exports = true)
    (completed : report.outcome = .completed) :
    a.finishCall s c (.ok report) =
      { a with
        scheduler := a.scheduler.drop c.cycle
        drawn := a.drawn + s.policy.draws report.measurements }.handOver c
          (s.policy.kept a.drawn report.measurements ++ ownMetrics s a.scheduler.metrics)
          s.exporters := by
  have goes : report.outcome ≠ .cancelled := by
    rw [completed]
    exact CycleOutcome.noConfusion
  simp only [finishCall, refine_eq, exports, Bool.not_true, Bool.false_eq_true, if_false,
    CycleReport.isCancelled, goes, decide_false, (Scheduler.drop_drops a.scheduler c.cycle).metrics]

theorem drawn_handOver (a : Agent) (c : Call) (batch : List Measurement) (l : List Exporter) :
    (a.handOver c batch l).drawn = a.drawn := by
  cases l <;> rfl

/-- A tick with a batch does not answer that there was nothing. -/
theorem answer?_handOver_ne (there : a.call? c.cycle = some c) (batch : List Measurement)
    (l : List Exporter) : (a.handOver c batch l).answer? c.cycle ≠ some none := by
  intro nothing
  cases l with
  | nil =>
    let after : Call := { c with phase := .exported (some batch.length) }
    rw [handOver, answer?, @call?_putCall_self _ c after there] at nothing
    cases nothing
  | cons e rest =>
    let until? := (e.take c.cycle batch).waitMs.map (a.now + ·)
    have after : (a.handOver c batch (e :: rest)).call? c.cycle =
        some { c with phase := .exporting batch e rest until? } :=
      @call?_putCall_self _ c { c with phase := .exporting batch e rest until? } there
    rw [answer?, after] at nothing
    cases nothing

/-- A call whose batch does not go to the exporters tells them nothing. -/
theorem history_finishCall (collects : c.exports = false) (r : Except CycleError CycleReport) :
    (a.finishCall s c r).history = a.history := by
  cases r with
  | error e => rfl
  | ok report =>
    simp only [finishCall, collects, Bool.not_false, if_true]
    rfl

/-- A call that has ended without a batch hands nothing over later. -/
theorem EndsVoid.told_eq_nil {draws : Nat} (ends : EndsVoid a c draws a')
    (unheard : a.told c.cycle = []) (given : c.cycle < a'.scheduler.next)
    {l : List (Passage Agent Move)} {b : Agent} (later : Trail (move s) a' l b) :
    b.told c.cycle = [] := by
  have past : a'.runs c.cycle = false :=
    runs_eq_false_iff.mpr fun d same ↦ by rw [← Option.some.inj (ends.call.symm.trans same)]; rfl
  refine (later.invariant
    (P := fun b ↦ c.cycle < b.scheduler.next ∧ b.runs c.cycle = false ∧ b.told c.cycle = [])
    ⟨given, past, (told_congr ends.history _).trans unheard⟩ fun {b b'} m hb e ↦ ?_).2.2
  obtain ⟨given, past, nothing⟩ := hb
  refine ⟨Nat.lt_of_lt_of_le given (next_le_of_move e),
    not_runs_of_trail (Trail.start.move m e) given past, ?_⟩
  refine (told_of_move e fun own ↦ ?_).trans nothing
  -- A call that has ended has no turns.
  subst own
  obtain ⟨d, there, -, turn⟩ := step_call e
  have alive := runs_eq_false_iff.mp past d there
  rw [turn.isUnderWay] at alive
  cases alive

/-- **What the end of the cycle of a tick leaves behind.** -/
theorem finishCall_tickEnds {metrics : SelfMetrics} {l : List (Passage Agent Move)}
    (run : Trail (move s) (start s metrics) l a) (there : a.call? c.cycle = some c)
    (exports : c.exports = true) (running : c.phase = .running) {r : Except CycleError CycleReport}
    (returned : a.scheduler.result? c.cycle = some r)
    (turn : a.step s (.call c.cycle) = some (a.finishCall s c r)) :
    TickEnds s l a c.cycle r (a.finishCall s c r) := by
  have counted := (Scheduler.credited_of_trail (trail_scheduling run)).of_result returned
  have numbered : Numbered a := Reachable.numbered (reachable_iff_exists_trail.mpr ⟨l, run⟩)
  have given : c.cycle < (a.finishCall s c r).scheduler.next :=
    Nat.lt_of_lt_of_le (numbered.calls c (List.mem_of_find?_eq_some there))
      (next_le_of_move (m := .turn (.call c.cycle)) turn)
  -- Both cases start from an empty record of the batch, since the cycle was under way so far.
  have unheard : a.told c.cycle = [] :=
    unheard_of_trail run c.cycle (.inl (awaits_iff.mpr ⟨c, there, running⟩))
  have final (l' : List (Passage Agent Move)) (b : Agent)
      (later : Trail (move s) (a.finishCall s c r) l' b) : b.isTicking c.cycle = false := by
    have past := not_awaits_of_trail later given
      ((finishCall_moves s a running r).awaits_self there)
    refine Bool.eq_false_iff.mpr fun ticking ↦ ?_
    rw [awaits_of_isTicking ticking] at past
    cases past
  rcases isVoid_or_completed r with void | ⟨report, rfl, completed⟩
  · have ends := finishCall_void (s := s) there exports void
    exact
      { counted, final
        nothing_iff := iff_of_true (answer?_eq ends.call rfl) void
        silent := fun _ ↦ congrArg History.toList ends.history
        unheard := fun _ l' b later ↦ ends.told_eq_nil unheard given later
        handsOver := fun _ same completed ↦ absurd completed (void.not_completed same)
        draws := ends.drawn }
  · have full : ¬IsVoid (.ok report) := fun void ↦ void.not_completed rfl completed
    have goes := finishCall_completed (s := s) (a := a) exports completed
    refine
      { counted, final
        nothing_iff := iff_of_false ?_ full
        silent := fun void ↦ absurd void full
        unheard := fun void ↦ absurd void full
        handsOver := fun report' same _ ↦ ?_
        draws := ?_ }
    · rw [goes]
      refine answer?_handOver_ne ?_ _ _
      exact there
    · cases same
      refine ⟨_, rfl, fun l' b later ↦ ?_⟩
      have holds := @holds_handOver s
        { a with
          scheduler := a.scheduler.drop c.cycle
          drawn := a.drawn + s.policy.draws report.measurements } c
        (s.policy.kept a.drawn report.measurements ++ ownMetrics s a.scheduler.metrics) [] []
        s.exporters there rfl (congrArg (List.map (·.2)) unheard)
      rw [← goes] at holds
      exact (holds_of_trail holds given later).1.handsOver
    · rw [goes, drawn_handOver]
      rfl

end Ends

/-! ## All runs

The theorem has the state before the turn at the end of the cycle, the turn, and every run after
it. -/

section Runs

variable {s : AgentSetup} {a a' : Agent} {m : Move}

/-- Only the turns of a tick give the exporters anything, and tell what they answer. -/
theorem exports_of_move (e : move s m a = some a') (other : ∀ cycle, m = .turn (.call cycle) →
    a.isTicking cycle = false ∧ a.isExporting cycle = false) : a'.exports = a.exports := by
  cases m with
  | turn t =>
    cases t with
    | scheduler t =>
      obtain ⟨w, -, rfl⟩ := Option.map_eq_some_iff.mp e
      rfl
    | call cycle =>
      obtain ⟨c, there, rfl, turn⟩ := step_call e
      obtain ⟨collects, idle⟩ := other c.cycle rfl
      cases turn with
      | returns r running =>
        -- A call that was neither ticking nor exporting does not pass anything on.
        have collects : c.exports = false := by
          refine Bool.eq_false_iff.mpr fun exports ↦ ?_
          rw [isTicking_iff.mpr ⟨c, there, exports, running⟩] at collects
          cases collects
        rw [exports, history_finishCall collects, exports]
      | passes batch x rest t exporting =>
        rw [isExporting, runs, awaits, there, Option.any_some, Option.any_some, exporting] at idle
        cases idle
    | loop id =>
      obtain ⟨k, k', -, -, turn⟩ := step_loop (s := s) e
      cases turn with
      | stops => rfl
      | ticks =>
        have told := History.toList_push a.history a.now (.ticked k.id k.ticker.deadline)
        rw [exports, exports, ← List.append_nil (a.history.toList.filter _)]
        exact (congrArg (List.filter _) told).trans (List.filter_append ..)
      | resumes => rfl
  | _ => cases e; rfl

/-- **The ticks of an agent**, for every registry and configuration of its scheduler, every sampling
policy, all exporters, and every order in which calls are made, tasks have their turns, tokens fire
and time passes.  A tick goes on just when its cycle has returned.  It answers that there was
nothing, and no exporter gets anything, just where the cycle has failed or was cancelled.  Otherwise
every exporter gets one and the same batch once, in order, whatever the others have made of it and
however long they take, and the answer is the length of the batch: what the policy keeps of the
measurements of the cycle, in their order, and then the agent's own metrics, taken when the cycle
was counted already.  These use no random numbers and are all there.  And nothing else ever gives
the exporters anything. -/
theorem tick_exports {metrics : SelfMetrics} {l : List (Passage Agent Move)}
    (run : Trail (move s) (start s metrics) l a) :
    (∀ cycle, a.isTicking cycle = true →
      (a.step s (.call cycle) = none ↔ a.scheduler.result? cycle = none) ∧
      ∀ r, a.scheduler.result? cycle = some r →
        ∃ a', a.step s (.call cycle) = some a' ∧ TickEnds s l a cycle r a') ∧
      ∀ m a', move s m a = some a' → (∀ cycle, m = .turn (.call cycle) →
        a.isTicking cycle = false ∧ a.isExporting cycle = false) → a'.exports = a.exports := by
  refine ⟨fun cycle ticking ↦ ?_, fun m a' e other ↦ exports_of_move e other⟩
  obtain ⟨c, there, exports, running⟩ := isTicking_iff.mp ticking
  obtain rfl : c.cycle = cycle := Keyed.key_of_find? there
  have turn : a.step s (.call c.cycle) = (a.scheduler.result? c.cycle).map (a.finishCall s c) :=
    step_call_of_running there running
  refine ⟨?_, fun r returned ↦ ?_⟩
  · rw [turn, Option.map_eq_none_iff]
  · rw [returned] at turn
    exact ⟨a.finishCall s c r, turn, finishCall_tickEnds run there exports running returned turn⟩

/-- An agent with two exporters, of which the first one takes five milliseconds to fail with a
batch. -/
def twoExporters : AgentSetup where
  scheduler := Scheduler.twoInTurn
  options := .default
  policy := .default
  exporters :=
    [⟨"first", fun _ _ ↦ ⟨some 5, .error (.request "refused")⟩⟩,
      ⟨"second", fun _ batch ↦ ⟨some 0, .ok ⟨batch.length, 0⟩⟩⟩]

/-- A tick of it gives both exporters what its two collectors have measured and the agent's own
metrics. While the first one has the batch, the token of the tick fires, and that makes no
difference. -/
theorem tick_exports_after_failure : ∃ (l l' : List (Passage Agent Move)) (a a' b : Agent)
    (report : CycleReport) (batch : List Measurement),
    Trail (move twoExporters) (start twoExporters .new) l a ∧ a.isTicking 0 = true ∧
      a.scheduler.result? 0 = some (.ok report) ∧ a.step twoExporters (.call 0) = some a' ∧
      report.measurements = [.gauge "load" 1, .gauge "used" 2] ∧
      batch = twoExporters.policy.kept 0 report.measurements ++
        a.scheduler.metrics.snapshot.toMeasurements "metron_" ∧
      Trail (move twoExporters) a' l' b ∧ HandsOver twoExporters 0 batch l' b ∧
      b.answer? 0 = some (some batch.length) ∧
      b.history.toList =
        [(0, .handed 0 "first" batch), (5, .answered 0 "first" (.error (.request "refused"))),
          (5, .handed 0 "second" batch), (5, .answered 0 "second" (.ok ⟨batch.length, 0⟩))] := by
  have run : Trail (move twoExporters) (start twoExporters .new) _ _ :=
    Trail.of_follow
      [.call 7 true, .turn (.scheduler (.cycle 0)), .turn (.scheduler (.cycle 0)),
        .turn (.scheduler (.cycle 0)), .turn (.scheduler (.cycle 0)),
        .turn (.scheduler (.invocation 1)), .turn (.scheduler (.invocation 1)),
        .turn (.scheduler (.cycle 0)), .turn (.scheduler (.cycle 0)),
        .turn (.scheduler (.invocation 2)), .turn (.scheduler (.invocation 2)),
        .turn (.scheduler (.cycle 0)), .turn (.scheduler (.cycle 0)), .turn (.scheduler (.cycle 0)),
        .turn (.scheduler (.cycle 0))] rfl
  obtain ⟨a', step, ends⟩ := ((tick_exports run).1 0 rfl).2 (.ok _) rfl
  obtain ⟨batch, made, hands⟩ := ends.handsOver _ rfl rfl
  cases step
  subst made
  have passed := hands _ _ (.of_follow [.cancel 7, .elapse 5, .turn (.call 0), .turn (.call 0)] rfl)
  exact ⟨_, _, _, _, _, _, _, run, rfl, rfl, rfl, rfl, rfl,
    .of_follow [.cancel 7, .elapse 5, .turn (.call 0), .turn (.call 0)] rfl, passed, rfl, rfl⟩

end Runs

end Agent

end MetricsAgent
