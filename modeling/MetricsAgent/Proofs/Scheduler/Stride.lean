import MetricsAgent.Proofs.Scheduler.Crossing

/-!
# Turns, phase by phase

`Scheduler.Advance` and `Scheduler.Crossing` tell what a turn makes of the collectors, the gate and
the pool, whatever the phase.  Where it matters which modules a cycle has reached, what it writes
into the history, or whether the firing of its token holds it back, the phases themselves count.
`Scheduler.Stride` has one constructor for each kind of turn of a cycle, with its guard, the cycle
after it, the events and the new invocations; `Scheduler.stepCycle_strides` says that there are no
others.

`Scheduler.ReasonToLeave` does the same for the invocations that leave: it tells why, and with which
end.  `Scheduler.MoveEffect` puts both together: `Scheduler.effect_of_move` says what a move does.
What is told is told at the time of the move, `Scheduler.Tells`; `Tells.told` forgets the time.

An invariant of a cycle that depends on its phase is proved by cases over `Stride`, whose
constructors name the phases before and after, and is carried to all moves by `effect_of_move`.  The
reports, the stops and the tours of cycles are proved so.

The guards are stated in terms of `Scheduler.isCalledOff`, which is the look at the token that the
scheduler makes when it cancels fast.
-/

set_option autoImplicit false

namespace MetricsAgent

/-- The report of a cycle that was cancelled before it passed the gate. -/
def SchedulerSetup.earlyReport (s : SchedulerSetup) : CycleReport :=
  { CycleReport.new with outcome := .cancelled, skipped := s.registry.collectorCount }

/-- The report at the end of the last module, when the token may have fired. -/
def CycleReport.closed (r : CycleReport) (fired : Bool) : CycleReport :=
  if fired then { r with outcome := .cancelled } else r

/-- How an invocation ends whose call gave a result, when the token may have fired. -/
def CollectResult.end_ (t : Scheduler.Target) (fired : Bool) : CollectResult → InvocationEnd
  | .batch l => .collected l
  | .failure e =>
    if e.isCancelled && fired then .cancelled
    else if e.isExpected then .failed
    else .fatal (.unexpected t.module t.collector.name e.message)
  | .crash text => .fatal (.panicked t.module text)

namespace Scheduler

/-! ## What is told

Events are told with the time, and most statements do not need it. -/

/-- What has happened, in order. -/
def told (w : Scheduler) : List Event := w.history.toList.map Prod.snd

/-- From `w` to `w'` these events were told, at the time of `w`. -/
def Tells (w w' : Scheduler) (es : List Event) : Prop :=
  w'.history.toList = w.history.toList ++ es.map (w.now, ·)

section Tells

variable {w w' v : Scheduler} {es : List Event}

theorem Tells.told (h : Tells w w' es) : w'.told = w.told ++ es := by
  have events : (es.map (w.now, ·)).map Prod.snd = es := by
    rw [List.map_map]
    exact List.map_id _
  rw [Scheduler.told, h, List.map_append, events, Scheduler.told]

theorem tells_nil (history : w'.history = w.history) : Tells w w' [] := by
  rw [Tells, history]
  exact (List.append_nil _).symm

/-- One more event. -/
theorem Tells.note (h : Tells w v es) (now : v.now = w.now) (e : Event) :
    Tells w (v.note e) (es ++ [e]) := by
  rw [Tells, List.map_append, ← List.append_assoc, ← h, ← now]
  exact History.toList_push _ _ _

theorem tells_note (history : v.history = w.history) (now : v.now = w.now) (e : Event) :
    Tells w (v.note e) [e] := (tells_nil history).note now e

end Tells

theorem log_eq_told (w : Scheduler) : w.log = w.told.filter (·.isCrew) := rfl

theorem ends_eq_told (w : Scheduler) (cycle : Nat) :
    w.ends cycle = w.told.filterMap (·.end? cycle) := by
  rw [ends, told, List.filterMap_map]
  rfl

/-- Whether cycles under a token, and their invocations, begin nothing any more. -/
def isCalledOff (s : SchedulerSetup) (w : Scheduler) (token : Nat) : Bool :=
  s.config.cancelFast && w.isFired token

/-- The event at the start of the hook after the collectors, if the module has one. -/
def afterEvents (cycle : Nat) (m : CollectorModule) : List Event :=
  if m.hooks.isSome then [.after cycle m.name] else []

/-- How long the hook after the collectors takes, if the module has one. -/
def afterMs (m : CollectorModule) : Nat := (m.hooks.map (·.afterMs)).getD 0

/-! ## Turns of cycles

What a turn leaves behind is a relation between schedulers (`Yields`), so that the constructors of
`Stride` speak of the cycle only. -/

/-- A turn of the cycle `c`: the cycle after it, the events, and the new invocations. -/
inductive Stride (s : SchedulerSetup) (w : Scheduler) (c : Cycle) :
    Cycle → List Event → List Invocation → Prop where
  | arrives (phase : c.phase = .arriving) (on : w.isCalledOff s c.token = false) :
    Stride s w c { c with phase := .queued } [] []
  | passes (phase : c.phase = .queued) (on : w.isCalledOff s c.token = false) :
    Stride s w c { c with phase := .visiting s.registry.modules } [] []
  | endsEarly (phase : c.phase = .arriving ∨ c.phase = .queued)
    (off : w.isCalledOff s c.token = true) :
    Stride s w c { c with phase := .ended (.ok s.earlyReport), report := s.earlyReport }
      [.closed c.id] []
  | skipsModule {m : CollectorModule} {rest : List CollectorModule}
    (phase : c.phase = .visiting (m :: rest))
    (off : w.isCalledOff s c.token = true) :
    Stride s w c
      { c with phase := .visiting rest, report := c.report.skip m.collectors.length } [] []
  | opens {m : CollectorModule} {rest : List CollectorModule} (h : Hooks) (hooks : m.hooks = some h)
    (phase : c.phase = .visiting (m :: rest)) (on : w.isCalledOff s c.token = false) :
    Stride s w c { c with phase := .opening m rest (w.now + h.beforeMs) } [.before c.id m.name] []
  | unfolds {m : CollectorModule} {rest : List CollectorModule} (φ : CyclePhase)
    (phase : c.phase = .visiting (m :: rest) ∧ m.hooks = none ∧ w.isCalledOff s c.token = false ∨
      ∃ t, c.phase = .opening m rest t ∧ t ≤ w.now)
    (after : φ = .spawning m m.collectors rest ∨ φ = .starting m m.collectors rest) :
    Stride s w c { c with phase := φ } [] []
  | skips {m : CollectorModule} {k : Collector} {left : List Collector}
    {rest : List CollectorModule}
    (φ : CyclePhase)
    (phase : c.phase = .spawning m (k :: left) rest ∧ φ = .spawning m left rest ∨
      c.phase = .starting m (k :: left) rest ∧ φ = .starting m left rest)
    (off : w.isCalledOff s c.token = true) :
    Stride s w c { c with phase := φ, report := c.report.skip 1 } [] []
  | spawns {m : CollectorModule} {k : Collector} {left : List Collector}
    {rest : List CollectorModule}
    (φ : CyclePhase) (pooled : Bool)
    (phase : c.phase = .spawning m (k :: left) rest ∧ φ = .spawning m left rest ∨
      c.phase = .starting m (k :: left) rest ∧ φ = .awaiting m left rest)
    (on : w.isCalledOff s c.token = false) :
    Stride s w c { c with phase := φ } [.spawned c.id ⟨m.name, k⟩]
      [⟨w.next, c.id, c.token, ⟨m.name, k⟩, pooled, false, .spawned⟩]
  | gathers {m : CollectorModule} {rest : List CollectorModule}
    (phase : c.phase = .spawning m [] rest) :
    Stride s w c { c with phase := .joining m none rest } [] []
  /-- In parallel mode an end is entered that lets the module go on as before. -/
  | enters {m : CollectorModule} {failure : Option CycleError}
    {rest : List CollectorModule} {t : Target}
    {e : InvocationEnd} {arrived : List (Target × InvocationEnd)}
    (phase : c.phase = .joining m failure rest) (first : c.arrived = (t, e) :: arrived)
    (minor : failure = none → ∀ err, e ≠ .fatal err) :
    Stride s w c { c with report := c.report.record e, arrived := arrived } [] []
  | fails {m : CollectorModule} {rest : List CollectorModule} {t : Target} {e : CycleError}
    {arrived : List (Target × InvocationEnd)} (phase : c.phase = .joining m none rest)
    (first : c.arrived = (t, .fatal e) :: arrived) :
    Stride s w c { c with phase := .joining m (some e) rest, arrived := arrived } [] []
  /-- In sequential mode an end is entered that is not fatal. -/
  | takes {m : CollectorModule} {left : List Collector} {rest : List CollectorModule} {t : Target}
    {e : InvocationEnd} {arrived : List (Target × InvocationEnd)}
    (phase : c.phase = .awaiting m left rest) (first : c.arrived = (t, e) :: arrived)
    (minor : ∀ err, e ≠ .fatal err) :
    Stride s w c
      { c with
        phase := .starting m left rest, report := c.report.record e, arrived := arrived } [] []
  /-- All collectors of the module are done, or one of them has failed. -/
  | closes {m : CollectorModule} {failure : Option CycleError} {rest : List CollectorModule}
    (arrived : List (Target × InvocationEnd)) (until_ : Nat)
    (phase : (c.phase = .joining m failure rest ∧ w.invocationsOf c.id = [] ∧ c.arrived = [] ∨
          c.phase = .starting m [] rest ∧ failure = none) ∧ arrived = c.arrived ∨
      ∃ left t e, c.phase = .awaiting m left rest ∧ c.arrived = (t, .fatal e) :: arrived ∧
        failure = some e) (timed : until_ = w.now + afterMs m) :
    Stride s w c { c with phase := .closing m failure rest until_, arrived := arrived }
      (afterEvents c.id m) []
  | goesOn {m : CollectorModule} {rest : List CollectorModule} {t : Nat}
    (phase : c.phase = .closing m none rest t) (due : t ≤ w.now) :
    Stride s w c { c with phase := .visiting rest } [] []
  | errs {m : CollectorModule} {e : CycleError} {rest : List CollectorModule} {t : Nat}
    (phase : c.phase = .closing m (some e) rest t) (due : t ≤ w.now) :
    Stride s w c { c with phase := .ended (.error e) } [.closed c.id] []
  | ends (phase : c.phase = .visiting []) :
    Stride s w c
      { c with
        phase := .ended (.ok (c.report.closed (w.isFired c.token)))
        report := c.report.closed (w.isFired c.token) } [.closed c.id] []

/-- What a turn leaves behind: the cycle `c'` in its place, the events and the new invocations. -/
structure Yields (w : Scheduler) (c' : Cycle) (es : List Event) (new : List Invocation)
    (w' : Scheduler) : Prop where
  now : w'.now = w.now
  cycles : w'.cycles = (w.putCycle c').cycles
  fired : w'.fired = w.fired
  tells : Tells w w' es
  invocations : ∃ g, Marks c'.id g ∧ w'.invocations = w.invocations.map g ++ new

/-- Some turn of the cycle `c` leads to `w'`. -/
def Strides (s : SchedulerSetup) (w : Scheduler) (c : Cycle) (w' : Scheduler) : Prop :=
  ∃ c' es new, Stride s w c c' es new ∧ Yields w c' es new w'

section Turns

variable {s : SchedulerSetup} {w w' v : Scheduler} {c c' : Cycle}

/-- Invocations stay what they are. -/
theorem yields_of_eq {es : List Event} {new : List Invocation} (now : w'.now = w.now)
    (cycles : w'.cycles = (w.putCycle c').cycles) (fired : w'.fired = w.fired)
    (tells : Tells w w' es) (invocations : w'.invocations = w.invocations ++ new) :
    Yields w c' es new w' :=
  ⟨now, cycles, fired, tells, fun i ↦ i, fun _ ↦ .inl rfl, by rw [List.map_id']; exact invocations⟩

theorem yields_putCycle (w : Scheduler) (c' : Cycle) : Yields w c' [] [] (w.putCycle c') :=
  yields_of_eq rfl rfl rfl (tells_nil rfl) (List.append_nil _).symm

/-- A cycle is over. -/
theorem yields_closed {id : Nat} (now : v.now = w.now) (cycles : v.cycles = w.cycles)
    (fired : v.fired = w.fired) (history : v.history = w.history)
    (invocations : v.invocations = w.invocations) :
    Yields w c' [.closed id] [] ((v.putCycle c').note (.closed id)) := by
  refine yields_of_eq now ?_ fired (tells_note history now _) ?_
  · show (v.putCycle c').cycles = _
    rw [putCycle, cycles, putCycle]
  · rw [List.append_nil]
    exact invocations

theorem Yields.releaseGate {es : List Event} {new : List Invocation} (h : Yields w c' es new w') :
    Yields w c' es new w'.releaseGate := ⟨h.now, h.cycles, h.fired, h.tells, h.invocations⟩

theorem Yields.told {es : List Event} {new : List Invocation} (h : Yields w c' es new w') :
    w'.told = w.told ++ es := h.tells.told

theorem closeModule_yields (w : Scheduler) (c : Cycle) (m : CollectorModule)
    (failure : Option CycleError) (rest : List CollectorModule) :
    Yields w { c with phase := .closing m failure rest (w.now + afterMs m) }
      (afterEvents c.id m) [] (w.closeModule c m failure rest) := by
  cases hooks : m.hooks with
  | none =>
    simp only [closeModule, afterEvents, afterMs, hooks]
    exact yields_putCycle w _
  | some h =>
    simp only [closeModule, afterEvents, afterMs, hooks]
    exact yields_of_eq rfl rfl rfl (tells_note rfl rfl _) (List.append_nil _).symm

theorem endBeforeStart_strides {gate : Gate} (phase : c.phase = .arriving ∨ c.phase = .queued)
    (off : w.isCalledOff s c.token = true) :
    Strides s w c ({ w with gate := gate }.endBeforeStart s c) :=
  ⟨_, _, _, .endsEarly phase off, yields_closed rfl rfl rfl rfl rfl⟩

theorem endCycle_strides (phase : c.phase = .visiting []) : Strides s w c (w.endCycle c) := by
  refine ⟨_, _, _, .ends phase, ?_⟩
  cases fired : w.isFired c.token with
  | true =>
    simp only [endCycle, fired, if_true, CycleReport.closed]
    exact Yields.releaseGate (yields_closed rfl rfl rfl rfl rfl)
  | false =>
    simp only [endCycle, fired, Bool.false_eq_true, if_false, CycleReport.closed]
    exact Yields.releaseGate (yields_closed rfl rfl rfl rfl rfl)

theorem enterModule_strides {m : CollectorModule} {rest : List CollectorModule}
    (phase : c.phase = .visiting (m :: rest) ∧ m.hooks = none ∧ w.isCalledOff s c.token = false ∨
      ∃ t, c.phase = .opening m rest t ∧ t ≤ w.now) : Strides s w c (w.enterModule s c m rest) := by
  rw [enterModule]
  refine ⟨_, _, _, .unfolds _ phase ?_, yields_putCycle w _⟩
  split
  · exact .inl rfl
  · exact .inr rfl

theorem visiting_strides {modules : List CollectorModule} (phase : c.phase = .visiting modules)
    (h : w.stepCycle s c = some w') : Strides s w c w' := by
  cases modules with
  | nil =>
    simp only [stepCycle, phase, Option.some_inj] at h
    subst h
    exact endCycle_strides phase
  | cons m rest =>
    simp only [stepCycle, phase] at h
    split at h
    · rename_i off
      cases h
      exact ⟨_, _, _, .skipsModule phase off, yields_putCycle w _⟩
    · rename_i on
      have on : w.isCalledOff s c.token = false := Bool.eq_false_iff.mpr on
      cases hooks : m.hooks with
      | none =>
        simp only [hooks, Option.some_inj] at h
        subst h
        exact enterModule_strides (.inl ⟨phase, hooks, on⟩)
      | some k =>
        simp only [hooks, Option.some_inj] at h
        subst h
        exact ⟨_, _, _, .opens k hooks phase on,
          yields_of_eq rfl rfl rfl (tells_note rfl rfl _) (List.append_nil _).symm⟩

/-- A collector is started, by a cycle that goes on to another phase. -/
theorem spawn_yields (w : Scheduler) (c : Cycle) (φ : CyclePhase)
    (m : CollectorModule) (k : Collector) (pooled : Bool) :
    Yields w { c with phase := φ } [.spawned c.id ⟨m.name, k⟩]
      [⟨w.next, c.id, c.token, ⟨m.name, k⟩, pooled, false, .spawned⟩]
      ((w.spawn c m k pooled).putCycle { c with phase := φ }) :=
  yields_of_eq rfl rfl rfl (tells_note rfl rfl _) rfl

theorem spawning_strides {m : CollectorModule} {left : List Collector} {rest : List CollectorModule}
    (phase : c.phase = .spawning m left rest) (h : w.stepCycle s c = some w') :
    Strides s w c w' := by
  cases left with
  | nil =>
    simp only [stepCycle, phase, Option.some_inj] at h
    subst h
    exact ⟨_, _, _, .gathers phase, yields_putCycle w _⟩
  | cons k left =>
    simp only [stepCycle, phase] at h
    split at h
    · rename_i off
      cases h
      exact ⟨_, _, _, .skips _ (.inl ⟨phase, rfl⟩) off, yields_putCycle w _⟩
    · rename_i on
      split at h
      · cases h
        exact ⟨_, _, _, .spawns _ true (.inl ⟨phase, rfl⟩) (Bool.eq_false_iff.mpr on),
          spawn_yields w c _ m k true⟩
      · cases h

theorem starting_strides {m : CollectorModule} {left : List Collector} {rest : List CollectorModule}
    (phase : c.phase = .starting m left rest) (h : w.stepCycle s c = some w') :
    Strides s w c w' := by
  cases left with
  | nil =>
    simp only [stepCycle, phase, Option.some_inj] at h
    subst h
    exact ⟨_, _, _, .closes c.arrived _ (.inl ⟨.inr ⟨phase, rfl⟩, rfl⟩) rfl,
      closeModule_yields w c m none rest⟩
  | cons k left =>
    simp only [stepCycle, phase] at h
    split at h
    · rename_i off
      cases h
      exact ⟨_, _, _, .skips _ (.inr ⟨phase, rfl⟩) off, yields_putCycle w _⟩
    · rename_i on
      cases h
      exact ⟨_, _, _, .spawns _ false (.inr ⟨phase, rfl⟩) (Bool.eq_false_iff.mpr on),
        spawn_yields w c _ m k false⟩

theorem joining_strides {m : CollectorModule} {failure : Option CycleError}
    {rest : List CollectorModule} (phase : c.phase = .joining m failure rest)
    (h : w.stepCycle s c = some w') : Strides s w c w' := by
  cases first : c.arrived with
  | nil =>
    simp only [stepCycle, phase, first, Option.ite_none_right_eq_some, Option.some_inj,
      List.isEmpty_iff] at h
    obtain ⟨gone, rfl⟩ := h
    exact ⟨_, _, _, .closes c.arrived _ (.inl ⟨.inl ⟨phase, gone, first⟩, rfl⟩) rfl,
      closeModule_yields w c m failure rest⟩
  | cons a arrived =>
    obtain ⟨t, e⟩ := a
    simp only [stepCycle, phase, first] at h
    have goes (minor : failure = none → ∀ err, e ≠ .fatal err) :
        Strides s w c ((w.enter c e arrived).1.putCycle (w.enter c e arrived).2) :=
      ⟨_, _, _, .enters phase first minor, yields_of_eq rfl rfl rfl (tells_nil rfl)
        (List.append_nil _).symm⟩
    cases failure with
    | some err =>
      have h : some ((w.enter c e arrived).1.putCycle (w.enter c e arrived).2) = some w' := by
        cases e <;> exact h
      cases h
      exact goes (by simp)
    | none =>
      cases e with
      | fatal err =>
        cases h
        exact ⟨_, _, _, .fails phase first, rfl, rfl, rfl, tells_nil rfl, _, marks_abortAll c.id,
          (List.append_nil _).symm⟩
      | _ => cases h; exact goes (by simp)

theorem awaiting_strides {m : CollectorModule} {left : List Collector} {rest : List CollectorModule}
    (phase : c.phase = .awaiting m left rest) (h : w.stepCycle s c = some w') :
    Strides s w c w' := by
  cases first : c.arrived with
  | nil => simp [stepCycle, phase, first] at h
  | cons a arrived =>
    obtain ⟨t, e⟩ := a
    simp only [stepCycle, phase, first] at h
    cases e with
    | fatal err =>
      cases h
      exact ⟨_, _, _, .closes arrived _ (.inr ⟨left, t, err, phase, first, rfl⟩) rfl,
        closeModule_yields w { c with arrived := arrived } m (some err) rest⟩
    | _ =>
      cases h
      exact ⟨_, _, _, .takes phase first (by simp),
        yields_of_eq rfl rfl rfl (tells_nil rfl) (List.append_nil _).symm⟩

/-- **What a turn of a cycle is.** -/
theorem stepCycle_strides (h : w.stepCycle s c = some w') : Strides s w c w' := by
  cases phase : c.phase with
  | arriving =>
    simp only [stepCycle, phase] at h
    split at h
    · rename_i off
      cases h
      exact endBeforeStart_strides (.inl phase) off
    · rename_i on
      cases h
      exact ⟨_, _, _, .arrives phase (Bool.eq_false_iff.mpr on),
        yields_of_eq rfl rfl rfl (tells_nil rfl) (List.append_nil _).symm⟩
  | queued =>
    simp only [stepCycle, phase] at h
    split at h
    · rename_i off
      cases h
      exact endBeforeStart_strides (.inr phase) off
    · rename_i on
      split at h
      · cases h
        exact ⟨_, _, _, .passes phase (Bool.eq_false_iff.mpr on), yields_putCycle w _⟩
      · cases h
  | visiting modules => exact visiting_strides phase h
  | opening m rest t =>
    simp only [stepCycle, phase, Option.ite_none_right_eq_some, Option.some_inj] at h
    obtain ⟨due, rfl⟩ := h
    exact enterModule_strides (.inr ⟨t, phase, due⟩)
  | spawning m left rest => exact spawning_strides phase h
  | joining m failure rest => exact joining_strides phase h
  | starting m left rest => exact starting_strides phase h
  | awaiting m left rest => exact awaiting_strides phase h
  | closing m failure rest t =>
    simp only [stepCycle, phase, Option.ite_none_left_eq_some, Nat.not_lt] at h
    obtain ⟨due, h⟩ := h
    cases failure with
    | none =>
      cases h
      exact ⟨_, _, _, .goesOn phase due, yields_putCycle w _⟩
    | some e =>
      cases h
      exact ⟨_, _, _, .errs phase due, Yields.releaseGate (yields_closed rfl rfl rfl rfl rfl)⟩
  | ended r => simp [stepCycle, phase] at h

theorem Stride.id_eq {es : List Event} {new : List Invocation} (h : Stride s w c c' es new) :
    c'.id = c.id := by
  cases h <;> rfl

theorem Stride.token_eq {es : List Event} {new : List Invocation} (h : Stride s w c c' es new) :
    c'.token = c.token := by
  cases h <;> rfl

/-- How a cycle returns a report. -/
theorem Stride.of_returned {es : List Event} {new : List Invocation}
    (h : Stride s w c c' es new) {r : CycleReport} (phase : c'.phase = .ended (.ok r)) :
    w.isCalledOff s c.token = true ∧ r = s.earlyReport ∨
      c.phase = .visiting [] ∧ r = c.report.closed (w.isFired c.token) := by
  cases h with
  | endsEarly _ off =>
    cases phase
    exact .inl ⟨off, rfl⟩
  | ends before =>
    cases phase
    exact .inr ⟨before, rfl⟩
  | enters before =>
    rw [show c.phase = _ from phase] at before
    cases before
  | unfolds φ _ after => rcases after with rfl | rfl <;> cases phase
  | skips φ before | spawns φ pooled before => rcases before with ⟨-, rfl⟩
  | ⟨-, rfl⟩ <;> cases phase
  | _ => cases phase

end Turns

/-! ## Turns of invocations

An invocation whose call is in progress leaves because it is told to stop, because it hears of the
fired token, because the call has ended, or because it is late; in this order, if several of them
apply. -/

/-- Why an invocation leaves: its end, and the event before it is gone. -/
inductive ReasonToLeave (s : SchedulerSetup) (w : Scheduler) (i : Invocation) :
    InvocationEnd → List Event → Prop where
  | aborted (marked : i.aborting = true) : ReasonToLeave s w i .aborted []
  | abandoned (unmarked : i.aborting = false) (off : w.isCalledOff s i.token = true) :
    ReasonToLeave s w i .cancelled []
  /-- The call hears of the fired token. -/
  | gaveUp {b : Behaviour} {started : Nat} {wake limit : Option Nat} (unmarked : i.aborting = false)
    (phase : i.phase = .collecting b started wake limit) (fired : w.isFired i.token = true) :
    ReasonToLeave s w i .cancelled [.gaveUp i.cycle i.target]
  | returned {b : Behaviour} {started : Nat} {wake limit : Option Nat}
    (unmarked : i.aborting = false)
    (phase : i.phase = .collecting b started wake limit) (due : w.isDue wake = true) :
    ReasonToLeave s w i (b.result.end_ i.target (b.cancelsOuter || w.isFired i.token))
      [.ended i.cycle i.target]
  | late {b : Behaviour} {started : Nat} {wake limit : Option Nat} (unmarked : i.aborting = false)
    (phase : i.phase = .collecting b started wake limit) (undue : w.isDue wake = false)
    (due : w.isDue limit = true) :
    ReasonToLeave s w i (if w.isFired i.token then .cancelled else .timedOut) []

/-- If the invocation calls its collector, the call does not fire the token by itself. -/
def Invocation.IsHarmless (i : Invocation) : Prop :=
  ∀ b started wake limit, i.phase = .collecting b started wake limit → b.cancelsOuter = false

/-- An invocation is gone with an end, after what it told. -/
structure Departs (w : Scheduler) (i : Invocation) (e : InvocationEnd) (es : List Event)
    (w' : Scheduler) : Prop where
  now : w'.now = w.now
  invocations : w'.invocations = w.invocations.filter (·.id ≠ i.id)
  cycles : w'.cycles = w.cycles.map fun c ↦
    if c.id = i.cycle then { c with arrived := c.arrived ++ [(i.target, e)] } else c
  tells : Tells w w' (es ++ [.gone i.cycle i.target e])
  /-- Only a call that does so by itself fires a token. -/
  fired : i.IsHarmless → w'.fired = w.fired

section Turns

variable {s : SchedulerSetup} {w w' v : Scheduler} {i : Invocation}

theorem Departs.told {e : InvocationEnd} {es : List Event} (h : Departs w i e es w') :
    w'.told = w.told ++ (es ++ [.gone i.cycle i.target e]) := h.tells.told

/-- An invocation leaves, after it may have told something. -/
theorem retire_departs {e : InvocationEnd} {es : List Event} (now : v.now = w.now)
    (invocations : v.invocations = w.invocations) (cycles : v.cycles = w.cycles)
    (tells : Tells w v es) (fired : i.IsHarmless → v.fired = w.fired) :
    Departs w i e es (v.retire i e) where
  now := now
  invocations := by rw [← invocations]; rfl
  cycles := by rw [← cycles]; rfl
  tells := tells.note now _
  fired := fired

theorem retireWith_departs {es : List Event} (now : v.now = w.now)
    (invocations : v.invocations = w.invocations) (cycles : v.cycles = w.cycles)
    (tells : Tells w v es) (fired : i.IsHarmless → v.fired = w.fired) (started : Nat)
    (r : CollectResult) :
    Departs w i (r.end_ i.target (v.isFired i.token)) es (v.retireWith i started r) := by
  have departs (x : SelfMetrics.CollectEnd) (e : InvocationEnd) :
      Departs w i e es ((v.record started x).retire i e) :=
    retire_departs now invocations cycles tells fired
  cases r with
  | batch l => exact departs .ok _
  | failure e =>
    rw [retireWith, CollectResult.end_]
    split
    · exact departs .cancelled _
    · split
      · exact departs .error _
      · exact departs .error _
  | crash text => exact retire_departs now invocations cycles tells fired

/-- The turn of an invocation that calls its collector. -/
theorem stepInvocation_parts_of_collecting {b : Behaviour} {started : Nat} {wake limit : Option Nat}
    (phase : i.phase = .collecting b started wake limit) (unmarked : i.aborting = false)
    (h : w.stepInvocation s i = some w') :
    ∃ e es, ReasonToLeave s w i e es ∧ Departs w i e es w' := by
  rw [stepInvocation, if_neg (by rw [unmarked]; exact Bool.false_ne_true)] at h
  simp only [phase] at h
  split at h
  · rename_i off
    cases h
    exact ⟨_, _, .abandoned unmarked off,
      retire_departs rfl rfl rfl (tells_nil rfl) fun _ ↦ rfl⟩
  split at h
  · rename_i cond
    simp only [Bool.and_eq_true] at cond
    obtain ⟨-, fired⟩ := cond
    cases h
    have departs := retireWith_departs (w := w) (v := w.note (.gaveUp i.cycle i.target)) (i := i)
      rfl rfl rfl (tells_note rfl rfl _) (fun _ ↦ rfl) started (.failure .cancelled)
    have given_up :
        CollectResult.end_ i.target ((w.note (.gaveUp i.cycle i.target)).isFired i.token)
        (.failure .cancelled) = .cancelled := by
      show (if true && w.isFired i.token then InvocationEnd.cancelled else _) = _
      rw [fired]
      rfl
    rw [given_up] at departs
    exact ⟨_, _, .gaveUp unmarked phase fired, departs⟩
  split at h
  · rename_i due
    cases h
    have why : ReasonToLeave s w i _ _ := .returned unmarked phase due
    refine ⟨_, _, why, ?_⟩
    have tells (fired : List Nat) :
        Tells w ({ w with fired := fired }.note (.ended i.cycle i.target))
        [.ended i.cycle i.target] := tells_note rfl rfl _
    cases fires : b.cancelsOuter with
    | true =>
      simp only [if_true]
      have departs := retireWith_departs (w := w) (i := i)
        (v := { w with fired := i.token :: w.fired }.note (.ended i.cycle i.target)) rfl rfl rfl
        (tells _) (fun quiet ↦ by
          have silent := quiet b started wake limit phase
          rw [fires] at silent
          cases silent) started b.result
      have now_fired :
          ({ w with fired := i.token :: w.fired }.note (.ended i.cycle i.target)).isFired
          i.token = true := by
        simp [isFired, note]
      rw [now_fired] at departs
      exact departs
    | false =>
      simp only [Bool.false_eq_true, if_false, Bool.false_or]
      exact retireWith_departs (w := w) (v := w.note (.ended i.cycle i.target)) rfl rfl rfl
        (tells w.fired) (fun _ ↦ rfl) started b.result
  split at h
  · rename_i undue due
    cases h
    refine ⟨_, _, .late unmarked phase (Bool.eq_false_iff.mpr undue) due, ?_⟩
    rw [retireLate]
    split
    · exact retire_departs rfl rfl rfl (tells_nil rfl) fun _ ↦ rfl
    · exact retire_departs rfl rfl rfl (tells_nil rfl) fun _ ↦ rfl
  · cases h

/-- What an invocation tells at its first turn. -/
theorem tells_beginCall (s : SchedulerSetup) (w : Scheduler) (i : Invocation) :
    Tells w (w.beginCall s i) [.started i.cycle i.target (w.isFired i.token)] :=
  tells_note rfl rfl _

/-- **What a turn of an invocation is**: its call begins, unless it is called off, or it leaves. -/
theorem stepInvocation_parts (h : w.stepInvocation s i = some w') :
    i.phase = .spawned ∧ w.isCalledOff s i.token = false ∧ i.aborting = false ∧
      w' = w.beginCall s i ∨ ∃ e es, ReasonToLeave s w i e es ∧ Departs w i e es w' := by
  cases marked : i.aborting with
  | true =>
    rw [stepInvocation, if_pos marked] at h
    cases h
    exact .inr ⟨_, _, .aborted marked,
      retire_departs rfl rfl rfl (tells_nil rfl) fun _ ↦ rfl⟩
  | false =>
    cases phase : i.phase with
    | spawned =>
      rw [stepInvocation, if_neg (by rw [marked]; exact Bool.false_ne_true)] at h
      simp only [phase, Option.some_inj] at h
      split at h
      · rename_i off
        subst h
        exact .inr ⟨_, _, .abandoned marked off,
          retire_departs rfl rfl rfl (tells_nil rfl) fun _ ↦ rfl⟩
      · rename_i on
        exact .inl ⟨rfl, Bool.eq_false_iff.mpr on, rfl, h.symm⟩
    | collecting b started wake limit =>
      exact .inr (stepInvocation_parts_of_collecting phase marked h)

end Turns

/-! ## Moves

Moves in which no task has a turn tell nothing (`Rests`). -/

/-- A move in which no task has a turn tells nothing, and at most tells invocations of a cycle to
stop. -/
structure Rests (w : Scheduler) (m : Move) (w' : Scheduler) : Prop where
  idle : ∀ t, m ≠ .turn t
  history : w'.history = w.history
  fired : ∀ token, w.isFired token = true → w'.isFired token = true
  invocations : ∃ id g, Marks id g ∧ w'.invocations = w.invocations.map g
  /-- Time passes only where the move says so. -/
  now : w'.now = w.now ∨ ∃ ms, m = .elapse ms ∧ w' = w.elapse ms

/-- What a move does. -/
inductive MoveEffect (s : SchedulerSetup) (w : Scheduler) : Move → Scheduler → Prop where
  | rests {m : Move} {w' : Scheduler} (rests : Rests w m w') : MoveEffect s w m w'
  /-- A cycle has its turn. -/
  | strides {c c' : Cycle} {es : List Event} {new : List Invocation} {w' : Scheduler}
    (there : w.cycle? c.id = some c) (stride : Stride s w c c' es new)
    (yields : Yields w c' es new w') : MoveEffect s w (.turn (.cycle c.id)) w'
  /-- An invocation calls its collector. -/
  | begins {i : Invocation} (there : w.invocations.find? (·.id = i.id) = some i)
    (spawned : i.phase = .spawned) (on : w.isCalledOff s i.token = false)
    (unmarked : i.aborting = false) : MoveEffect s w (.turn (.invocation i.id)) (w.beginCall s i)
  /-- An invocation leaves. -/
  | departs {i : Invocation} {e : InvocationEnd} {es : List Event} {w' : Scheduler}
    (there : w.invocations.find? (·.id = i.id) = some i) (why : ReasonToLeave s w i e es)
    (departs : Departs w i e es w') (leaves : Leaves w i e w') :
    MoveEffect s w (.turn (.invocation i.id)) w'

section Moves

variable {s : SchedulerSetup} {w w' : Scheduler} {m : Move} {c c' : Cycle} {es : List Event}
  {new : List Invocation}

/-- New invocations are those of the cycle, and under its token. -/
theorem Stride.of_new {c c' : Cycle} {es : List Event} {new : List Invocation}
    (h : Stride s w c c' es new) :
    ∀ i ∈ new, i.cycle = c.id ∧ i.token = c.token ∧ i.phase = .spawned := by
  intro i hi
  cases h with
  | spawns => rw [List.mem_singleton.mp hi]; exact ⟨rfl, rfl, rfl⟩
  | _ => cases hi

theorem Stride.cycle_of_new {c c' : Cycle} {es : List Event} {new : List Invocation}
    (h : Stride s w c c' es new) : ∀ i ∈ new, i.cycle = c.id := fun i hi ↦ (h.of_new i hi).1

/-- The cycle after its turn. -/
theorem Yields.cycle?_self {c c' : Cycle} {es : List Event} {new : List Invocation}
    (h : Yields w c' es new w') (id : c'.id = c.id) (hc : w.cycle? c.id = some c) :
    w'.cycle? c.id = some c' := by
  rw [← id] at hc ⊢
  rw [cycle?, h.cycles, putCycle]
  exact Keyed.find?_replace hc

/-- The invocations of the cycle after its turn. -/
theorem Yields.invocationsOf_self {c c' : Cycle} {es : List Event} {new : List Invocation}
    (h : Yields w c' es new w') (id : c'.id = c.id) (own : ∀ i ∈ new, i.cycle = c.id) :
    ∃ g, Marks c.id g ∧ w'.invocationsOf c.id = (w.invocationsOf c.id).map g ++ new := by
  obtain ⟨g, marks, invocations⟩ := h.invocations
  rw [id] at marks
  refine ⟨g, marks, ?_⟩
  have before : ({ w with invocations := w.invocations.map g } : Scheduler).invocationsOf c.id =
      (w.invocationsOf c.id).map g := invocationsOf_map marks.cycle_eq rfl c.id
  have kept : new.filter (·.cycle = c.id) = new := List.filter_eq_self.mpr fun i hi ↦ by
    simpa using own i hi
  rw [invocationsOf, invocations, List.filter_append, kept]
  exact congrArg (· ++ new) before

/-- The other cycles stay what they are. -/
theorem Stride.frame (h : Stride s w c c' es new) (yields : Yields w c' es new w') :
    Frame w c' w' where
  cycles := yields.cycles
  fired := yields.fired
  ends id := by
    have none_ends : es.filterMap (·.end? id) = [] := by
      cases h with
      | closes =>
        rw [afterEvents]
        split <;> rfl
      | _ => rfl
    rw [ends_eq_told, yields.told, List.filterMap_append, none_ends, List.append_nil, ends_eq_told]

theorem Stride.cycle?_of_ne (h : Stride s w c c' es new) (yields : Yields w c' es new w') {id : Nat}
    (hid : id ≠ c.id) : w'.cycle? id = w.cycle? id :=
  (h.frame yields).cycle?_of_ne (by rw [h.id_eq]; exact hid)

/-- The other cycles keep their invocations. -/
theorem Stride.invocationsOf_of_ne (h : Stride s w c c' es new)
    (yields : Yields w c' es new w') {id : Nat} (hid : id ≠ c.id) :
    w'.invocationsOf id = w.invocationsOf id := by
  obtain ⟨g, marks, invocations⟩ := yields.invocations
  have none_new : new.filter (·.cycle = id) = [] := List.filter_eq_nil_iff.mpr fun i hi ↦ by
    simpa [h.cycle_of_new i hi] using hid.symm
  have kept : ({ w with invocations := w.invocations.map g } : Scheduler).invocationsOf id =
      w.invocationsOf id := marks.invocationsOf_of_ne rfl (by rw [h.id_eq]; exact hid)
  rw [invocationsOf, invocations, List.filter_append, none_new, List.append_nil]
  exact kept

/-- An invocation that departs leaves its end with its cycle. -/
theorem Departs.leaves {i : Invocation} {e : InvocationEnd} (h : Departs w i e es w')
    (why : ReasonToLeave s w i e es) (step : w.stepInvocation s i = some w') : Leaves w i e w' := by
  have ends : w'.ends i.cycle = w.ends i.cycle ++ [(i.target, e)] := by
    have one :
        (es ++ [Event.gone i.cycle i.target e]).filterMap (·.end? i.cycle) = [(i.target, e)] := by
      cases why <;> simp [Event.end?]
    rw [ends_eq_told, h.told, List.filterMap_append, one, ends_eq_told]
  rcases stepInvocation_cases step with begins | ⟨e', leaves⟩
  · have same := (begins.ends i.cycle).symm.trans ends
    simp at same
  · have same := (leaves.ends i.cycle).symm.trans ends
    rw [if_pos rfl] at same
    obtain rfl : e' = e := by simpa using same
    exact leaves

theorem Rests.told (h : Rests w m w') :
    w'.told = w.told := congrArg (·.toList.map Prod.snd) h.history

theorem history_drop (w : Scheduler) (id : Nat) : (w.drop id).history = w.history := by
  rw [drop]
  split
  · rfl
  · dsimp only
    split <;> rfl

theorem now_drop (w : Scheduler) (id : Nat) : (w.drop id).now = w.now := by
  rw [drop]
  split
  · rfl
  · dsimp only
    split <;> rfl

theorem rests_drop (w : Scheduler) (id : Nat) : Rests w (.drop id) (w.drop id) := by
  have drops := drop_drops w id
  obtain ⟨g, marks, invocations⟩ := drops.invocations
  exact
    { idle := fun _ h ↦ by cases h
      history := history_drop w id
      fired := fun token h ↦ by rw [isFired, drops.fired]; exact h
      invocations := ⟨id, g, marks, invocations⟩
      now := .inl (now_drop w id) }

/-- **What a move does.** -/
theorem effect_of_move (e : move s m w = some w') : MoveEffect s w m w' := by
  have kept : ∃ id g, Marks id g ∧ w.invocations = w.invocations.map g :=
    ⟨0, fun i ↦ i, fun _ ↦ .inl rfl, (List.map_id' _).symm⟩
  cases m with
  | call token =>
    cases e
    exact .rests ⟨fun _ h ↦ (by cases h), rfl, fun _ h ↦ h, kept, .inl rfl⟩
  | cancel token =>
    cases e
    refine .rests ⟨fun _ h ↦ (by cases h), rfl, fun t h ↦ ?_, kept, .inl rfl⟩
    rw [isFired, List.contains_iff_mem] at h ⊢
    exact List.mem_cons_of_mem _ h
  | elapse ms =>
    cases e
    exact .rests ⟨fun _ h ↦ (by cases h), rfl, fun _ h ↦ h, kept, .inr ⟨ms, rfl, rfl⟩⟩
  | drop id =>
    cases e
    exact .rests (rests_drop w id)
  | turn t =>
    cases t with
    | cycle id =>
      obtain ⟨c, -, there, rfl, step, -⟩ := step_cycle e
      obtain ⟨c', es, new, stride, yields⟩ := stepCycle_strides step
      exact .strides there stride yields
    | invocation id =>
      obtain ⟨i, there, step⟩ := Option.bind_eq_some_iff.mp e
      obtain rfl : i.id = id := Keyed.key_of_find? there
      rcases stepInvocation_parts step with ⟨spawned, on, unmarked, rfl⟩ | ⟨end_, es, why, departs⟩
      · exact .begins there spawned on unmarked
      · exact .departs there why departs (departs.leaves why step)

end Moves

end Scheduler

end MetricsAgent
