import MetricsAgent.Proofs.Scheduler.Course

/-!
# What a turn of a cycle can do

A cycle goes from phase to phase.  What a phase still has ahead of it are the collectors in
`CyclePhase.ahead`; a cycle that has failed or is over has no such list.  A phase is *calm* if none
of the cycle's invocations are on their way.

`Scheduler.Advance` has one constructor for each kind of turn, and `Scheduler.stepCycle_advances`
says that there are no others.  What becomes of the collectors of a cycle, of its report and of the
counters follows from these constructors alone.

The kinds do not correspond to the phases.  A turn may pass to another phase with the same
collectors ahead, skip some of them, start one, enter the end of one, fail, or end the cycle, and
most of these happen in several phases.  What belongs to a phase and not to a kind, such as the hook
that begins, is the subject of `Proofs.Scheduler.Stride`, and what a turn does at the gate and the
pool that of `Proofs.Scheduler.Crossing`.
-/

set_option autoImplicit false

namespace MetricsAgent

/-- Collectors of a module. -/
def CollectorModule.targets (m : CollectorModule) (l : List Collector) : List Scheduler.Target :=
  l.map (⟨m.name, ·⟩)

/-- The collectors of modules, in order. -/
def Registry.targetsOf (l : List CollectorModule) : List Scheduler.Target :=
  l.flatMap fun m ↦ m.targets m.collectors

/-- All collectors, in the order of registration. -/
def Registry.targets (r : Registry) : List Scheduler.Target := targetsOf r.modules

theorem Registry.length_targets (r : Registry) : r.targets.length = r.collectorCount := by
  simp [targets, targetsOf, CollectorModule.targets, collectorCount_eq_length, List.length_flatMap]

namespace Scheduler

/-! ## Phases

A cycle in sequential mode waits for one invocation at a time, and in parallel mode for any number
of them. -/

namespace CyclePhase

/-- The collectors that are neither started nor skipped so far; `none` once the cycle has failed or
is over. -/
def ahead (s : SchedulerSetup) : CyclePhase → Option (List Target)
  | arriving | queued => some s.registry.targets
  | visiting rest => some (Registry.targetsOf rest)
  | opening m rest _ => some (m.targets m.collectors ++ Registry.targetsOf rest)
  | spawning m left rest | starting m left rest | awaiting m left rest =>
    some (m.targets left ++ Registry.targetsOf rest)
  | joining _ none rest | closing _ none rest _ => some (Registry.targetsOf rest)
  | _ => none

/-- Whether none of the cycle's invocations are on their way. -/
def isCalm : CyclePhase → Bool
  | spawning .. | joining .. | awaiting .. => false
  | _ => true

/-- Whether just one of the cycle's invocations is on its way. -/
def isAwaiting : CyclePhase → Bool
  | awaiting .. => true
  | _ => false

/-- Whether the cycle is over. -/
def isOver : CyclePhase → Bool
  | ended _ => true
  | _ => false

end CyclePhase

/-! ## Turns

A turn changes one cycle, adds one invocation at most, and lets none leave (`Scheduler.Frame`). -/

/-- A turn of a cycle changes this cycle only, and no invocation leaves in it. -/
structure Frame (w : Scheduler) (c' : Cycle) (w' : Scheduler) : Prop where
  cycles : w'.cycles = (w.putCycle c').cycles
  fired : w'.fired = w.fired
  ends : ∀ id, w'.ends id = w.ends id

/-- The metrics `m'` are `m` after a cycle has been counted. -/
structure Counts (k : CycleCounter) (m m' : SelfMetrics) : Prop where
  cycle : ∀ j : CycleCounter, j.read m' = j.read m + if j = k then 1 else 0
  collect : ∀ j : CollectCounter, j.read m' = j.read m

theorem counts_ok (m : SelfMetrics) : Counts .ok m { m with cyclesOk := m.cyclesOk + 1 } :=
  ⟨fun j ↦ by cases j <;> first | rfl | exact (UInt64.add_zero _).symm, fun j ↦ by cases j <;> rfl⟩

theorem counts_failed (m : SelfMetrics) :
    Counts .failed m { m with cyclesFailed := m.cyclesFailed + 1 } :=
  ⟨fun j ↦ by cases j <;> first | rfl | exact (UInt64.add_zero _).symm, fun j ↦ by cases j <;> rfl⟩

theorem counts_cancelled (m : SelfMetrics) :
    Counts .cancelled m { m with cyclesCancelled := m.cyclesCancelled + 1 } :=
  ⟨fun j ↦ by cases j <;> first | rfl | exact (UInt64.add_zero _).symm, fun j ↦ by cases j <;> rfl⟩

/-- What a turn of the cycle `c` makes of it. -/
inductive Advance (s : SchedulerSetup) (w : Scheduler) (c : Cycle) (w' : Scheduler) :
    Cycle → Prop where
  /-- It goes on with the same collectors ahead. -/
  | passes (φ : CyclePhase) (ahead : φ.ahead s = c.phase.ahead s)
    (calm : φ.isCalm = true →
      c.phase.isCalm = true ∨ w.invocationsOf c.id = [] ∧ c.arrived = [])
    (single : φ.isAwaiting = false) (unended : φ.isOver = false)
    (invocations : w'.invocations = w.invocations) (next : w'.next = w.next)
    (metrics : w'.metrics = w.metrics) : Advance s w c w' { c with phase := φ }
  /-- It skips collectors, because its token has fired. -/
  | skips (φ : CyclePhase) (skipped later : List Target)
    (before : c.phase.ahead s = some (skipped ++ later)) (after : φ.ahead s = some later)
    (calm : φ.isCalm = c.phase.isCalm) (single : φ.isAwaiting = false) (unended : φ.isOver = false)
    (fired : w.isFired c.token = true) (invocations : w'.invocations = w.invocations)
    (next : w'.next = w.next) (metrics : w'.metrics = w.metrics) :
    Advance s w c w' { c with phase := φ, report := c.report.skip skipped.length }
  /-- It starts a collector. -/
  | spawns (φ : CyclePhase) (t : Target) (later : List Target) (pooled : Bool)
    (before : c.phase.ahead s = some (t :: later)) (after : φ.ahead s = some later)
    (calm : φ.isCalm = false) (single : φ.isAwaiting = true → c.phase.isCalm = true)
    (unended : φ.isOver = false)
    (invocations : w'.invocations =
      w.invocations ++ [⟨w.next, c.id, c.token, t, pooled, false, .spawned⟩])
    (next : w'.next = w.next + 1) (metrics : w'.metrics = w.metrics) :
    Advance s w c w' { c with phase := φ }
  /-- It enters the end of an invocation. -/
  | enters (φ : CyclePhase) (t : Target) (e : InvocationEnd)
    (arrived : List (Target × InvocationEnd))
    (first : c.arrived = (t, e) :: arrived) (ahead : φ.ahead s = c.phase.ahead s)
    (regular : ∀ err, e = .fatal err → φ.ahead s = none)
    (calm : φ.isCalm = true → c.phase.isAwaiting = true) (single : φ.isAwaiting = false)
    (unended : φ.isOver = false) (invocations : w'.invocations = w.invocations)
    (next : w'.next = w.next) (metrics : e ≠ .aborted → w'.metrics = w.metrics)
    (cycleCounters : ∀ k : CycleCounter, k.read w'.metrics = k.read w.metrics) :
    Advance s w c w'
      { c with phase := φ, report := c.report.record e, arrived := arrived }
  /-- It enters the first fatal end. -/
  | fails (φ : CyclePhase) (t : Target) (e : CycleError) (arrived : List (Target × InvocationEnd))
    (first : c.arrived = (t, .fatal e) :: arrived) (ahead : φ.ahead s = none)
    (unended : φ.isOver = false)
    (invocations : w'.invocations = w.invocations ∨
      w'.invocations = (w.abortAll c.id).invocations)
    (next : w'.next = w.next) (metrics : w'.metrics = w.metrics) :
    Advance s w c w' { c with phase := φ, arrived := arrived }
  /-- It is over before it has passed the gate. -/
  | endsEarly (r : CycleReport) (before : c.phase = .arriving ∨ c.phase = .queued)
    (report : r = { CycleReport.new with
      outcome := .cancelled, skipped := s.registry.collectorCount })
    (fired : w.isFired c.token = true) (invocations : w'.invocations = w.invocations)
    (next : w'.next = w.next) (counts : Counts .cancelled w.metrics w'.metrics) :
    Advance s w c w' { c with phase := .ended (.ok r), report := r }
  /-- It is over after the last module, with a token that has fired. -/
  | endsCancelled (before : c.phase = .visiting []) (invocations : w'.invocations = w.invocations)
    (next : w'.next = w.next) (counts : Counts .cancelled w.metrics w'.metrics) :
    Advance s w c w'
      { c with
        phase := .ended (.ok { c.report with outcome := .cancelled })
        report := { c.report with outcome := .cancelled } }
  | endsCompleted (before : c.phase = .visiting []) (fired : w.isFired c.token = false)
    (invocations : w'.invocations = w.invocations) (next : w'.next = w.next)
    (counts : Counts .ok w.metrics w'.metrics) :
    Advance s w c w' { c with phase := .ended (.ok c.report) }
  /-- It is over because it has failed. -/
  | errs (e : CycleError) (before : c.phase.ahead s = none)
    (invocations : w'.invocations = w.invocations)
    (next : w'.next = w.next) (counts : Counts .failed w.metrics w'.metrics) :
    Advance s w c w' { c with phase := .ended (.error e) }

/-! ## One lemma for each phase

The functions of the model are taken in the order in which they call each other, so that a lemma
about a phase is put together from those about its parts. -/

theorem frame_putCycle (w : Scheduler) (c : Cycle) : Frame w c (w.putCycle c) :=
  ⟨rfl, rfl, fun _ ↦ rfl⟩

theorem Frame.note {w w' : Scheduler} {c : Cycle} (h : Frame w c w') {e : Event}
    (he : ∀ id, e.end? id = none) : Frame w c (w'.note e) :=
  ⟨h.cycles, h.fired, fun id ↦ by rw [ends_note, he, h.ends]; exact List.append_nil _⟩

/-- A cycle is over. -/
theorem frame_closed {w v : Scheduler} {c : Cycle} {id : Nat} (cycles : v.cycles = w.cycles)
    (fired : v.fired = w.fired) (history : v.history = w.history) :
    Frame w c ((v.putCycle c).note (.closed id)) := by
  have put : Frame w c (v.putCycle c) := by
    refine ⟨?_, fired, fun _ ↦ ?_⟩
    · simp only [putCycle, cycles]
    · rw [ends_putCycle, ends, ends, history]
  exact put.note fun _ ↦ rfl

theorem Frame.releaseGate {w w' : Scheduler} {c : Cycle} (h : Frame w c w') :
    Frame w c w'.releaseGate := ⟨h.cycles, h.fired, h.ends⟩

section Phases

variable {s : SchedulerSetup} {w w' : Scheduler} {c : Cycle}

/-- Some turn of the cycle `c` leads to `w'`. -/
def Advances (s : SchedulerSetup) (w : Scheduler) (c : Cycle) (w' : Scheduler) : Prop :=
  ∃ c', Advance s w c w' c' ∧ Frame w c' w'

theorem endBeforeStart_advances {v : Scheduler} (hv : ∃ gate, v = { w with gate := gate })
    (before : c.phase = .arriving ∨ c.phase = .queued) (fired : w.isFired c.token = true) :
    Advances s w c (v.endBeforeStart s c) := by
  obtain ⟨gate, rfl⟩ := hv
  exact ⟨_, .endsEarly _ before rfl fired rfl rfl (counts_cancelled _), frame_closed rfl rfl rfl⟩

theorem endCycle_advances (before : c.phase = .visiting []) : Advances s w c (w.endCycle c) := by
  cases fired : w.isFired c.token with
  | true =>
    simp only [endCycle, fired, if_true]
    refine ⟨_, .endsCancelled before rfl rfl (counts_cancelled _), Frame.releaseGate ?_⟩
    exact frame_closed rfl rfl rfl
  | false =>
    simp only [endCycle, fired, Bool.false_eq_true, if_false]
    refine ⟨_, .endsCompleted before fired rfl rfl (counts_ok _), Frame.releaseGate ?_⟩
    exact frame_closed rfl rfl rfl

theorem failCycle_advances (before : c.phase.ahead s = none) (e : CycleError) :
    Advances s w c (w.failCycle c e) := by
  refine ⟨_, .errs e before rfl rfl (counts_failed _), Frame.releaseGate ?_⟩
  exact frame_closed rfl rfl rfl

theorem enterModule_advances {m : CollectorModule} {rest : List CollectorModule}
    (before : c.phase.ahead s = some (m.targets m.collectors ++ Registry.targetsOf rest))
    (calm : c.phase.isCalm = true) : Advances s w c (w.enterModule s c m rest) := by
  rw [enterModule]
  split
  · exact ⟨_, .passes (.spawning m m.collectors rest) before.symm
      (fun _ ↦ .inl calm) rfl rfl rfl rfl
      rfl, frame_putCycle _ _⟩
  · exact ⟨_, .passes (.starting m m.collectors rest) before.symm
      (fun _ ↦ .inl calm) rfl rfl rfl rfl
      rfl, frame_putCycle _ _⟩

/-- The hook after the collectors begins, and nothing but the phase changes. -/
theorem closeModule_frame (w : Scheduler) (c : Cycle) (m : CollectorModule)
    (failure : Option CycleError) (rest : List CollectorModule) :
    ∃ t, Frame w { c with phase := .closing m failure rest t } (w.closeModule c m failure rest) ∧
      (w.closeModule c m failure rest).invocations = w.invocations ∧
      (w.closeModule c m failure rest).next = w.next ∧
      (w.closeModule c m failure rest).metrics = w.metrics := by
  cases hooks : m.hooks with
  | none => simp only [closeModule, hooks]; exact ⟨w.now, frame_putCycle _ _, rfl, rfl, rfl⟩
  | some h =>
    simp only [closeModule, hooks]
    exact ⟨w.now + h.afterMs, (frame_putCycle _ _).note fun _ ↦ rfl, rfl, rfl, rfl⟩

theorem visiting_advances {modules : List CollectorModule} (phase : c.phase = .visiting modules)
    (h : w.stepCycle s c = some w') : Advances s w c w' := by
  cases modules with
  | nil =>
    simp only [stepCycle, phase, Option.some_inj] at h
    subst h
    exact endCycle_advances phase
  | cons m rest =>
    have before : c.phase.ahead s = some (m.targets m.collectors ++ Registry.targetsOf rest) := by
      rw [phase]; rfl
    have calm : c.phase.isCalm = true := by rw [phase]; rfl
    simp only [stepCycle, phase] at h
    split at h
    · rename_i abandoned
      rw [Bool.and_eq_true] at abandoned
      cases h
      have skips : Advance s w c (w.putCycle
          { c with phase := .visiting rest, report := c.report.skip m.collectors.length }) _ :=
        .skips (.visiting rest) (m.targets m.collectors) _ before rfl (by rw [phase]; rfl) rfl rfl
          abandoned.2 rfl rfl rfl
      rw [CollectorModule.targets, List.length_map] at skips
      exact ⟨_, skips, frame_putCycle _ _⟩
    · cases hooks : m.hooks with
      | none =>
        simp only [hooks, Option.some_inj] at h
        subst h
        exact enterModule_advances before calm
      | some k =>
        simp only [hooks, Option.some_inj] at h
        subst h
        exact ⟨_, .passes (.opening m rest (w.now + k.beforeMs)) before.symm
          (fun _ ↦ .inl calm) rfl rfl
          rfl rfl rfl, (frame_putCycle _ _).note fun _ ↦ rfl⟩

theorem closeModule_advances {m : CollectorModule} {failure : Option CycleError}
    {rest : List CollectorModule}
    (before : c.phase.ahead s = if failure.isNone then some (Registry.targetsOf rest) else none)
    (calm : c.phase.isCalm = true ∨ w.invocationsOf c.id = [] ∧ c.arrived = []) :
    Advances s w c (w.closeModule c m failure rest) := by
  obtain ⟨t, frame, invocations, next, metrics⟩ := closeModule_frame w c m failure rest
  refine ⟨_, .passes (.closing m failure rest t) ?_ (fun _ ↦ calm) rfl rfl invocations next metrics,
    frame⟩
  rw [before]
  cases failure <;> rfl

/-- A collector is started, by a cycle that goes on to another phase. -/
theorem spawn_advances {φ : CyclePhase} {m : CollectorModule} {k : Collector} {later : List Target}
    (pooled : Bool) (before : c.phase.ahead s = some (⟨m.name, k⟩ :: later))
    (after : φ.ahead s = some later) (calm : φ.isCalm = false)
    (single : φ.isAwaiting = true → c.phase.isCalm = true) (unended : φ.isOver = false) :
    Advances s w c ((w.spawn c m k pooled).putCycle { c with phase := φ }) := by
  refine ⟨_, .spawns φ ⟨m.name, k⟩ later pooled before after calm single unended rfl rfl rfl,
    rfl, rfl, fun id ↦ ?_⟩
  rw [ends_putCycle, spawn, ends_note]
  exact List.append_nil _

theorem spawning_advances {m : CollectorModule} {left : List Collector}
    {rest : List CollectorModule} (phase : c.phase = .spawning m left rest)
    (h : w.stepCycle s c = some w') : Advances s w c w' := by
  have before : c.phase.ahead s = some (m.targets left ++ Registry.targetsOf rest) := by
    rw [phase]; rfl
  cases left with
  | nil =>
    simp only [stepCycle, phase, Option.some_inj] at h
    subst h
    exact ⟨_, .passes (.joining m none rest) before.symm (fun h ↦ nomatch h) rfl rfl rfl rfl rfl,
      frame_putCycle _ _⟩
  | cons k left =>
    simp only [stepCycle, phase] at h
    split at h
    · rename_i abandoned
      rw [Bool.and_eq_true] at abandoned
      cases h
      exact ⟨_, .skips (.spawning m left rest) [⟨m.name, k⟩] _ before rfl
        (by rw [phase]; rfl) rfl rfl
        abandoned.2 rfl rfl rfl, frame_putCycle _ _⟩
    · split at h
      · cases h
        exact spawn_advances true before rfl rfl (fun h ↦ nomatch h) rfl
      · cases h

/-- The end of an invocation is entered, by a cycle that goes on to a phase. -/
theorem enter_advances {φ : CyclePhase} {t : Target} {e : InvocationEnd}
    {arrived : List (Target × InvocationEnd)} (first : c.arrived = (t, e) :: arrived)
    (ahead : φ.ahead s = c.phase.ahead s) (regular : ∀ err, e = .fatal err → φ.ahead s = none)
    (calm : φ.isCalm = true → c.phase.isAwaiting = true) (single : φ.isAwaiting = false)
    (unended : φ.isOver = false) :
    Advances s w c
      ((w.enter c e arrived).1.putCycle { (w.enter c e arrived).2 with phase := φ }) := by
  refine ⟨_, .enters φ t e arrived first ahead regular calm single unended rfl rfl ?_ ?_, rfl, rfl,
    fun _ ↦ rfl⟩
  · intro h
    cases e <;> first | rfl | exact absurd rfl h
  · intro k
    cases e <;> cases k <;> rfl

theorem joining_advances {m : CollectorModule} {failure : Option CycleError}
    {rest : List CollectorModule} (phase : c.phase = .joining m failure rest)
    (h : w.stepCycle s c = some w') : Advances s w c w' := by
  cases first : c.arrived with
  | nil =>
    simp only [stepCycle, phase, first, Option.ite_none_right_eq_some, Option.some_inj,
      List.isEmpty_iff] at h
    obtain ⟨gone, rfl⟩ := h
    exact closeModule_advances (by rw [phase]; cases failure <;> rfl) (.inr ⟨gone, first⟩)
  | cons a arrived =>
    obtain ⟨t, e⟩ := a
    simp only [stepCycle, phase, first] at h
    have goes (regular : ∀ err, e = .fatal err → c.phase.ahead s = none) :
        Advances s w c ((w.enter c e arrived).1.putCycle
          { (w.enter c e arrived).2 with phase := c.phase }) :=
      enter_advances first rfl regular (by simp [phase, CyclePhase.isCalm]) (by rw [phase]; rfl)
        (by rw [phase]; rfl)
    cases failure with
    | some err =>
      have h : some ((w.enter c e arrived).1.putCycle (w.enter c e arrived).2) = some w' := by
        cases e <;> exact h
      cases h
      exact goes fun _ _ ↦ by rw [phase]; rfl
    | none =>
      cases e with
      | fatal err =>
        cases h
        exact ⟨_, .fails (.joining m (some err) rest) t err arrived first rfl rfl
          (.inr rfl) rfl rfl, rfl, rfl, fun _ ↦ rfl⟩
      | _ => cases h; exact goes (by simp)

theorem starting_advances {m : CollectorModule} {left : List Collector}
    {rest : List CollectorModule} (phase : c.phase = .starting m left rest)
    (h : w.stepCycle s c = some w') : Advances s w c w' := by
  have before : c.phase.ahead s = some (m.targets left ++ Registry.targetsOf rest) := by
    rw [phase]; rfl
  have calm : c.phase.isCalm = true := by rw [phase]; rfl
  cases left with
  | nil =>
    simp only [stepCycle, phase, Option.some_inj] at h
    subst h
    exact closeModule_advances before (.inl calm)
  | cons k left =>
    simp only [stepCycle, phase] at h
    split at h
    · rename_i abandoned
      rw [Bool.and_eq_true] at abandoned
      cases h
      exact ⟨_, .skips (.starting m left rest) [⟨m.name, k⟩] _ before rfl calm.symm rfl rfl
        abandoned.2 rfl rfl rfl, frame_putCycle _ _⟩
    · cases h
      exact spawn_advances false before rfl rfl (fun _ ↦ calm) rfl

theorem awaiting_advances {m : CollectorModule} {left : List Collector}
    {rest : List CollectorModule} (phase : c.phase = .awaiting m left rest)
    (h : w.stepCycle s c = some w') : Advances s w c w' := by
  cases first : c.arrived with
  | nil => simp [stepCycle, phase, first] at h
  | cons a arrived =>
    obtain ⟨t, e⟩ := a
    simp only [stepCycle, phase, first] at h
    cases e with
    | fatal err =>
      cases h
      obtain ⟨t', frame, invocations, next, metrics⟩ :=
        closeModule_frame w { c with arrived := arrived } m (some err) rest
      exact ⟨_, .fails (.closing m (some err) rest t') t err arrived first rfl rfl
        (.inl invocations)
        next metrics, frame⟩
    | _ =>
      cases h
      exact enter_advances first (by rw [phase]; rfl) (by simp) (fun _ ↦ by rw [phase]; rfl) rfl rfl

/-- **What a turn of a cycle can do.** -/
theorem stepCycle_advances (h : w.stepCycle s c = some w') : Advances s w c w' := by
  cases phase : c.phase with
  | arriving =>
    simp only [stepCycle, phase] at h
    split at h
    · rename_i abandoned
      rw [Bool.and_eq_true] at abandoned
      cases h
      exact endBeforeStart_advances ⟨w.gate, rfl⟩ (.inl phase) abandoned.2
    · cases h
      exact ⟨_, .passes .queued (by rw [phase]; rfl)
        (fun _ ↦ .inl (by rw [phase]; rfl)) rfl rfl rfl rfl
        rfl, rfl, rfl, fun _ ↦ rfl⟩
  | queued =>
    simp only [stepCycle, phase] at h
    split at h
    · rename_i abandoned
      rw [Bool.and_eq_true] at abandoned
      cases h
      exact endBeforeStart_advances ⟨w.gate.leave c.id, rfl⟩ (.inr phase) abandoned.2
    · split at h
      · cases h
        exact ⟨_, .passes (.visiting s.registry.modules) (by rw [phase]; rfl)
          (fun _ ↦ .inl (by rw [phase]; rfl)) rfl rfl rfl rfl rfl, frame_putCycle _ _⟩
      · cases h
  | visiting modules => exact visiting_advances phase h
  | opening m rest t =>
    simp only [stepCycle, phase, Option.ite_none_right_eq_some, Option.some_inj] at h
    obtain ⟨-, rfl⟩ := h
    exact enterModule_advances (by rw [phase]; rfl) (by rw [phase]; rfl)
  | spawning m left rest => exact spawning_advances phase h
  | joining m failure rest => exact joining_advances phase h
  | starting m left rest => exact starting_advances phase h
  | awaiting m left rest => exact awaiting_advances phase h
  | closing m failure rest t =>
    simp only [stepCycle, phase, Option.ite_none_left_eq_some] at h
    obtain ⟨-, h⟩ := h
    cases failure with
    | none =>
      cases h
      exact ⟨_, .passes (.visiting rest) (by rw [phase]; rfl)
        (fun _ ↦ .inl (by rw [phase]; rfl)) rfl rfl
        rfl rfl rfl, frame_putCycle _ _⟩
    | some e =>
      cases h
      exact failCycle_advances (by rw [phase]; rfl) e
  | ended r => simp [stepCycle, phase] at h

end Phases

end Scheduler

end MetricsAgent
