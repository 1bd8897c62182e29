import MetricsAgent.Proofs.Scheduler.Gate
import MetricsAgent.Proofs.Scheduler.Invariant

/-!
# Turns at the gate and at the pool

`Scheduler.Advance` tells what a turn makes of the collectors of a cycle.  Here is the other half:
what the turn does at the gate and at the pool, what it writes into the log of invocations, and
which ends it has heard of.

* `Scheduler.stepCycle_crosses` says it for the turns of cycles (`Scheduler.Crossing`),
* `Scheduler.stepInvocation_retires` for those of invocations (`Scheduler.Retires`),
* `Scheduler.drop_passes` for cycles that nobody waits for any more.

A turn of a cycle does one of two things: it does something at the gate, or nothing, and leaves the
pool and the log alone; or it spawns an invocation, which takes a permit in parallel mode and a
share of the gate, and is logged.  So whoever is interested in the gate and the pool has two cases,
and not one for each phase.

Where a cycle stands with the gate is told by its phase (`CyclePhase.stand`): it has not asked, it
is waiting, it is let through, or it has left.
-/

set_option autoImplicit false

namespace MetricsAgent

namespace Scheduler

/-! ## Stands

A cycle that is not there any more has left the gate. -/

namespace CyclePhase

/-- Where a cycle in this phase stands with the gate. -/
def stand : CyclePhase → Stand
  | arriving => .outside
  | queued => .queued
  | ended _ => .gone
  | _ => .inside

/-- Whether cycles get into this phase in the given mode. -/
def suits (parallel : Bool) : CyclePhase → Bool
  | spawning .. | joining .. => parallel
  | starting .. | awaiting .. => !parallel
  | _ => true

end CyclePhase

/-- Where a cycle stands with the gate. -/
def standOf (w : Scheduler) (id : Nat) : Stand := ((w.cycle? id).map (·.phase.stand)).getD .gone

theorem standOf_of_cycle? {w : Scheduler} {id : Nat} {c : Cycle} (h : w.cycle? id = some c) :
    w.standOf id = c.phase.stand := by
  rw [standOf, h]
  rfl

/-! ## The log of invocations

The log is the part of the history that is about invocations.  What was spawned and what is gone can
be read off it. -/

/-- Whether an event is about an invocation: it is spawned, it calls its collector, or it is
gone. -/
def Event.isCrew : Event → Bool
  | .spawned .. | .started .. | .gone .. => true
  | _ => false

/-- What happened to invocations, in order. -/
def log (w : Scheduler) : List Event := (w.history.toList.map Prod.snd).filter (·.isCrew)

theorem log_note_of_crew {w : Scheduler} {e : Event} (h : e.isCrew = true) :
    (w.note e).log = w.log ++ [e] := by
  simp [log, note, h]

theorem log_note_of_not_crew {w : Scheduler} {e : Event} (h : e.isCrew = false) :
    (w.note e).log = w.log := by
  simp [log, note, h]

/-- The collector of an invocation of a cycle that is spawned. -/
def Event.start? (cycle : Nat) : Event → Option Target
  | .spawned c t => if c = cycle then some t else none
  | _ => none

/-- The collectors for which a cycle has spawned invocations. -/
def starts (w : Scheduler) (cycle : Nat) : List Target := w.log.filterMap (·.start? cycle)

theorem ends_eq_log (w : Scheduler) (cycle : Nat) :
    w.ends cycle = w.log.filterMap (·.end? cycle) := by
  rw [ends, log, List.filterMap_filter, List.filterMap_map]
  congr 1
  funext e
  obtain ⟨time, e⟩ := e
  cases e <;> rfl

section Log

variable {w w' : Scheduler} {e : Event}

/-- An event may be the start of an invocation. -/
theorem starts_of_log (h : w'.log = w.log ++ [e]) (cycle : Nat) :
    w'.starts cycle = w.starts cycle ++ (e.start? cycle).toList := by
  rw [starts, h, List.filterMap_append, starts]
  cases hs : e.start? cycle <;> simp [hs]

/-- An event may be the end of an invocation. -/
theorem ends_of_log (h : w'.log = w.log ++ [e]) (cycle : Nat) :
    w'.ends cycle = w.ends cycle ++ (e.end? cycle).toList := by
  rw [ends_eq_log, h, List.filterMap_append, ends_eq_log]
  cases he : e.end? cycle <;> simp [he]

end Log

/-! ## Ends that a cycle hears of

An end goes to the cycle when the invocation leaves, and is entered into the report in a later turn
of the cycle. -/

/-- What a counter of collections grows by when the cycle enters an end: only an aborted invocation
was not counted before. -/
def CollectCounter.dues : CollectCounter → InvocationEnd → Nat
  | cancelled, .aborted => 1
  | _, _ => 0

/-- A turn of a cycle enters the first end that it has heard of, or none. -/
inductive Hears (c c' : Cycle) (m m' : SelfMetrics) : Prop where
  | nothing (arrived : c'.arrived = c.arrived)
    (collect : ∀ k : CollectCounter, k.read m' = k.read m)
  | one (t : Target) (e : InvocationEnd) (arrived : c.arrived = (t, e) :: c'.arrived)
    (collect : ∀ k : CollectCounter, k.read m' = k.read m + (k.dues e).toUInt64)

/-! ## Turns of cycles

The functions that end a cycle, enter a module or spawn an invocation are used in several phases,
and have their lemmas first. -/

/-- A scheduler before and after something that leaves the pool and the log alone, and that at most
tells invocations of a cycle to stop. -/
structure Still (id : Nat) (w w' : Scheduler) : Prop where
  permits : w'.permits = w.permits
  log : w'.log = w.log
  next : w'.next = w.next
  invocations : ∃ g, Marks id g ∧ w'.invocations = w.invocations.map g

theorem still_of_eq {id : Nat} {w w' : Scheduler} (permits : w'.permits = w.permits)
    (log : w'.log = w.log) (next : w'.next = w.next)
    (invocations : w'.invocations = w.invocations) : Still id w w' :=
  ⟨permits, log, next, fun i ↦ i, fun _ ↦ .inl rfl, invocations.trans (List.map_id' _).symm⟩

/-- A turn of the cycle `c` spawns an invocation, with a permit in parallel mode. -/
structure Spawns (s : SchedulerSetup) (w : Scheduler) (c : Cycle) (w' : Scheduler)
    (c' : Cycle) : Prop
    where
  before : c.phase.stand = .inside
  after : c'.phase.stand = .inside
  gate : w'.gate = w.gate.share
  /-- In sequential mode no other invocation of the cycle is on its way. -/
  calm : s.config.parallel = false → c.phase.isCalm = true
  uncalm : c'.phase.isCalm = false
  invocations : ∃ t, w'.invocations =
      w.invocations ++ [⟨w.next, c.id, c.token, t, s.config.parallel, false, .spawned⟩] ∧
    w'.log = w.log ++ [.spawned c.id t]
  permits : w.permits = w'.permits + if s.config.parallel then 1 else 0
  next : w'.next = w.next + 1

/-- What a turn of the cycle `c` does besides what it makes of the collectors. -/
structure Crossing (s : SchedulerSetup) (w : Scheduler) (c : Cycle) (w' : Scheduler) (c' : Cycle) :
    Prop where
  id : c'.id = c.id
  cycles : w'.cycles = (w.putCycle c').cycles
  suits : c'.phase.suits s.config.parallel = true
  heard : Hears c c' w.metrics w'.metrics
  effect : Gate.Passing c.id w.gate c.phase.stand w'.gate c'.phase.stand ∧ Still c.id w w' ∨
    Spawns s w c w' c'
  /-- How none of the invocations is on its way any more. -/
  calm : c'.phase.isCalm = true →
    c.phase.isCalm = true ∧ c'.arrived = c.arrived ∨ w.invocationsOf c.id = [] ∧ c'.arrived = [] ∨
      c.phase.isAwaiting = true ∧ c.arrived.length = c'.arrived.length + 1
  /-- How just one of them is. -/
  awaiting : c'.phase.isAwaiting = true → c.phase.isCalm = true ∧ c'.arrived = c.arrived ∧
    (w'.invocationsOf c.id).length = (w.invocationsOf c.id).length + 1

/-- Some turn of the cycle `c` crosses over to `w'`. -/
def Crosses (s : SchedulerSetup) (w : Scheduler) (c : Cycle) (w' : Scheduler) : Prop :=
  ∃ c', Crossing s w c w' c'

section Turns

variable {s : SchedulerSetup} {w w' : Scheduler} {c c' : Cycle}

theorem Crossing.note (h : Crossing s w c w' c') {e : Event} (he : e.isCrew = false)
    (unspawned : c'.phase.isAwaiting = false) (inert : c'.phase.isCalm = true) :
    Crossing s w c (w'.note e) c' where
  id := h.id
  cycles := h.cycles
  suits := h.suits
  heard := h.heard
  effect := by
    rcases h.effect with ⟨passing, still⟩ | spawns
    · exact .inl ⟨passing, still.permits, (log_note_of_not_crew he).trans still.log, still.next,
        still.invocations⟩
    · rw [spawns.uncalm] at inert
      cases inert
  calm := h.calm
  awaiting ha := by rw [unspawned] at ha; cases ha

/-- The cycle goes from phase to phase, and nothing else happens but that it may enter an end. -/
theorem crossing_put {m : SelfMetrics} (id : c'.id = c.id) (heard : Hears c c' w.metrics m)
    (stand : c'.phase.stand = c.phase.stand) (suits : c'.phase.suits s.config.parallel = true)
    (calm : c'.phase.isCalm = true →
      c.phase.isCalm = true ∧ c'.arrived = c.arrived ∨ w.invocationsOf c.id = [] ∧ c'.arrived = [] ∨
        c.phase.isAwaiting = true ∧ c.arrived.length = c'.arrived.length + 1)
    (awaiting : c'.phase.isAwaiting = false) :
    Crossing s w c ({ w with metrics := m }.putCycle c') c' where
  id := id
  cycles := rfl
  suits := suits
  heard := heard
  effect := .inl ⟨by rw [stand]; exact .stays _ _, still_of_eq rfl rfl rfl rfl⟩
  calm := calm
  awaiting ha := by rw [awaiting] at ha; cases ha

/-- The cycle goes from one phase without invocations to another. -/
theorem crossing_calm {φ : CyclePhase} (report : CycleReport) (calm : c.phase.isCalm = true)
    (stand : φ.stand = c.phase.stand) (suits : φ.suits s.config.parallel = true)
    (awaiting : φ.isAwaiting = false) :
    Crossing s w c (w.putCycle { c with phase := φ, report := report })
      { c with phase := φ, report := report } :=
  crossing_put rfl (.nothing rfl fun _ ↦ rfl) stand suits (fun _ ↦ .inl ⟨calm, rfl⟩) awaiting

/-- The cycle is over. -/
theorem crossing_closed {v : Scheduler} {m : SelfMetrics} {gate : Gate} {report : CycleReport}
    {r : Except CycleError CycleReport} (calm : c.phase.isCalm = true)
    (collect : ∀ k : CollectCounter, k.read m = k.read w.metrics)
    (passing : Gate.Passing c.id w.gate c.phase.stand gate .gone)
    (hv : v = { w with metrics := m, gate := gate }) :
    Crossing s w c ((v.putCycle { c with phase := .ended r, report := report }).note (.closed c.id))
      { c with phase := .ended r, report := report } where
  id := rfl
  cycles := by rw [hv]; rfl
  suits := rfl
  heard := .nothing rfl (by rw [hv]; exact collect)
  effect := by
    refine .inl ⟨by rw [hv]; exact passing, still_of_eq ?_ ?_ ?_ ?_⟩
    · rw [hv]; rfl
    · rw [log_note_of_not_crew rfl, hv]; rfl
    · rw [hv]; rfl
    · rw [hv]; rfl
  calm _ := .inl ⟨calm, rfl⟩
  awaiting h := nomatch h

theorem endBeforeStart_crosses {gate : Gate} (calm : c.phase.isCalm = true)
    (passing : Gate.Passing c.id w.gate c.phase.stand gate .gone) :
    Crosses s w c ({ w with gate := gate }.endBeforeStart s c) :=
  ⟨_, crossing_closed calm (fun k ↦ by cases k <;> rfl) passing rfl⟩

theorem endCycle_crosses (phase : c.phase = .visiting []) : Crosses s w c (w.endCycle c) := by
  have calm : c.phase.isCalm = true := by rw [phase]; rfl
  have passing : Gate.Passing c.id w.gate c.phase.stand w.gate.release .gone := by
    rw [phase]
    exact .closes _
  cases fired : w.isFired c.token with
  | true =>
    simp only [endCycle, fired, if_true]
    exact ⟨_, crossing_closed calm (fun k ↦ by cases k <;> rfl) passing rfl⟩
  | false =>
    simp only [endCycle, fired, Bool.false_eq_true, if_false]
    exact ⟨_, crossing_closed calm (fun k ↦ by cases k <;> rfl) passing rfl⟩

theorem failCycle_crosses {m : CollectorModule} {failure : Option CycleError}
    {rest : List CollectorModule} {until_ : Nat} (phase : c.phase = .closing m failure rest until_)
    (e : CycleError) : Crosses s w c (w.failCycle c e) := by
  have calm : c.phase.isCalm = true := by rw [phase]; rfl
  have passing : Gate.Passing c.id w.gate c.phase.stand w.gate.release .gone := by
    rw [phase]
    exact .closes _
  have closed : Crossing s w c (w.failCycle c e) { c with phase := .ended (.error e) } :=
    crossing_closed calm (fun k ↦ by cases k <;> rfl) passing rfl
  exact ⟨_, closed⟩

theorem enterModule_crosses (m : CollectorModule) (rest : List CollectorModule)
    (calm : c.phase.isCalm = true) (inside : c.phase.stand = .inside) :
    Crosses s w c (w.enterModule s c m rest) := by
  cases mode : s.config.parallel with
  | true =>
    simp only [enterModule, mode, if_true]
    exact ⟨_, crossing_calm c.report calm inside.symm mode rfl⟩
  | false =>
    simp only [enterModule, mode, Bool.false_eq_true, if_false]
    exact ⟨_, crossing_calm c.report calm inside.symm (by rw [mode]; rfl) rfl⟩

/-- The hook after the collectors begins, in a cycle that may have entered a last end. -/
theorem closeModule_crosses {arrived : List (Target × InvocationEnd)} {report : CycleReport}
    {metrics : SelfMetrics} (m : CollectorModule) (failure : Option CycleError)
    (rest : List CollectorModule) (inside : c.phase.stand = .inside)
    (heard : Hears c { c with arrived := arrived } w.metrics metrics)
    (calm : c.phase.isCalm = true ∧ arrived = c.arrived ∨ w.invocationsOf c.id = [] ∧ arrived = [] ∨
      c.phase.isAwaiting = true ∧ c.arrived.length = arrived.length + 1) :
    Crosses s w c ({ w with metrics := metrics }.closeModule
      { c with arrived := arrived, report := report } m failure rest) := by
  have put (until_ : Nat) : Crossing s w c ({ w with metrics := metrics }.putCycle
      { c with phase := .closing m failure rest until_, arrived := arrived, report := report })
      { c with phase := .closing m failure rest until_, arrived := arrived, report := report } := by
    refine crossing_put rfl ?_ inside.symm rfl (fun _ ↦ calm) rfl
    cases heard with
    | nothing same collect => exact .nothing same collect
    | one t e first collect => exact .one t e first collect
  cases hooks : m.hooks with
  | none =>
    simp only [closeModule, hooks]
    exact ⟨_, put w.now⟩
  | some h =>
    simp only [closeModule, hooks]
    exact ⟨_, (put (w.now + h.afterMs)).note rfl rfl rfl⟩

theorem spawn_crosses {φ : CyclePhase} {m : CollectorModule} {k : Collector} {pooled : Bool}
    (mode : pooled = s.config.parallel) (before : c.phase.stand = .inside)
    (after : φ.stand = .inside) (calm : s.config.parallel = false → c.phase.isCalm = true)
    (uncalm : φ.isCalm = false) (suits : φ.suits s.config.parallel = true)
    (sequential : φ.isAwaiting = true → s.config.parallel = false)
    (permits : s.config.parallel = true → 0 < w.permits) :
    Crosses s w c ((w.spawn c m k pooled).putCycle { c with phase := φ }) := by
  subst mode
  refine ⟨{ c with phase := φ }, ?_⟩
  exact
    { id := rfl
      cycles := rfl
      suits := suits
      heard := .nothing rfl fun _ ↦ rfl
      effect := .inr
        { before := before
          after := after
          gate := rfl
          calm := calm
          uncalm := uncalm
          invocations := ⟨⟨m.name, k⟩, rfl, log_note_of_crew rfl⟩
          permits := by
            show w.permits = (if s.config.parallel then w.permits - 1 else w.permits) + _
            split
            · have := permits ‹_›
              omega
            · rfl
          next := rfl }
      calm := fun hc ↦ by rw [show φ.isCalm = true from hc] at uncalm; cases uncalm
      awaiting := fun ha ↦ by
        refine ⟨calm (sequential ha), rfl, ?_⟩
        show ((w.spawn c m k _).invocationsOf c.id).length = _
        simp [invocationsOf, spawn, note] }

/-- A cycle without failure so far enters the end of an invocation, or the end of another one after
its failure. -/
theorem hears_enter {t : Target} {e : InvocationEnd} {arrived : List (Target × InvocationEnd)}
    {φ : CyclePhase} (first : c.arrived = (t, e) :: arrived) :
    Hears c { (w.enter c e arrived).2 with phase := φ } w.metrics
      (w.enter c e arrived).1.metrics := by
  refine .one t e first fun k ↦ ?_
  cases e <;> cases k <;> first | rfl | exact (UInt64.add_zero _).symm

/-- Where a cycle enters the end of an invocation and goes on to a phase. -/
theorem enter_crosses {φ : CyclePhase} {t : Target} {e : InvocationEnd}
    {arrived : List (Target × InvocationEnd)} (first : c.arrived = (t, e) :: arrived)
    (stand : φ.stand = c.phase.stand) (suits : φ.suits s.config.parallel = true)
    (calm : φ.isCalm = true → c.phase.isAwaiting = true) (awaiting : φ.isAwaiting = false) :
    Crosses s w c
      ((w.enter c e arrived).1.putCycle { (w.enter c e arrived).2 with phase := φ }) := by
  refine ⟨_, crossing_put rfl (hears_enter first) stand suits (fun hc ↦ .inr (.inr ⟨calm hc, ?_⟩))
    awaiting⟩
  rw [first]
  rfl

/-! ## One lemma for each phase

A turn in a phase ends the cycle, passes to another phase, spawns an invocation or enters an end,
and the lemmas above cover these. -/

theorem visiting_crosses {modules : List CollectorModule} (phase : c.phase = .visiting modules)
    (h : w.stepCycle s c = some w') : Crosses s w c w' := by
  have calm : c.phase.isCalm = true := by rw [phase]; rfl
  have inside : c.phase.stand = .inside := by rw [phase]; rfl
  cases modules with
  | nil =>
    simp only [stepCycle, phase, Option.some_inj] at h
    subst h
    exact endCycle_crosses phase
  | cons m rest =>
    simp only [stepCycle, phase] at h
    split at h
    · cases h
      exact ⟨_, crossing_calm _ calm inside.symm rfl rfl⟩
    · cases hooks : m.hooks with
      | none =>
        simp only [hooks, Option.some_inj] at h
        subst h
        exact enterModule_crosses m rest calm inside
      | some k =>
        simp only [hooks, Option.some_inj] at h
        subst h
        have opens :
            Crossing s w c (w.putCycle { c with phase := .opening m rest (w.now + k.beforeMs) })
            { c with phase := .opening m rest (w.now + k.beforeMs) } :=
          crossing_calm c.report calm inside.symm rfl rfl
        exact ⟨_, opens.note rfl rfl rfl⟩

theorem spawning_crosses {m : CollectorModule} {left : List Collector} {rest : List CollectorModule}
    (phase : c.phase = .spawning m left rest) (suits : c.phase.suits s.config.parallel = true)
    (h : w.stepCycle s c = some w') : Crosses s w c w' := by
  have parallel : s.config.parallel = true := by rw [phase] at suits; exact suits
  have inside : c.phase.stand = .inside := by rw [phase]; rfl
  cases left with
  | nil =>
    simp only [stepCycle, phase, Option.some_inj] at h
    subst h
    exact ⟨_, crossing_put rfl (.nothing rfl fun _ ↦ rfl) inside.symm parallel
      (fun h ↦ by cases h) rfl⟩
  | cons k left =>
    simp only [stepCycle, phase] at h
    split at h
    · cases h
      exact ⟨_, crossing_put rfl (.nothing rfl fun _ ↦ rfl) inside.symm parallel
        (fun h ↦ by cases h) rfl⟩
    · split at h
      · cases h
        exact spawn_crosses parallel.symm inside rfl (fun hs ↦ by rw [parallel] at hs; cases hs) rfl
          parallel (fun h ↦ by cases h) fun _ ↦ ‹_›
      · cases h

theorem joining_crosses {m : CollectorModule} {failure : Option CycleError}
    {rest : List CollectorModule} (phase : c.phase = .joining m failure rest)
    (suits : c.phase.suits s.config.parallel = true) (h : w.stepCycle s c = some w') :
    Crosses s w c w' := by
  have parallel : s.config.parallel = true := by rw [phase] at suits; exact suits
  have inside : c.phase.stand = .inside := by rw [phase]; rfl
  cases first : c.arrived with
  | nil =>
    simp only [stepCycle, phase, first, Option.ite_none_right_eq_some, Option.some_inj,
      List.isEmpty_iff] at h
    obtain ⟨gone, rfl⟩ := h
    exact closeModule_crosses m failure rest inside (.nothing rfl fun _ ↦ rfl)
      (.inr (.inl ⟨gone, first⟩))
  | cons a arrived =>
    obtain ⟨t, e⟩ := a
    simp only [stepCycle, phase, first] at h
    have goes : Crosses s w c ((w.enter c e arrived).1.putCycle
        { (w.enter c e arrived).2 with phase := c.phase }) :=
      enter_crosses first rfl suits (by simp [phase, CyclePhase.isCalm]) (by rw [phase]; rfl)
    cases failure with
    | some err =>
      have h : some ((w.enter c e arrived).1.putCycle (w.enter c e arrived).2) = some w' := by
        cases e <;> exact h
      cases h
      exact goes
    | none =>
      cases e with
      | fatal err =>
        cases h
        refine ⟨{ c with phase := .joining m (some err) rest, arrived := arrived }, ?_⟩
        exact
          { id := rfl
            cycles := rfl
            suits := parallel
            heard := .one t _ first fun k ↦ by cases k <;> exact (UInt64.add_zero _).symm
            effect :=
              .inl ⟨by rw [phase]; exact .stays _ _, rfl, rfl, rfl, _, marks_abortAll c.id, rfl⟩
            calm := fun h ↦ by cases h
            awaiting := fun h ↦ by cases h }
      | _ => cases h; exact goes

theorem starting_crosses {m : CollectorModule} {left : List Collector} {rest : List CollectorModule}
    (phase : c.phase = .starting m left rest) (suits : c.phase.suits s.config.parallel = true)
    (h : w.stepCycle s c = some w') : Crosses s w c w' := by
  have sequential : s.config.parallel = false := by
    rw [phase] at suits
    exact Bool.not_eq_true' _ ▸ suits
  have calm : c.phase.isCalm = true := by rw [phase]; rfl
  have inside : c.phase.stand = .inside := by rw [phase]; rfl
  cases left with
  | nil =>
    simp only [stepCycle, phase, Option.some_inj] at h
    subst h
    exact closeModule_crosses m none rest inside (.nothing rfl fun _ ↦ rfl) (.inl ⟨calm, rfl⟩)
  | cons k left =>
    simp only [stepCycle, phase] at h
    split at h
    · cases h
      exact ⟨_, crossing_calm _ calm inside.symm (by rw [sequential]; rfl) rfl⟩
    · cases h
      exact spawn_crosses sequential.symm inside rfl (fun _ ↦ calm) rfl (by rw [sequential]; rfl)
        (fun _ ↦ sequential) fun hp ↦ by rw [sequential] at hp; cases hp

theorem awaiting_crosses {m : CollectorModule} {left : List Collector} {rest : List CollectorModule}
    (phase : c.phase = .awaiting m left rest) (suits : c.phase.suits s.config.parallel = true)
    (h : w.stepCycle s c = some w') : Crosses s w c w' := by
  have sequential : s.config.parallel = false := by
    rw [phase] at suits
    exact Bool.not_eq_true' _ ▸ suits
  have inside : c.phase.stand = .inside := by rw [phase]; rfl
  cases first : c.arrived with
  | nil => simp [stepCycle, phase, first] at h
  | cons a arrived =>
    obtain ⟨t, e⟩ := a
    simp only [stepCycle, phase, first] at h
    cases e with
    | fatal err =>
      cases h
      refine closeModule_crosses m (some err) rest inside (.one t _ first fun k ↦ ?_)
        (.inr (.inr ⟨by rw [phase]; rfl, by rw [first]; rfl⟩))
      cases k <;> exact (UInt64.add_zero _).symm
    | _ =>
      cases h
      exact enter_crosses first inside.symm (by rw [sequential]; rfl)
        (fun _ ↦ by rw [phase]; rfl) rfl

/-- **What a turn of a cycle does at the gate and at the pool.** -/
theorem stepCycle_crosses (suits : c.phase.suits s.config.parallel = true)
    (h : w.stepCycle s c = some w') : Crosses s w c w' := by
  cases phase : c.phase with
  | arriving =>
    simp only [stepCycle, phase] at h
    split at h
    · cases h
      exact endBeforeStart_crosses (by rw [phase]; rfl) (by rw [phase]; exact .withdraws _)
    · cases h
      exact ⟨{ c with phase := .queued }, rfl, rfl, rfl, .nothing rfl fun _ ↦ rfl,
        .inl ⟨by rw [phase]; exact .arrives _, still_of_eq rfl rfl rfl rfl⟩,
        (fun _ ↦ .inl ⟨by rw [phase]; rfl, rfl⟩), fun h ↦ by cases h⟩
  | queued =>
    simp only [stepCycle, phase] at h
    split at h
    · cases h
      exact endBeforeStart_crosses (by rw [phase]; rfl) (by rw [phase]; exact .leaves _)
    · split at h
      · rename_i holder
        cases h
        exact ⟨{ c with phase := .visiting s.registry.modules }, rfl, rfl, rfl,
          .nothing rfl fun _ ↦ rfl,
          .inl ⟨by rw [phase]; exact .enters _ holder, still_of_eq rfl rfl rfl rfl⟩,
          (fun _ ↦ .inl ⟨by rw [phase]; rfl, rfl⟩), fun h ↦ by cases h⟩
      · cases h
  | visiting modules => exact visiting_crosses phase h
  | opening m rest t =>
    simp only [stepCycle, phase, Option.ite_none_right_eq_some, Option.some_inj] at h
    obtain ⟨-, rfl⟩ := h
    exact enterModule_crosses m rest (by rw [phase]; rfl) (by rw [phase]; rfl)
  | spawning m left rest => exact spawning_crosses phase suits h
  | joining m failure rest => exact joining_crosses phase suits h
  | starting m left rest => exact starting_crosses phase suits h
  | awaiting m left rest => exact awaiting_crosses phase suits h
  | closing m failure rest t =>
    simp only [stepCycle, phase, Option.ite_none_left_eq_some] at h
    obtain ⟨-, h⟩ := h
    cases failure with
    | none =>
      cases h
      exact ⟨_, crossing_calm c.report (by rw [phase]; rfl) (by rw [phase]; rfl) rfl rfl⟩
    | some e =>
      cases h
      exact failCycle_crosses phase e
  | ended r => simp [stepCycle, phase] at h

end Turns

/-! ## Turns of invocations

An invocation gives back its share of the gate, and its permit if it has one. -/

/-- A scheduler before and after something that no gate, pool or log shows. -/
structure Quiet (w v : Scheduler) : Prop where
  next : v.next = w.next
  gate : v.gate = w.gate
  permits : v.permits = w.permits
  invocations : v.invocations = w.invocations
  cycles : v.cycles = w.cycles
  log : v.log = w.log

theorem Quiet.refl (w : Scheduler) : Quiet w w := ⟨rfl, rfl, rfl, rfl, rfl, rfl⟩

/-- An invocation gives back what it holds. -/
def Retires (w : Scheduler) (i : Invocation) (w' : Scheduler) : Prop :=
  ∃ v e, Quiet w v ∧ w' = v.retire i e

section Turns

variable {s : SchedulerSetup} {w w' v : Scheduler} {i : Invocation}

theorem Quiet.retireCancelled (h : Quiet w v) (i : Invocation) (started : Nat) :
    Retires w i (v.retireCancelled i started) :=
  ⟨v.record started .cancelled, _, ⟨h.next, h.gate, h.permits, h.invocations, h.cycles, h.log⟩, rfl⟩

theorem Quiet.retireWith (h : Quiet w v) (i : Invocation) (started : Nat) (r : CollectResult) :
    Retires w i (v.retireWith i started r) := by
  have recorded (e : SelfMetrics.CollectEnd) : Quiet w (v.record started e) :=
    ⟨h.next, h.gate, h.permits, h.invocations, h.cycles, h.log⟩
  cases r with
  | batch l => exact ⟨_, _, recorded .ok, rfl⟩
  | failure e =>
    rw [Scheduler.retireWith]
    split
    · exact h.retireCancelled i started
    · split
      · exact ⟨_, _, recorded .error, rfl⟩
      · exact ⟨_, _, recorded .error, rfl⟩
  | crash text => exact ⟨v, _, h, rfl⟩

theorem retireLate_retires (w : Scheduler) (i : Invocation) (started : Nat) :
    Retires w i (w.retireLate i started) := by
  rw [retireLate]
  split
  · exact (Quiet.refl w).retireCancelled i started
  · refine ⟨Scheduler.record { w with
      metrics := { w.metrics with collectorTimeouts := w.metrics.collectorTimeouts + 1 } }
        started .error,
      .timedOut, ⟨rfl, rfl, rfl, rfl, rfl, rfl⟩, rfl⟩

/-- **What a turn of an invocation does at the gate and at the pool**: its call begins, or it gives
back what it holds. -/
theorem stepInvocation_retires (h : w.stepInvocation s i = some w') :
    w' = w.beginCall s i ∨ Retires w i w' := by
  rw [stepInvocation] at h
  split at h
  · cases h
    exact .inr ⟨w, _, .refl w, rfl⟩
  cases phase : i.phase with
  | spawned =>
    simp only [phase, Option.some_inj] at h
    split at h
    · subst h
      exact .inr ((Quiet.refl w).retireCancelled i w.now)
    · exact .inl h.symm
  | collecting b started wake limit =>
    simp only [phase] at h
    split at h
    · cases h
      exact .inr ((Quiet.refl w).retireCancelled i started)
    split at h
    · cases h
      have quiet : Quiet w (w.note (.gaveUp i.cycle i.target)) :=
        ⟨rfl, rfl, rfl, rfl, rfl, log_note_of_not_crew rfl⟩
      exact .inr (quiet.retireWith i started _)
    split at h
    · cases h
      refine .inr (Quiet.retireWith ?_ i started _)
      split
      · exact ⟨rfl, rfl, rfl, rfl, rfl, log_note_of_not_crew rfl⟩
      · exact ⟨rfl, rfl, rfl, rfl, rfl, log_note_of_not_crew rfl⟩
    split at h
    · cases h
      exact .inr (retireLate_retires w i started)
    · cases h

end Turns

/-! ## Dropped cycles

A cycle that nobody waits for any more leaves the gate, and its invocations are told to stop. -/

/-- **What happens at the gate and at the pool when nobody waits for a cycle any more.** -/
theorem drop_passes (w : Scheduler) (id : Nat) :
    Gate.Passing id w.gate (w.standOf id) (w.drop id).gate .gone ∧ Still id w (w.drop id) := by
  cases hc : w.cycle? id with
  | none =>
    have hdrop : w.drop id = w := by
      rw [drop, show w.cycles.find? (·.id = id) = none from hc]
    rw [hdrop, standOf, hc]
    exact ⟨.stays _ _, still_of_eq rfl rfl rfl rfl⟩
  | some c =>
    have hfind : w.cycles.find? (·.id = id) = some c := hc
    rw [standOf_of_cycle? hc]
    have inside (stand : c.phase.stand = .inside) (hdrop : w.drop id =
        ({ w with cycles := w.cycles.filter (·.id ≠ id) }.abortAll id).releaseGate) :
        Gate.Passing id w.gate c.phase.stand (w.drop id).gate .gone ∧ Still id w (w.drop id) := by
      rw [hdrop, stand]
      exact ⟨.closes _, rfl, rfl, rfl, _, marks_abortAll id, rfl⟩
    cases phase : c.phase with
    | arriving =>
      simp only [drop, hfind, phase]
      exact ⟨.withdraws _, still_of_eq rfl rfl rfl rfl⟩
    | queued =>
      simp only [drop, hfind, phase]
      exact ⟨.leaves _, still_of_eq rfl rfl rfl rfl⟩
    | ended r =>
      simp only [drop, hfind, phase]
      exact ⟨.stays _ _, still_of_eq rfl rfl rfl rfl⟩
    | _ => rw [← phase]; exact inside (by rw [phase]; rfl) (by simp only [drop, hfind, phase])

end Scheduler

end MetricsAgent
