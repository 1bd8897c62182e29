import MetricsAgent.Proofs.Scheduler.Tour

/-!
# What a failure stops

An invocation that fails does not stop its cycle by itself: the cycle must come to notice it.  From
then on, or when nobody waits for the cycle any more, all of its invocations are told to stop
(`Scheduler.halted_of_trail`), and it begins no call.

A cycle that works in sequence waits for each invocation before it goes on, so it notices a failure
before it begins anything else.  One that works in parallel first spawns invocations for all
collectors of the module, for which it may have to wait, and does not look at the ends of
invocations before.  Until it does, it may call other collectors of the module
(`Scheduler.failure_halts_cycle`, `Scheduler.not_failure_halts_cycle_at_once`).

What is called after a failure is bounded in three ways (`Scheduler.Halts`).

* It is a collector of the same module.
* It is called before the cycle has noticed the failure.
* In sequential mode there is none.

And the cycle returns no report.  That it returns at all is the subject of
`Proofs.Scheduler.Progress`.
-/

set_option autoImplicit false

namespace MetricsAgent

namespace Scheduler

/-! ## Noticed failures

A cycle is stopped when its phase has a failure, or when it is not there. -/

/-- The cycle has noticed a failure, or nobody waits for it any more. -/
def IsStopped (w : Scheduler) (id : Nat) : Prop :=
  ∀ c, w.cycle? id = some c → c.phase.failure?.isSome = true

/-- All invocations of stopped cycles were told to stop. -/
def Halted (w : Scheduler) : Prop :=
  ∀ id, w.IsStopped id → ∀ i ∈ w.invocationsOf id, i.aborting = true

section Halted

variable {s : SchedulerSetup} {metrics : SelfMetrics} {l : List (Passage Scheduler Move)}
  {w w' : Scheduler} {m : Move} {c c' : Cycle} {es : List Event} {new : List Invocation} {id : Nat}

/-- A failure that was noticed stays so, and no invocation is spawned after it. -/
theorem Stride.failure_isSome (h : Stride s w c c' es new)
    (failed : c.phase.failure?.isSome = true) : c'.phase.failure?.isSome = true ∧ new = [] := by
  have elsewhere {φ : CyclePhase} {p : Prop} (phase : c.phase = φ)
      (going : φ.failure? = none) : p := by
    rw [phase, going] at failed
    cases failed
  cases h with
  | enters => exact ⟨failed, rfl⟩
  | errs => exact ⟨rfl, rfl⟩
  | closes arrived until_ phase =>
    rcases phase with ⟨⟨phase, -⟩ | ⟨phase, -⟩, -⟩ | ⟨left, t, e, phase, -⟩
    · rw [phase] at failed
      exact ⟨failed, rfl⟩
    · exact elsewhere phase rfl
    · exact elsewhere phase rfl
  | endsEarly phase => rcases phase with phase | phase <;> exact elsewhere phase rfl
  | unfolds φ phase => rcases phase with ⟨phase, -⟩ | ⟨t, phase, -⟩ <;> exact elsewhere phase rfl
  | skips φ phase | spawns φ pooled phase =>
    rcases phase with ⟨phase, -⟩ | ⟨phase, -⟩ <;> exact elsewhere phase rfl
  | arrives phase | passes phase | skipsModule phase | opens _ _ phase | gathers phase | fails phase
  | takes phase | goesOn phase | ends phase => exact elsewhere phase rfl

/-- A cycle that is stopped stays so. -/
theorem IsStopped.move (h : w.IsStopped id) (known : id < w.next) (numbered : Numbered w)
    (e : Scheduler.move s m w = some w') : w'.IsStopped id := by
  intro c' hc'
  cases fate_of_move numbered e hc' with
  | stays c more there phase => rw [phase]; exact h c there
  | isCalled new => exact absurd known (by omega)
  | turns c es new own there stride => exact (stride.failure_isSome (h c there)).1

theorem aborting_of_mem_abortAll {i : Invocation} (hi : i ∈ (w.abortAll id).invocations)
    (own : i.cycle = id) : i.aborting = true := by
  obtain ⟨j, -, rfl⟩ := List.mem_map.mp hi
  by_cases mine : j.cycle = id
  · rw [if_pos mine]
  · rw [if_neg mine] at own
    exact absurd own mine

/-- When nobody waits for a cycle any more, its invocations are told to stop. -/
theorem AllSettled.aborting_of_drop (h : AllSettled s w) (there : w.cycle? id = some c) :
    ∀ i ∈ (w.drop id).invocationsOf id, i.aborting = true := by
  have told : (w.drop id).invocationsOf id = (w.abortAll id).invocationsOf id ∨
      c.phase.isCalm = true ∧ (w.drop id).invocationsOf id = w.invocationsOf id := by
    rw [cycle?] at there
    rw [drop, there]
    dsimp only
    cases c.phase with
    | arriving | queued | ended => exact .inr ⟨rfl, rfl⟩
    | _ => exact .inl rfl
  intro i hi
  rcases told with told | ⟨calm, same⟩
  · rw [told] at hi
    obtain ⟨mem, own⟩ := mem_invocationsOf.mp hi
    exact aborting_of_mem_abortAll mem own
  · rw [same, ((h id c there).calm calm).1] at hi
    cases hi

/-- A cycle that notices the first failure has no invocations, or tells them to stop. -/
theorem Governed.aborting_of_stride (h : Governed s w) (there : w.cycle? c.id = some c)
    (e : Scheduler.move s (.turn (.cycle c.id)) w = some w') (stride : Stride s w c c' es new)
    (yields : Yields w c' es new w') (going : c.phase.failure? = none)
    (failed : c'.phase.failure?.isSome = true) :
    ∀ i ∈ w'.invocationsOf c.id, i.aborting = true := by
  have elsewhere {φ : CyclePhase} {p : Prop} (phase : c'.phase = φ)
      (none : φ.failure? = none) : p := by
    rw [phase, none] at failed
    cases failed
  have step : w.stepCycle s c = some w' := by
    rw [Scheduler.move, Scheduler.step, ← cycle?, there] at e
    exact e
  cases stride with
  | fails phase first =>
    simp only [stepCycle, phase, first, Option.some_inj] at step
    subst step
    intro i hi
    obtain ⟨mem, own⟩ := mem_invocationsOf.mp hi
    exact aborting_of_mem_abortAll mem own
  | @closes n failure rest arrived until_ phase =>
    have never (none : failure = none) {p : Prop} : p := elsewhere rfl none
    rcases phase with ⟨⟨phase, -⟩ | ⟨-, none⟩, -⟩ | ⟨left, t, err, phase, first, -⟩
    · rw [phase] at going
      exact never going
    · exact never none
    · -- The failed invocation was the only one.
      have one := (h.settled c.id c there).awaiting (by rw [phase]; rfl)
      rw [first, List.length_cons] at one
      obtain ⟨g, -, invocations⟩ := yields.invocationsOf_self rfl fun _ hi ↦ absurd hi
        List.not_mem_nil
      have none : w.invocationsOf c.id = [] := List.length_eq_zero_iff.mp (by omega)
      rw [none] at invocations
      intro i hi
      rw [invocations] at hi
      cases hi
  | enters => rw [going] at failed; cases failed
  | errs phase => rw [phase] at going; cases going
  | unfolds φ phase after => rcases after with rfl | rfl <;> exact elsewhere rfl rfl
  | skips φ phase | spawns φ pooled phase =>
    rcases phase with ⟨-, rfl⟩ | ⟨-, rfl⟩ <;> exact elsewhere rfl rfl
  | _ => exact elsewhere rfl rfl

/-- **Every move keeps the invocations of stopped cycles halted.** -/
theorem Halted.move (h : Halted w) (governed : Governed s w) (e : Scheduler.move s m w = some w') :
    Halted w' := by
  intro id stopped i hi
  obtain ⟨mem, own⟩ := mem_invocationsOf.mp hi
  -- Once stopped, a cycle starts nothing; the step that stops it aborts all that still runs.
  by_cases before : w.IsStopped id
  · cases origin_of_move e i mem with
    | kept j there same =>
      rcases same with rfl | rfl
      · exact h id before i (mem_invocationsOf.mpr ⟨there, own⟩)
      · rfl
    | begun j there spawned same =>
      subst same
      exact h id before j (mem_invocationsOf.mpr ⟨there, own⟩)
    | new c c' es new there stride mem =>
      have same : c.id = id := (stride.cycle_of_new i mem).symm.trans own
      rw [(stride.failure_isSome (before c (same ▸ there))).2] at mem
      cases mem
  · obtain ⟨c, there, going⟩ : ∃ c, w.cycle? id = some c ∧ c.phase.failure? = none := by
      simpa [IsStopped] using before
    cases hc' : w'.cycle? id with
    | some c' =>
      have failed := stopped c' hc'
      cases fate_of_move governed.inv.numbered e hc' with
      | stays d more there' phase =>
        obtain rfl : c = d := Option.some.inj (there.symm.trans there')
        rw [phase, going] at failed
        cases failed
      | isCalled new phase =>
        rw [phase] at failed
        cases failed
      | turns d es new turn there' stride yields =>
        obtain rfl : c = d := Option.some.inj (there.symm.trans there')
        obtain rfl : c.id = id := Keyed.key_of_find? there
        subst turn
        exact governed.aborting_of_stride there e stride yields going failed i hi
    | none =>
      cases m with
      | drop n =>
        cases e
        by_cases same : id = n
        · subst same
          exact governed.settled.aborting_of_drop there i hi
        · rw [(drop_drops w n).cycle?, if_neg same, there] at hc'
          cases hc'
      | turn t =>
        obtain ⟨c', there', -⟩ := exists_cycle_of_turn e there
        rw [there'] at hc'
        cases hc'
      | call token =>
        cases e
        rw [governed.inv.numbered.cycle?_call, there] at hc'
        split at hc' <;> cases hc'
      | cancel token | elapse ms =>
        cases e; rw [show w.cycle? id = none from hc'] at there; cases there

theorem halted_of_trail (h : Trail (Scheduler.move s) (start s metrics) l w) : Halted w := by
  induction h with
  | start => exact fun _ _ _ hi ↦ nomatch hi
  | move run m e ih => exact ih.move (governed_of_trail run) e

end Halted

/-! ## Calls after a failure

The collectors that are called after a failure are those of invocations which were spawned already,
or are spawned in the same module. -/

/-- Two collectors of one module. -/
def AreBeside (s : SchedulerSetup) (t t' : Target) : Prop :=
  ∃ m ∈ s.registry.modules, t ∈ m.targets m.collectors ∧ t' ∈ m.targets m.collectors

/-- What becomes of a cycle from `v` to `w`, if by `v` the invocation for `t` has failed, and
`later` are the collectors that the cycle calls after that. -/
structure Halts (s : SchedulerSetup) (id : Nat) (t : Target) (v w : Scheduler)
    (later : List Target) : Prop where
  called : w.called id = v.called id ++ later
  /-- Only collectors of the same module are called. -/
  beside : ∀ t' ∈ later, AreBeside s t t'
  sequential : s.config.parallel = false → later = []
  /-- None is called after the cycle has noticed a failure, or nobody waits for it any more. -/
  stopped : v.IsStopped id → later = []
  /-- The cycle returns no report. -/
  error : ∀ r, w.result? id = some r → ∃ e, r = .error e

section Calls

variable {s : SchedulerSetup} {metrics : SelfMetrics} {l l' : List (Passage Scheduler Move)}
  {v w w' : Scheduler} {m : Move} {c : Cycle} {id : Nat} {t : Target} {e : CycleError}

/-- A call begins in the turn of an invocation that was not told to stop. -/
theorem called_of_move (step : move s m w = some w') (id : Nat) : w'.called id = w.called id ∨
    ∃ i ∈ w.invocationsOf id, i.aborting = false ∧ w'.called id = w.called id ++ [i.target] := by
  have silent {es : List Event} (told : w'.told = w.told ++ es)
      (none : es.filterMap (·.call? id) = []) :
      w'.called id = w.called id := by
    rw [(parts_of_told told id).2.1, none, List.append_nil]
  by_cases own : w.owner? m = some id
  · cases effect_of_move step with
    | rests rests => rw [rests.owner?_eq] at own; cases own
    | strides there stride yields =>
      cases own
      exact .inl (silent yields.told stride.told_new.2.1)
    | @begins i there spawned on unmarked =>
      rw [owner?_invocation there] at own
      cases own
      refine .inr ⟨i, mem_invocationsOf.mpr ⟨List.mem_of_find?_eq_some there, rfl⟩, unmarked, ?_⟩
      rw [(parts_of_told (tells_beginCall s w i).told i.cycle).2.1]
      simp [Event.call?]
    | departs there why departs =>
      rw [owner?_invocation there] at own
      cases own
      exact .inl (silent departs.told why.told.2.1)
  · obtain ⟨es, told, owned⟩ := told_of_move step
    exact .inl (silent told (filterMap_of_ne Event.cycle_of_call? fun x hx mine ↦
      own (by rw [owned x hx, mine])))

/-- An end in the diary of the current module is about one of its collectors. -/
theorem Crew.mem_of_end {begun : List Collector} {n : CollectorModule} {first last : Nat}
    {log : List (Nat × Event)} (h : Crew id n begun first last log) {end_ : InvocationEnd}
    (mem : (t, end_) ∈ endsIn id log) : t ∈ n.targets begun := by
  obtain ⟨x, hx, told⟩ := List.mem_filterMap.mp mem
  obtain ⟨t', ht', about⟩ := h.own x hx
  obtain ⟨time, event⟩ := x
  cases event with
  | gone cycle target end' =>
    obtain ⟨-, same⟩ := Option.ite_none_right_eq_some.mp told
    cases same
    cases about
    exact ht'
  | _ => cases told

/-- An invocation that is there when another one has failed is one of the same module. -/
theorem Inside.beside {left : List Collector} {rest : List CollectorModule} {n : CollectorModule}
    {log : List (Nat × Event)} {now : Nat} {running : List Target}
    (h : Inside s id now n left rest log)
    (all : (startsIn id log).Perm ((endsIn id log).map Prod.fst ++ running))
    (failed : (t, .fatal e) ∈ endsIn id log) {t' : Target} (ht' : t' ∈ running) :
    AreBeside s t t' := by
  cases h with
  | @intro visits crew start opened begun reached later past some invocations =>
    have mem := (reached.perm all).mem_iff.mpr (List.mem_append_right _ ht')
    rw [invocations.spawned] at mem
    obtain ⟨done, modules, tour⟩ := reached
    have listed {x : Target} (hx : x ∈ n.targets begun) : x ∈ n.targets n.collectors := by
      obtain ⟨k, hk, rfl⟩ := List.mem_map.mp hx
      exact List.mem_map_of_mem (some.subset (List.mem_append_left _ hk))
    -- The modules before have ended well, so that the failure is one of this module.
    have here : (t, .fatal e) ∈ endsIn id crew := by
      rw [endsIn_append, endsIn_append, (parts_beforeEvents id opened n).2,
        List.nil_append] at failed
      rcases List.mem_append.mp failed with before | here
      · cases tour.well _ before
      · exact here
    exact ⟨n, modules ▸ List.mem_append_right _ (List.mem_cons_self ..),
      listed (invocations.mem_of_end here), listed mem⟩

/-- A cycle that works in sequence has no invocation on its way when one has failed. -/
theorem Governed.invocationsOf_of_failed (h : Governed s w) (there : w.cycle? id = some c)
    (failed : (t, .fatal e) ∈ w.ends id) (sequential : s.config.parallel = false) :
    w.invocationsOf id = [] := by
  have settled := h.settled id c there
  by_cases calm : c.phase.isCalm = true
  · exact (settled.calm calm).1
  · have suits := settled.suits
    rw [sequential] at suits
    obtain ⟨n, left, rest, phase⟩ : ∃ n left rest, c.phase = .awaiting n left rest := by
      cases phase : c.phase with
      | awaiting n left rest => exact ⟨n, left, rest, rfl⟩
      | spawning | joining => rw [phase] at suits; cases suits
      | _ => rw [phase] at calm; exact absurd rfl calm
    have one := settled.awaiting (by rw [phase]; rfl)
    obtain ⟨entered, ends, regular, -⟩ :=
      ((h.inv.cycles id c there).going _ (by rw [phase]; rfl)).entered
    -- The failure was not entered, so that it is the one end that the cycle waits for.
    have heard : c.arrived ≠ [] := by
      intro none
      rw [none, List.append_nil] at ends
      rw [ends] at failed
      cases regular _ failed
    have some := List.length_pos_iff.mpr heard
    exact List.length_eq_zero_iff.mp (by omega)

/-- **Every call after a failure** is one of the same module, in a cycle that works in parallel and
has not noticed the failure. -/
theorem call_after_failure (run : Trail (move s) (start s metrics) l w)
    (failed : (t, .fatal e) ∈ w.ends id) {i : Invocation} (hi : i ∈ w.invocationsOf id)
    (unmarked : i.aborting = false) :
    ¬w.IsStopped id ∧ s.config.parallel ≠ false ∧ AreBeside s t i.target := by
  have governed := governed_of_trail run
  have unstopped : ¬w.IsStopped id := fun stopped ↦ by
    rw [halted_of_trail run id stopped i hi] at unmarked
    cases unmarked
  obtain ⟨c, there, -⟩ : ∃ c, w.cycle? id = some c ∧ c.phase.failure? = none := by
    simpa [IsStopped] using unstopped
  refine ⟨unstopped, fun sequential ↦ ?_, ?_⟩
  · rw [governed.invocationsOf_of_failed there failed sequential] at hi
    cases hi
  · have busy : c.phase.isCalm = false := Bool.eq_false_iff.mpr fun calm ↦ by
      rw [((governed.settled id c there).calm calm).1] at hi
      cases hi
    have beside {n : CollectorModule} {left : List Collector} {rest : List CollectorModule}
        (inside : Inside s id w.now n left rest (w.diary id)) : AreBeside s t i.target :=
      inside.beside (governed.recorded.diary id) (by rw [endsIn_diary]; exact failed)
        (List.mem_map_of_mem hi)
    have stage := touring_of_trail run id c there
    cases phase : c.phase with
    | spawning | awaiting | joining => rw [phase] at stage; exact beside stage
    | _ => rw [phase] at busy; cases busy

theorem mem_ends_of_move (numbered : Numbered w) (step : move s m w = some w')
    {a : Target × InvocationEnd} (h : a ∈ w.ends id) : a ∈ w'.ends id := by
  obtain ⟨more, ends, -⟩ := ends_of_move numbered step id
  rw [ends]
  exact List.mem_append_left _ h

/-- **What a failure stops**, for every registry, every configuration and all behaviours of
collectors, whatever the order in which tasks have their turns, tokens fire and time passes. -/
theorem failure_halts_cycle (run : Trail (move s) (start s metrics) l v)
    (failed : (t, .fatal e) ∈ v.ends id) (more : Trail (move s) v l' w) :
    ∃ later, Halts s id t v w later := by
  have known : id < v.next := Nat.lt_of_not_le fun hle ↦ by
    rw [((invariant_of_trail run).numbered.fresh id hle).2.2] at failed
    cases failed
  -- The induction keeps the failure in mind, and that a cycle that was stopped is still so.
  have calls : (t, .fatal e) ∈ w.ends id ∧ id < w.next ∧ (v.IsStopped id → w.IsStopped id) ∧
      ∃ later, w.called id = v.called id ++ later ∧ (∀ t' ∈ later, AreBeside s t t') ∧
        (s.config.parallel = false → later = []) ∧ (v.IsStopped id → later = []) := by
    induction more with
    | start =>
      exact ⟨failed, known, fun h ↦ h, [], (List.append_nil _).symm,
        fun _ h ↦ (nomatch h), fun _ ↦ rfl, fun _ ↦ rfl⟩
    | @move l' u u' more m step ih =>
      obtain ⟨failed, known, still, later, called, beside, sequential, stopped⟩ := ih
      have whole := run.append more
      have numbered := (invariant_of_trail whole).numbered
      refine ⟨mem_ends_of_move numbered step failed, Nat.lt_of_lt_of_le known (next_le_move step),
        fun h ↦ (still h).move known numbered step, ?_⟩
      rcases called_of_move step id with same | ⟨i, hi, unmarked, one⟩
      · exact ⟨later, same.trans called, beside, sequential, stopped⟩
      · obtain ⟨unstopped, parallel, here⟩ := call_after_failure whole failed hi unmarked
        exact ⟨later ++ [i.target], by rw [one, called, List.append_assoc],
          List.forall_mem_append.mpr ⟨beside, List.forall_mem_singleton.mpr here⟩,
          fun seq ↦ absurd seq parallel, fun h ↦ absurd (still h) unstopped⟩
  obtain ⟨failed, -, -, later, called, beside, sequential, stopped⟩ := calls
  refine ⟨later, called, beside, sequential, stopped, fun r returned ↦ ?_⟩
  obtain ⟨c, there, ended⟩ := result?_eq_some returned
  cases r with
  | error e => exact ⟨e, rfl⟩
  | ok r => cases (((invariant_of_trail (run.append more)).cycles id c there).done r
    ended).2.regular _ failed

end Calls

/-- A module of three collectors of which the first one panics, with a single permit. -/
def crowded : SchedulerSetup where
  registry :=
    ⟨[⟨"fake",
      [⟨"boom", fun _ ↦ ⟨some 0, false, false, .crash "bug"⟩, 0⟩,
        ⟨"cpu", fun _ ↦ ⟨some 0, false, false, .batch []⟩, 0⟩,
        ⟨"disk", fun _ ↦ ⟨some 0, false, false, .batch []⟩, 0⟩], none⟩]⟩
  config := ⟨true, 1, none, true⟩

/-- The first collector has panicked, and its permit is free. -/
def untilPanic : List Move :=
  [.call 7, .turn (.cycle 0), .turn (.cycle 0), .turn (.cycle 0), .turn (.cycle 0),
    .turn (.invocation 1), .turn (.invocation 1)]

/-- The second collector gets the permit and is called, and then the third one is spawned.  It is
not called, because the cycle comes to notice the panic before. -/
def afterPanic : List Move :=
  [.turn (.cycle 0), .turn (.invocation 2), .turn (.invocation 2), .turn (.cycle 0),
    .turn (.cycle 0), .turn (.cycle 0), .turn (.invocation 3), .turn (.cycle 0), .turn (.cycle 0),
    .turn (.cycle 0), .turn (.cycle 0)]

/-- One collector is called after the other one has panicked, and the cycle fails. -/
theorem failure_halts_cycle_late :
    ∃ (l l' : List (Passage Scheduler Move)) (v w : Scheduler) (t : Target) (e : CycleError)
      (later : List Target), Trail (move crowded) (start crowded .new) l v ∧
      (t, .fatal e) ∈ v.ends 0 ∧ Trail (move crowded) v l' w ∧
        w.result? 0 = some (.error e) ∧ (w.called 0).map (·.collector.name) = ["boom", "cpu"] ∧
          Halts crowded 0 t v w later := by
  have run : Trail (move crowded) (start crowded .new) _ _ := Trail.of_follow untilPanic rfl
  have follow {l' : List (Passage Scheduler Move)} {w : Scheduler} more :=
    And.intro more (@failure_halts_cycle _ _ _ l' _ w 0 _ _ run (List.mem_singleton_self _) more)
  obtain ⟨more, later, halts⟩ := follow <| Trail.of_follow afterPanic rfl
  exact ⟨_, _, _, _, _, _, later, run, List.mem_singleton_self _, more, rfl, rfl, halts⟩

/-- It is not so that no call of a cycle begins after an invocation of it has failed. -/
theorem not_failure_halts_cycle_at_once : ¬∀ (s : SchedulerSetup) (metrics : SelfMetrics)
    (l l' : List (Passage Scheduler Move)) (v w : Scheduler) (id : Nat) (t : Target)
    (e : CycleError),
      Trail (move s) (start s metrics) l v → (t, .fatal e) ∈ v.ends id → Trail (move s) v l' w →
        w.called id = v.called id := by
  intro halts
  have run : Trail (move crowded) (start crowded .new) _ _ := Trail.of_follow untilPanic rfl
  have same := halts crowded .new _ _ _ _ 0 _ _ run (List.mem_singleton_self _)
    (Trail.of_follow afterPanic rfl)
  have longer : 2 = 1 := congrArg List.length same
  cases longer

end Scheduler

end MetricsAgent
