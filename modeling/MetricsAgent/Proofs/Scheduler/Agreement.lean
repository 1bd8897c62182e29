import MetricsAgent.Proofs.Scheduler.Arrival

/-!
# Sequential and parallel cycles agree

What an undisturbed cycle over steady collectors returns depends on the verdicts alone.  If none of
them is fatal, all collectors end with their verdicts, in some order, and the report is made up of
these (`Scheduler.Collected`).  Otherwise the cycle fails in the first module with a fatal verdict
and does not come to a later one (`Scheduler.Broken`).

Nothing in this depends on the mode, on the number of permits or on the order of turns, so any two
such cycles over the same collectors with the same time limit agree (`Scheduler.modes_agree`).

* Their reports have the same figures, and the same measurements in some order.
* If one of them fails, so does the other one, and in the same module.
* Neither of them begins anything for a module after that one.

Which collector of the module is blamed may differ, since in parallel mode the first one to end is.
And in the module that fails, not all collectors need to be called.
-/

set_option autoImplicit false

namespace MetricsAgent

/-- Whether the verdict on some collector of the module is fatal. -/
def CollectorModule.isFatal (timeout : Option Duration) (m : CollectorModule) : Bool :=
  (m.targets m.collectors).any fun t ↦ (t.verdict timeout).isFatal

namespace Registry

/-- The verdicts on all collectors. -/
def verdicts (r : Registry) (timeout : Option Duration) : List (Scheduler.Target × InvocationEnd) :=
  r.targets.map fun t ↦ (t, t.verdict timeout)

/-- The first module with a collector on which the verdict is fatal. -/
def firstFatal? (r : Registry) (timeout : Option Duration) : Option CollectorModule :=
  r.modules.find? (·.isFatal timeout)

/-- The modules up to the first one with a fatal verdict. -/
def upToFatal (timeout : Option Duration) : List CollectorModule → List CollectorModule
  | [] => []
  | m :: rest => if m.isFatal timeout then [m] else m :: upToFatal timeout rest

section Fatal

variable {r : Registry} {timeout : Option Duration}

theorem fatal_of_module {l : List CollectorModule} {m : CollectorModule}
    (rest : List CollectorModule) (sound : ∀ n ∈ l, n.isFatal timeout = false)
    (fatal : m.isFatal timeout = true) : (l ++ m :: rest).find? (·.isFatal timeout) = some m ∧
      upToFatal timeout (l ++ m :: rest) = l ++ [m] := by
  induction l with
  | nil => simp [upToFatal, fatal]
  | cons n l ih =>
    have first := sound n (List.mem_cons_self ..)
    obtain ⟨found, upTo⟩ := ih fun n hn ↦ sound n (List.mem_cons_of_mem _ hn)
    rw [List.cons_append, List.find?_cons, first, upToFatal, first, upTo]
    exact ⟨found, rfl⟩

theorem isFatal_eq_false {m : CollectorModule} :
    m.isFatal timeout = false ↔
    ∀ t ∈ m.targets m.collectors, (t.verdict timeout).isFatal = false := by
  rw [CollectorModule.isFatal, List.any_eq_false]
  simp

end Fatal

end Registry

namespace Scheduler

theorem CollectCounter.total_perm (k : CollectCounter) {l l' : List (Target × InvocationEnd)}
    (h : l.Perm l') : k.total l = k.total l' := by
  induction h with
  | nil => rfl
  | cons a _ ih => rw [total, ih, total]
  | swap a b l => simp only [total]; omega
  | trans _ _ ih ih' => exact ih.trans ih'

/-! ## What an undisturbed cycle returns

The ends of the cycle are known to be the verdicts (`Proofs.Scheduler.Verdict`), and the stops to be
those of its itinerary (`Proofs.Scheduler.Itinerary`).  What is left is to see which ends there
are. -/

/-- A cycle has collected what the verdicts say: its report, and what was added on its behalf. -/
structure Collected (s : SchedulerSetup) (id : Nat)
    (l : List (Passage Scheduler Move)) (w : Scheduler) (r : CycleReport) : Prop where
  /-- Every collector has ended with its verdict. -/
  ends : (w.ends id).Perm (s.registry.verdicts s.config.timeout)
  outcome : r.outcome = .completed
  skipped : r.skipped = 0
  figures : ∀ k : CollectCounter, k.figure r = k.total (s.registry.verdicts s.config.timeout)
  measurements : r.measurements.Perm
    ((s.registry.verdicts s.config.timeout).filterMap batch?).flatten
  counters : ∀ k : CollectCounter,
    credit id k.read l = (k.total (s.registry.verdicts s.config.timeout)).toUInt64

/-- A cycle has failed in the module `m` and has not come to a later one. -/
structure Broken (s : SchedulerSetup) (id : Nat) (w : Scheduler) (m : CollectorModule)
    (e : CycleError) : Prop where
  module : e.module = m.name
  /-- No hook was begun and no invocation spawned for a later module. -/
  stops :
    (w.stops id).Sublist (itinerary id (Registry.upToFatal s.config.timeout s.registry.modules))
  called : ∀ t ∈ w.called id,
    t ∈ Registry.targetsOf (Registry.upToFatal s.config.timeout s.registry.modules)

section Visits

variable {s : SchedulerSetup} {w : Scheduler} {id : Nat} {made last : List Event}
  {ends : List (Target × InvocationEnd)} {done rest : List CollectorModule} {m : CollectorModule}
  {begun left : List Collector}

/-- The collectors for which invocations were spawned up to a visit and in it. -/
theorem Visit.starts (h : Visit s id made ends done m begun left rest (afterEvents id m)) :
    made.filterMap (·.start? id) = Registry.targetsOf done ++ m.targets begun := by
  rw [h.stops, List.filterMap_append, List.filterMap_append, List.filterMap_append,
    start?_itinerary, start?_beforeEvents, start?_spawnEvents, start?_afterEvents, List.append_nil,
    List.append_nil]

/-- The stops up to a visit and in it are on the way to the end of the visit. -/
theorem Visit.sublist (h : Visit s id made ends done m begun left rest (afterEvents id m)) :
    made.Sublist (itinerary id (done ++ [m])) := by
  rw [h.stops, itinerary_append, itinerary_singleton, h.collectors, spawnEvents, spawnEvents,
    CollectorModule.targets, CollectorModule.targets, List.map_append, List.map_append]
  simp only [List.append_assoc]
  refine (List.Sublist.refl _).append ((List.Sublist.refl _).append ?_)
  exact (List.Sublist.refl _).append (List.sublist_append_right _ _)

theorem Visit.subset (h : Visit s id made ends done m begun left rest (afterEvents id m)) :
    ∀ t ∈ made.filterMap (·.start? id), t ∈ Registry.targetsOf (done ++ [m]) := by
  intro t ht
  have sub := h.sublist.filterMap (·.start? id)
  rw [start?_itinerary] at sub
  exact sub.subset ht

end Visits

section Runs

variable {s : SchedulerSetup} {metrics : SelfMetrics} {id : Nat} {l : List (Passage Scheduler Move)}
  {w : Scheduler} {c : Cycle}

/-- A cycle that has returned a report is completed, if its token has not fired. -/
theorem completed_of_trail (h : Trail (move s) (start s metrics) l w) {r : CycleReport}
    (there : w.cycle? id = some c) (on : w.isFired c.token = false)
    (phase : c.phase = .ended (.ok r)) : r.outcome = .completed := by
  induction h generalizing c with
  | start => cases there
  | @move l w w' run m e ih =>
    have on := not_isFired_of_move e on
    have inv := invariant_of_trail run
    cases fate_of_move inv.numbered e there with
    | stays d more before same token => exact ih before (token ▸ on) (same.symm.trans phase)
    | isCalled new arriving =>
      rw [phase] at arriving
      cases arriving
    | turns d es new own before stride =>
      have on := stride.token_eq ▸ on
      rcases stride.of_returned phase with ⟨off, -⟩ | ⟨at_end, rfl⟩
      · rw [isCalledOff, on, Bool.and_false] at off
        cases off
      · obtain ⟨entered, -, -, report⟩ :=
          ((inv.cycles id d before).going [] (by rw [at_end]; rfl)).entered
        rw [on]
        show d.report.outcome = .completed
        rw [report]
        exact reportOf_outcome entered

/-- An end that is in order is the verdict. -/
theorem verdict_of_isRegular {timeout : Option Duration} {a : Target × InvocationEnd}
    (judged : a.2 = a.1.verdict timeout ∨ a.2 = .aborted) (regular : a.2.isRegular = true) :
    a.2 = a.1.verdict timeout := by
  refine judged.resolve_right fun aborted ↦ ?_
  rw [aborted] at regular
  cases regular

/-- **An undisturbed cycle that returns a report** has collected what the verdicts say, and no
verdict is fatal. -/
theorem Undisturbed.collected (h : Undisturbed s metrics id l w) (steady : s.registry.IsSteady)
    (there : w.cycle? id = some c) (on : w.isFired c.token = false) {r : CycleReport}
    (phase : c.phase = .ended (.ok r)) :
    s.registry.firstFatal? s.config.timeout = none ∧ Collected s id l w r := by
  have governed := governed_of_trail h.run
  have off : w.isCalledOff s c.token = false := by rw [isCalledOff, on, Bool.and_false]
  -- A returned cycle has nothing running, so each collector was started and has ended.
  have calm : c.phase.isCalm = true := by rw [phase]; rfl
  obtain ⟨gone, -⟩ := (governed.settled id c there).calm calm
  obtain ⟨-, done⟩ := (governed.inv.cycles id c there).done r phase
  have all : ((w.ends id).map Prod.fst).Perm s.registry.targets := by
    have crew := governed.recorded.crew id
    rw [gone, List.map_nil, List.append_nil, starts_of_returned h.run there off phase] at crew
    exact crew.symm
  -- With prompt timers the end of a steady collector depends on the collector alone.
  have judged : ∀ a ∈ w.ends id, a.2 = a.1.verdict s.config.timeout := fun a ha ↦
    verdict_of_isRegular (judged_of_trail h.run h.punctual steady id c there on a ha)
      (done.regular a ha)
  -- So the ends are the verdicts up to their order, and every figure is a sum over them.
  have ends : (w.ends id).Perm (s.registry.verdicts s.config.timeout) := by
    have paired :
        w.ends id = ((w.ends id).map Prod.fst).map fun t ↦ (t, t.verdict s.config.timeout) := by
      rw [List.map_map]
      exact (List.map_id' _).symm.trans (List.map_congr_left fun a ha ↦ Prod.ext rfl (judged a ha))
    rw [paired]
    exact all.map _
  have accounts := done.accounts governed.inv.genuine (credited_of_trail h.run)
  have figures (k : CollectCounter) : k.figure r = k.total (s.registry.verdicts s.config.timeout) :=
    (accounts.figures k).trans (k.total_perm ends)
  constructor
  · refine List.find?_eq_none.mpr fun m hm ↦ ?_
    rw [Bool.not_eq_true, Registry.isFatal_eq_false]
    intro t ht
    obtain ⟨⟨t', e⟩, mem, rfl⟩ :=
      List.mem_map.mp (all.mem_iff.mpr (List.mem_flatMap.mpr ⟨m, hm, ht⟩))
    have regular := done.regular _ mem
    rw [judged _ mem, isRegular_verdict] at regular
    simpa using regular
  · exact
      { ends := ends
        outcome := completed_of_trail h.run there on phase
        skipped := by
          obtain ⟨skipped, length, count⟩ := done.count
          have total := count.length_eq
          rw [List.length_append, all.length_eq] at total
          omega
        figures := figures
        measurements := by
          rw [accounts.measurements]
          exact (ends.filterMap batch?).flatten
        counters := fun k ↦ by rw [accounts.counters, figures] }

/-- **An undisturbed cycle that fails** has failed in the first module with a fatal verdict. -/
theorem Undisturbed.broken (h : Undisturbed s metrics id l w) (steady : s.registry.IsSteady)
    (there : w.cycle? id = some c) (on : w.isFired c.token = false) {e : CycleError}
    (phase : c.phase = .ended (.error e)) :
    ∃ m, s.registry.firstFatal? s.config.timeout = some m ∧ Broken s id w m e := by
  have off : w.isCalledOff s c.token = false := by rw [isCalledOff, on, Bool.and_false]
  have judged := judged_of_trail h.run h.punctual steady id c there on
  have course := onTrack_of_trail h.run id c there off
  rw [phase] at course
  obtain ⟨done, m, begun, left, rest, visit⟩ := course.broken
  have sound : ∀ n ∈ done, n.isFatal s.config.timeout = false := by
    intro n hn
    refine Registry.isFatal_eq_false.mpr fun t ht ↦ ?_
    obtain ⟨e, mem, regular⟩ := visit.accomplished t (List.mem_flatMap.mpr ⟨n, hn, ht⟩)
    have verdict : e = t.verdict s.config.timeout := verdict_of_isRegular (judged _ mem) regular
    rw [verdict, isRegular_verdict] at regular
    simpa using regular
  -- The error is that of a collector of the module that the cycle is in.
  obtain ⟨t, mem⟩ := blamed_of_trail h.run id c e there (by rw [phase]; rfl)
  have verdict : t.verdict s.config.timeout = .fatal e := by
    rcases judged _ mem with verdict | aborted
    · exact verdict.symm
    · cases aborted
  have started : t ∈ Registry.targetsOf done ++ m.targets begun := by
    rw [← visit.starts, ← starts_eq_stops]
    exact ((governed_of_trail h.run).recorded.crew id).mem_iff.mpr
      (List.mem_append_left _ (List.mem_map_of_mem mem))
  have inside : t ∈ m.targets m.collectors := by
    rcases List.mem_append.mp started with before | now
    · obtain ⟨n, hn, ht⟩ := List.mem_flatMap.mp before
      have := Registry.isFatal_eq_false.mp (sound n hn) t ht
      rw [verdict] at this
      cases this
    · rw [visit.collectors, CollectorModule.targets, List.map_append]
      exact List.mem_append_left _ now
  have fatal : m.isFatal s.config.timeout = true :=
    List.any_eq_true.mpr ⟨t, inside, by rw [verdict]; rfl⟩
  obtain ⟨found, upTo⟩ := Registry.fatal_of_module rest sound fatal
  rw [← visit.modules] at found upTo
  refine ⟨m, found, ?_, ?_, ?_⟩
  · obtain ⟨k, -, rfl⟩ := List.mem_map.mp inside
    exact (verdict_ne s.config.timeout ⟨m.name, k⟩).2.2 e verdict
  · rw [upTo]
    exact visit.sublist
  · intro t ht
    rw [upTo]
    refine visit.subset t ?_
    rw [← starts_eq_stops]
    exact (attended_of_trail h.run id).called_subset t ht

/-- **What an undisturbed cycle returns** is settled by the verdicts. -/
theorem Undisturbed.returns (h : Undisturbed s metrics id l w) (steady : s.registry.IsSteady)
    {r : Except CycleError CycleReport} (returned : w.result? id = some r) :
    match s.registry.firstFatal? s.config.timeout with
    | none => ∃ report, r = .ok report ∧ Collected s id l w report
    | some m => ∃ e, r = .error e ∧ Broken s id w m e := by
  obtain ⟨d, there, on⟩ := h.unfired
  obtain ⟨c, hc, phase⟩ := result?_eq_some returned
  obtain rfl : d = c := Option.some.inj (there.symm.trans hc)
  cases r with
  | ok report =>
    obtain ⟨none, collected⟩ := h.collected steady there on phase
    rw [none]
    exact ⟨report, rfl, collected⟩
  | error e =>
    obtain ⟨m, first, broken⟩ := h.broken steady there on phase
    rw [first]
    exact ⟨e, rfl, broken⟩

end Runs

/-! ## Agreement

Two lists of ends that are the verdicts in some order have the same figures, since figures are
sums. -/

/-- Two reports say the same, but for the order of the measurements, and nothing was skipped or
cancelled. -/
structure Agree (r r' : CycleReport) : Prop where
  outcome : r.outcome = r'.outcome
  succeeded : r.succeeded = r'.succeeded
  failed : r.failed = r'.failed
  timedOut : r.timedOut = r'.timedOut
  skipped : r.skipped = 0 ∧ r'.skipped = 0
  cancelled : r.cancelled = 0 ∧ r'.cancelled = 0
  measurements : r.measurements.Perm r'.measurements

section Agreement

variable {s s' : SchedulerSetup} {metrics metrics' : SelfMetrics} {id id' : Nat}
  {l l' : List (Passage Scheduler Move)} {w w' : Scheduler}

/-- No verdict is a cancellation. -/
theorem cancelled_verdicts (r : Registry) (timeout : Option Duration) :
    CollectCounter.cancelled.total (r.verdicts timeout) = 0 := by
  refine (CollectCounter.total_eq_mul .cancelled 0 fun a ha ↦ ?_).trans (Nat.zero_mul _)
  obtain ⟨t, -, rfl⟩ := List.mem_map.mp ha
  obtain ⟨uncancelled, -⟩ := verdict_ne timeout t
  show CollectCounter.cancelled.weight (t.verdict timeout) = 0
  cases e : t.verdict timeout with
  | cancelled => exact absurd e uncancelled
  | _ => rfl

/-- Two cycles that have collected what the same verdicts say agree. -/
theorem Collected.agree (registry : s'.registry = s.registry)
    (timeout : s'.config.timeout = s.config.timeout) {r r' : CycleReport} (h : Collected s id l w r)
    (h' : Collected s' id' l' w' r') : Agree r r' := by
  have figures (k : CollectCounter) : k.figure r = k.figure r' := by
    rw [h.figures, h'.figures, registry, timeout]
  have none_cancelled :
      CollectCounter.cancelled.figure r = 0 := by rw [h.figures, cancelled_verdicts]
  have timedOut : r.timedOut = r'.timedOut := figures .timeouts
  have errors : r.failed + r.timedOut = r'.failed + r'.timedOut := figures .error
  exact
    { outcome := h.outcome.trans h'.outcome.symm
      succeeded := figures .ok
      failed := by omega
      timedOut := timedOut
      skipped := ⟨h.skipped, h'.skipped⟩
      cancelled := ⟨none_cancelled, (figures .cancelled).symm.trans none_cancelled⟩
      measurements := by
        have other := h'.measurements
        rw [registry, timeout] at other
        exact h.measurements.trans other.symm }

/-- **Sequential and parallel cycles agree**: any two cycles over the same steady collectors and
with the same time limit, in whatever modes and with however many permits, as long as their tokens
do not fire, whatever the order in which tasks have their turns.  Both are bound to return.  If no
verdict is fatal they return reports that agree, and have added the same to the counters of
collections.  Otherwise both fail in the first module with a fatal verdict and do not come to a
later one. -/
theorem modes_agree (registry : s'.registry = s.registry)
    (timeout : s'.config.timeout = s.config.timeout) (steady : s.registry.IsSteady)
    (h : Undisturbed s metrics id l w) (h' : Undisturbed s' metrics' id' l' w') :
    (IsBound s id w ∧ IsBound s' id' w') ∧
      ∀ r r', w.result? id = some r → w'.result? id' = some r' →
        match s.registry.firstFatal? s.config.timeout with
        | none => ∃ report report', r = .ok report ∧ r' = .ok report' ∧ Agree report report' ∧
          ∀ k : CollectCounter, credit id k.read l = credit id' k.read l'
        | some m => ∃ e e', r = .error e ∧ r' = .error e' ∧ Broken s id w m e ∧
          Broken s' id' w' m e' := by
  have steady' : s'.registry.IsSteady := by rw [registry]; exact steady
  refine ⟨⟨h.isBound steady, h'.isBound steady'⟩, fun r r' returned returned' ↦ ?_⟩
  have result := h.returns steady returned
  have result' := h'.returns steady' returned'
  rw [registry, timeout] at result'
  cases first : s.registry.firstFatal? s.config.timeout with
  | none =>
    rw [first] at result result'
    obtain ⟨report, rfl, collected⟩ := result
    obtain ⟨report', rfl, collected'⟩ := result'
    refine ⟨report, report', rfl, rfl, collected.agree registry timeout collected', fun k ↦ ?_⟩
    rw [collected.counters, collected'.counters, registry, timeout]
  | some m =>
    rw [first] at result result'
    obtain ⟨e, rfl, broken⟩ := result
    obtain ⟨e', rfl, broken'⟩ := result'
    exact ⟨e, e', rfl, rfl, broken, broken'⟩

end Agreement

/-- A module of two collectors, of which the first one may panic and the second one is to be timed
out, and another module after it. -/
def threeCollectors (parallel panics : Bool) : SchedulerSetup where
  registry :=
    ⟨[⟨"host",
      [⟨"cpu",
          fun _ ↦ ⟨some 3, false, false, if panics then .crash "bug" else .batch [.gauge "load" 1]⟩,
          0⟩,
        ⟨"slow", fun _ ↦ ⟨some 50, true, false, .batch []⟩, 0⟩], none⟩,
      ⟨"disk", [⟨"sda", fun _ ↦ ⟨some 0, false, false, .batch [.gauge "used" 2]⟩, 0⟩], none⟩]⟩
  config := ⟨parallel, 2, some (.ofMillis 10), true⟩

theorem threeCollectors_isSteady (parallel panics : Bool) :
    (threeCollectors parallel panics).registry.IsSteady := by
  intro m hm k hk
  simp only [threeCollectors, List.mem_cons, List.not_mem_nil, or_false] at hm
  rcases hm with rfl | rfl
  · simp only [List.mem_cons, List.not_mem_nil, or_false] at hk
    rcases hk with rfl | rfl <;> exact ⟨fun _ ↦ rfl, rfl, rfl⟩
  · rw [List.mem_singleton.mp hk]
    exact ⟨fun _ ↦ rfl, rfl, rfl⟩

/-- One after the other or side by side: if no collector panics, both cycles collect two batches and
one collector is timed out.  If one panics, both fail in its module, also where the other one is
under way. -/
theorem modes_agree_timed :
    (∃ (l l' : List (Passage Scheduler Move)) (w w' : Scheduler) (r r' : CycleReport),
      Undisturbed (threeCollectors false false) .new 0 l w ∧
        Undisturbed (threeCollectors true false) .new 0 l' w' ∧ w.result? 0 = some (.ok r) ∧
          w'.result? 0 = some (.ok r') ∧ (r.succeeded = 2 ∧ r.timedOut = 1) ∧ Agree r r' ∧
            ∀ k : CollectCounter, credit 0 k.read l = credit 0 k.read l') ∧
    ∃ (l l' : List (Passage Scheduler Move)) (w w' : Scheduler) (m : CollectorModule)
      (e e' : CycleError), Undisturbed (threeCollectors false true) .new 0 l w ∧
        Undisturbed (threeCollectors true true) .new 0 l' w' ∧ w.result? 0 = some (.error e) ∧
          w'.result? 0 = some (.error e') ∧ m.name = "host" ∧
            Broken (threeCollectors false true) 0 w m e ∧
            Broken (threeCollectors true true) 0 w' m e' := by
  constructor
  · -- The second collector hangs until its timeout; the cycles run the same three collectors.
    have one :
        Trail (move (threeCollectors false false)) (start (threeCollectors false false) .new) _ _ :=
      Trail.of_follow
        [.call 7, .turn (.cycle 0), .turn (.cycle 0), .turn (.cycle 0), .turn (.cycle 0),
          .turn (.invocation 1), .elapse 3, .turn (.invocation 1), .turn (.cycle 0),
          .turn (.cycle 0), .turn (.invocation 2), .elapse 10, .turn (.invocation 2),
          .turn (.cycle 0), .turn (.cycle 0), .turn (.cycle 0), .turn (.cycle 0), .turn (.cycle 0),
          .turn (.invocation 3), .turn (.invocation 3), .turn (.cycle 0), .turn (.cycle 0),
          .turn (.cycle 0), .turn (.cycle 0)] rfl
    have two :
        Trail (move (threeCollectors true false)) (start (threeCollectors true false) .new) _ _ :=
      Trail.of_follow
        [.call 7, .turn (.cycle 0), .turn (.cycle 0), .turn (.cycle 0), .turn (.cycle 0),
          .turn (.cycle 0), .turn (.cycle 0), .turn (.invocation 1), .turn (.invocation 2),
          .elapse 3, .turn (.invocation 1), .turn (.cycle 0), .elapse 7, .turn (.invocation 2),
          .turn (.cycle 0), .turn (.cycle 0), .turn (.cycle 0), .turn (.cycle 0), .turn (.cycle 0),
          .turn (.cycle 0), .turn (.invocation 3), .turn (.invocation 3), .turn (.cycle 0),
          .turn (.cycle 0), .turn (.cycle 0), .turn (.cycle 0)] rfl
    have h : Undisturbed (threeCollectors false false) .new 0 _ _ := ⟨one, by decide, _, rfl, rfl⟩
    have h' : Undisturbed (threeCollectors true false) .new 0 _ _ := ⟨two, by decide, _, rfl, rfl⟩
    obtain ⟨-, agree⟩ := @modes_agree (threeCollectors false false) (threeCollectors true false)
      _ _ _ _ _ _ _ _ rfl rfl (threeCollectors_isSteady false false) h h'
    obtain ⟨_, _, same, same', agree, counters⟩ := agree (.ok _) (.ok _) rfl rfl
    cases same
    cases same'
    exact ⟨_, _, _, _, _, _, h, h', rfl, rfl, ⟨rfl, rfl⟩, agree, counters⟩
  · have one :
        Trail (move (threeCollectors false true)) (start (threeCollectors false true) .new) _ _ :=
      Trail.of_follow
        [.call 7, .turn (.cycle 0), .turn (.cycle 0), .turn (.cycle 0), .turn (.cycle 0),
          .turn (.invocation 1), .elapse 3, .turn (.invocation 1), .turn (.cycle 0),
          .turn (.cycle 0)] rfl
    have two :
        Trail (move (threeCollectors true true)) (start (threeCollectors true true) .new) _ _ :=
      Trail.of_follow
        [.call 7, .turn (.cycle 0), .turn (.cycle 0), .turn (.cycle 0), .turn (.cycle 0),
          .turn (.cycle 0), .turn (.cycle 0), .turn (.invocation 1), .turn (.invocation 2),
          .elapse 3, .turn (.invocation 1), .turn (.cycle 0), .turn (.invocation 2),
          .turn (.cycle 0), .turn (.cycle 0), .turn (.cycle 0)] rfl
    have h : Undisturbed (threeCollectors false true) .new 0 _ _ := ⟨one, by decide, _, rfl, rfl⟩
    have h' : Undisturbed (threeCollectors true true) .new 0 _ _ := ⟨two, by decide, _, rfl, rfl⟩
    obtain ⟨-, agree⟩ := @modes_agree (threeCollectors false true) (threeCollectors true true)
      _ _ _ _ _ _ _ _ rfl rfl (threeCollectors_isSteady false true) h h'
    obtain ⟨_, _, same, same', broken, broken'⟩ := agree (.error _) (.error _) rfl rfl
    cases same
    cases same'
    exact ⟨_, _, _, _, _, _, _, h, h', rfl, rfl, rfl, broken, broken'⟩

end Scheduler

end MetricsAgent
