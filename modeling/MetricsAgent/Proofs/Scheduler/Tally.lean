import MetricsAgent.Proofs.Scheduler.Accounting
import MetricsAgent.Proofs.Scheduler.Exclusion

/-!
# Counting the invocations of a cycle

`Scheduler.cycle_accounts` is about cycles with a report.  Here are the counters of collections for
all cycles that have returned.  An invocation that was aborted is not counted when it ends but when
its cycle enters its end; so while a cycle goes on, some of what its invocations add to the counters
is still due (`Scheduler.Tallied`).

Once the cycle has returned nothing is due.  Then every invocation that it has spawned is counted
once, as collected, failed or cancelled, except for those whose collector panicked: these are
counted nowhere (`Scheduler.returned_cycle_is_tallied`).

* What an end adds in the turn of its invocation is its `weight`, and what its cycle adds when it
  enters the end is its `due`.
* Together they are one for one of the three counters, or nothing for a panic (`counted_once`).

It is not so that every invocation is counted (`Scheduler.not_every_invocation_is_counted`): a cycle
whose only collector panics returns, and no counter of collections has changed.
-/

set_option autoImplicit false

namespace MetricsAgent

/-- The collector has panicked. -/
def InvocationEnd.isPanic : InvocationEnd → Bool
  | .fatal (.panicked ..) => true
  | _ => false

namespace Scheduler

/-! ## What ends add to the counters

Both parts are sums over ends, so they can be taken apart at any place in the list. -/

namespace CollectCounter

/-- What is added to a counter when the cycle enters these ends. -/
def due (k : CollectCounter) : List (Target × InvocationEnd) → Nat
  | [] => 0
  | a :: l => k.dues a.2 + k.due l

/-- What ended invocations have added to a counter, once their cycle has entered their ends. -/
def full (k : CollectCounter) (l : List (Target × InvocationEnd)) : Nat := k.total l + k.due l

section Full

variable (k : CollectCounter) (l l' : List (Target × InvocationEnd))

theorem due_append : k.due (l ++ l') = k.due l + k.due l' := by
  induction l with
  | nil => exact (Nat.zero_add _).symm
  | cons a l ih => rw [List.cons_append, due, ih, due, Nat.add_assoc]

theorem full_append : k.full (l ++ l') = k.full l + k.full l' := by
  rw [full, k.total_append, k.due_append, full, full]
  omega

end Full

end CollectCounter

/-- The number of invocations whose collector has panicked. -/
def panics (l : List (Target × InvocationEnd)) : Nat := l.countP (·.2.isPanic)

/-- Every end is counted as collected, failed or cancelled, but for a panic. -/
theorem counted_once (l : List (Target × InvocationEnd)) :
    CollectCounter.ok.full l + CollectCounter.error.full l +
    CollectCounter.cancelled.full l + panics l =
      l.length := by
  induction l with
  | nil => rfl
  | cons a l ih =>
    obtain ⟨t, e⟩ := a
    have one : CollectCounter.ok.full [(t, e)] + CollectCounter.error.full [(t, e)] +
        CollectCounter.cancelled.full [(t, e)] + panics [(t, e)] = 1 := by
      cases e with
      | fatal err => cases err <;> rfl
      | _ => rfl
    have parts : panics ([(t, e)] ++ l) = panics [(t, e)] + panics l := List.countP_append ..
    rw [← List.singleton_append, CollectCounter.full_append, CollectCounter.full_append,
      CollectCounter.full_append, parts, List.length_append, List.length_singleton]
    omega

/-! ## What is due while a cycle goes on

A turn of the cycle takes the first end that has arrived from what is due to what was added. -/

/-- The tasks of a cycle have added to the counters what the ends of its invocations add, but for
what is due because the cycle has not entered it. -/
def Tallied (w : Scheduler) (l : List (Passage Scheduler Move)) : Prop :=
  ∀ id c, w.cycle? id = some c → ∀ k : CollectCounter,
    credit id k.read l + (k.due c.arrived).toUInt64 = (k.full (w.ends id)).toUInt64

section Moves

variable {s : SchedulerSetup} {w w' : Scheduler} {m : Move} {l : List (Passage Scheduler Move)}

/-- A turn of a cycle adds what is due for the end that it enters. -/
theorem Hears.due {c c' : Cycle} {before after : SelfMetrics} (h : Hears c c' before after)
    (k : CollectCounter) : ∃ d : Nat, k.read after = k.read before + d.toUInt64 ∧
      k.due c.arrived = d + k.due c'.arrived := by
  cases h with
  | nothing arrived collect =>
    refine ⟨0, ?_, ?_⟩
    · rw [collect k]
      exact (UInt64.add_zero _).symm
    · rw [arrived, Nat.zero_add]
  | one t e arrived collect => exact ⟨k.dues e, collect k, by rw [arrived, CollectCounter.due]⟩

/-- **Every move leaves the cycles tallied.** -/
theorem Tallied.move (h : Tallied w l) (credited : Credited w l) (governed : Governed s w)
    (e : Scheduler.move s m w = some w') : Tallied w' (l ++ [⟨w, m, w'⟩]) := by
  intro id c' hc' k
  have numbered := governed.inv.numbered
  rw [credit_append]
  by_cases own : w.owner? m = some id
  · cases m with
    | turn t =>
      cases t with
      | cycle n =>
        cases own
        obtain ⟨c, d, hc, rfl, hstep, -, frame⟩ := step_cycle e
        obtain ⟨d', crossing⟩ := stepCycle_crosses (governed.settled c.id c hc).suits hstep
        obtain rfl : d' = c' := Option.some.inj ((crossing.cycle?_self hc).symm.trans hc')
        obtain ⟨added, read, due⟩ := crossing.heard.due k
        have before := h c.id c hc k
        rw [due, Counter.toUInt64_add, ← UInt64.add_assoc] at before
        rw [share_of_eq rfl read, before, frame.ends]
      | invocation n =>
        obtain ⟨i, hi, rfl⟩ := Option.map_eq_some_iff.mp own
        obtain ⟨j, hj, hstep⟩ := Option.bind_eq_some_iff.mp e
        obtain rfl : i = j := Option.some.inj (hi.symm.trans hj)
        rcases stepInvocation_cases hstep with begins | ⟨end_, leaves⟩
        · rw [cycle?, begins.cycles] at hc'
          have same : k.read w'.metrics = k.read w.metrics + 0 := by
            rw [begins.metrics, UInt64.add_zero]
          rw [share_of_eq own same, UInt64.add_zero, begins.ends]
          exact h _ c' hc' k
        · rw [leaves.cycle?, Option.map_eq_some_iff] at hc'
          obtain ⟨c, hc, rfl⟩ := hc'
          -- An end counts its weight at once, and what is due when the cycle hears of it.
          have last : k.full [(i.target, end_)] = k.weight end_ + k.due [(i.target, end_)] := by
            rw [CollectCounter.full, k.total_singleton]
          rw [if_pos (Keyed.key_of_find? hc),
            share_of_eq own (leaves.charges.collect k), leaves.ends, if_pos rfl, k.full_append,
            last, k.due_append, Counter.toUInt64_add, Counter.toUInt64_add,
            Counter.toUInt64_add, ← h _ c hc k]
          ac_rfl
    | _ => cases own
  · obtain ⟨ends, same | ⟨new, phase⟩⟩ := (apart_of_ne numbered e own).imp_right fun h ↦ h c' hc'
    · rw [share_of_ne own, UInt64.add_zero, ends]
      exact h id c' same k
    · have calm : c'.phase.isCalm = true := by rw [phase]; rfl
      have silent := (governed.move e).settled id c' hc'
      subst new
      rw [share_of_ne own, UInt64.add_zero, ends, (silent.calm calm).2,
        credited.fresh _ (Nat.le_refl _), (numbered.fresh _ (Nat.le_refl _)).2.2]
      rfl

end Moves

/-! ## Cycles that have returned

A cycle that has returned has heard of all ends of its invocations. -/

section Runs

variable {s : SchedulerSetup} {metrics : SelfMetrics} {l : List (Passage Scheduler Move)}
  {w : Scheduler}

theorem tallied_of_trail (h : Trail (move s) (start s metrics) l w) : Tallied w l := by
  induction h with
  | start => exact fun _ _ hc ↦ nomatch hc
  | move h m e ih => exact ih.move (credited_of_trail h) (governed_of_trail h) e

/-- **The invocations of a cycle that has returned are counted once**, also if the cycle has failed,
but for those whose collector has panicked.  There are none of these in a cycle with a report. -/
theorem returned_cycle_is_tallied (run : Trail (move s) (start s metrics) l w) {id : Nat}
    {r : Except CycleError CycleReport} (returned : w.result? id = some r) :
    credit id CollectCounter.ok.read l + credit id CollectCounter.error.read l +
        credit id CollectCounter.cancelled.read l + (panics (w.ends id)).toUInt64 =
          (w.starts id).length.toUInt64 ∧
      ∀ report, r = .ok report → panics (w.ends id) = 0 := by
  have governed := governed_of_trail run
  obtain ⟨c, hc, phase⟩ := result?_eq_some returned
  have calm : c.phase.isCalm = true := by rw [phase]; rfl
  obtain ⟨gone, entered⟩ := (governed.settled id c hc).calm calm
  constructor
  · have counted (k : CollectCounter) : credit id k.read l = (k.full (w.ends id)).toUInt64 := by
      have tallied := tallied_of_trail run id c hc k
      rw [entered] at tallied
      exact (UInt64.add_zero _).symm.trans tallied
    have length : (w.starts id).length = (w.ends id).length := by
      have crew := (governed.recorded.crew id).length_eq
      rw [gone, List.map_nil, List.append_nil, List.length_map] at crew
      exact crew
    rw [counted, counted, counted, length, ← counted_once, Counter.toUInt64_add,
      Counter.toUInt64_add, Counter.toUInt64_add]
  · rintro report rfl
    obtain ⟨-, done⟩ := (governed.inv.cycles id c hc).done report phase
    refine List.countP_eq_zero.mpr fun ⟨t, e⟩ ha panic ↦ ?_
    have regular := done.regular (t, e) ha
    cases e with
    | fatal err => cases regular
    | _ => cases panic

end Runs

/-- A module of two collectors that run side by side: one that hangs and one that fails
unexpectedly. -/
def hangAndFail : SchedulerSetup where
  registry :=
    ⟨[⟨"host",
      [⟨"slow", fun _ ↦ ⟨none, false, false, .batch []⟩, 0⟩,
        ⟨"broken", fun _ ↦ ⟨some 0, false, false, .failure (.unexpected "bug")⟩, 0⟩], none⟩]⟩
  config := ⟨true, 2, none, true⟩

/-- The cycle fails, and the collector that hangs is stopped: one error and one cancellation. -/
theorem returned_cycle_is_tallied_failed : ∃ (l : List (Passage Scheduler Move)) (w : Scheduler),
    Trail (move hangAndFail) (start hangAndFail .new) l w ∧
      w.result? 0 = some (.error (.unexpected "host" "broken" "unexpected failure: bug")) ∧
      credit 0 CollectCounter.ok.read l + credit 0 CollectCounter.error.read l +
        credit 0 CollectCounter.cancelled.read l + (panics (w.ends 0)).toUInt64 =
          (w.starts 0).length.toUInt64 ∧
      panics (w.ends 0) = 0 ∧ (w.starts 0).length = 2 := by
  have run : Trail (move hangAndFail) (start hangAndFail .new) _ _ :=
    Trail.of_follow
      [.call 7, .turn (.cycle 0), .turn (.cycle 0), .turn (.cycle 0), .turn (.cycle 0),
        .turn (.cycle 0), .turn (.cycle 0), .turn (.invocation 1), .turn (.invocation 2),
        .turn (.invocation 2), .turn (.cycle 0), .turn (.invocation 1), .turn (.cycle 0),
        .turn (.cycle 0), .turn (.cycle 0)] rfl
  obtain ⟨counted, -⟩ := @returned_cycle_is_tallied _ _ _ _ run 0 (.error _) rfl
  exact ⟨_, _, run, rfl, counted, rfl, rfl⟩

/-- A module of one collector, which panics. -/
def panicking : SchedulerSetup where
  registry :=
    ⟨[⟨"fake", [⟨"boom", fun _ ↦ ⟨some 0, false, false, .crash "collector bug"⟩, 0⟩], none⟩]⟩
  config := ⟨false, 4, some (.ofMillis 2000), true⟩

/-- It is not so that every invocation of a cycle that has returned is counted: the one that panics
is not. -/
theorem not_every_invocation_is_counted :
    ¬∀ (s : SchedulerSetup) (metrics : SelfMetrics)
      (l : List (Passage Scheduler Move)) (w : Scheduler) (id : Nat)
      (r : Except CycleError CycleReport), Trail (move s) (start s metrics) l w →
        w.result? id = some r →
        credit id CollectCounter.ok.read l + credit id CollectCounter.error.read l +
          credit id CollectCounter.cancelled.read l = (w.starts id).length.toUInt64 := by
  intro counted
  have run : Trail (move panicking) (start panicking .new) _ _ :=
    Trail.of_follow
      [.call 7, .turn (.cycle 0), .turn (.cycle 0), .turn (.cycle 0), .turn (.cycle 0),
        .turn (.invocation 1), .turn (.invocation 1), .turn (.cycle 0), .turn (.cycle 0)] rfl
  have sum := counted panicking .new _ _ 0 (.error (.panicked "fake" "collector bug")) run rfl
  have spawned : (0 : UInt64) = 1 := sum
  exact absurd spawned (by decide)

end Scheduler

end MetricsAgent
