import MetricsAgent.Proofs.Keyed
import MetricsAgent.Proofs.Trail
import MetricsAgent.Scheduler.Cycle

/-!
# The course of a scheduler

The moves of a scheduler, and what a turn of an invocation can do: it begins the call of its
collector, or the invocation leaves, with a certain end (`Scheduler.Leaves`).
`Scheduler.stepInvocation_cases` says that there is nothing else.

What the counters of collections owe to the end of an invocation is the `weight` of the end.  An
invocation that was aborted leaves without a trace in the counters; its cycle counts it later.  A
collector that panicked is not counted at all.

* `Scheduler.Move` lists the moves, and `Scheduler.move` makes them.
* `Scheduler.cycle?`, `Scheduler.invocationsOf` and `Scheduler.ends` are what can be seen of a
  cycle: itself, its invocations, and its collectors that have ended.
* `Scheduler.CollectCounter` and `Scheduler.CycleCounter` list the counters, so that a statement
  about all of them is one statement.
* `Scheduler.Charges` says what the end of an invocation does to the metrics.

The turns of cycles are in `Proofs.Scheduler.Advance`, since there are many more kinds of them.
-/

set_option autoImplicit false

namespace MetricsAgent

namespace Scheduler

/-! ## Moves

The reachability of the model has one constructor for each kind of move, and agrees with the
trails. -/

/-- What can happen next to a scheduler. -/
inductive Move where
  | call (token : Nat)
  | cancel (token : Nat)
  | elapse (ms : Nat)
  | drop (id : Nat)
  /-- A task has its turn. -/
  | turn (t : TaskId)

/-- Make a move, if it is possible. -/
def move (s : SchedulerSetup) (m : Move) (w : Scheduler) : Option Scheduler :=
  match m with
  | .call token => some (w.call token)
  | .cancel token => some (w.cancel token)
  | .elapse ms => some (w.elapse ms)
  | .drop id => some (w.drop id)
  | .turn t => w.step s t

/-- The reachable states are those at the end of a trail. -/
theorem reachable_iff_exists_trail {s : SchedulerSetup} {metrics : SelfMetrics} {w : Scheduler} :
    Reachable s metrics w ↔ ∃ l, Trail (move s) (start s metrics) l w := by
  constructor
  · intro h
    induction h with
    | start => exact ⟨[], .start⟩
    | call _ token ih => obtain ⟨l, h⟩ := ih; exact ⟨_, h.move (.call token) rfl⟩
    | cancel _ token ih => obtain ⟨l, h⟩ := ih; exact ⟨_, h.move (.cancel token) rfl⟩
    | elapse _ ms ih => obtain ⟨l, h⟩ := ih; exact ⟨_, h.move (.elapse ms) rfl⟩
    | drop _ id ih => obtain ⟨l, h⟩ := ih; exact ⟨_, h.move (.drop id) rfl⟩
    | step _ t e ih => obtain ⟨l, h⟩ := ih; exact ⟨_, h.move (.turn t) e⟩
  · rintro ⟨l, h⟩
    refine h.invariant .start fun {v v'} m hv e ↦ ?_
    cases m with
    | call token => cases e; exact .call hv token
    | cancel token => cases e; exact .cancel hv token
    | elapse ms => cases e; exact .elapse hv ms
    | drop id => cases e; exact .drop hv id
    | turn t => exact .step hv t e

/-! ## What can be seen of a cycle

The ends are taken from the history, in which they are in the order in which they happened. -/

/-- The cycle with a number. -/
def cycle? (w : Scheduler) (id : Nat) : Option Cycle := w.cycles.find? (·.id = id)

/-- Which collector of a cycle has ended, and how. -/
def Event.end? (cycle : Nat) : Event → Option (Target × InvocationEnd)
  | .gone c t e => if c = cycle then some (t, e) else none
  | _ => none

/-- The collectors of a cycle that have ended, in the order in which they did, and how. -/
def ends (w : Scheduler) (cycle : Nat) : List (Target × InvocationEnd) :=
  w.history.toList.filterMap fun e ↦ e.2.end? cycle

@[simp] theorem ends_note (w : Scheduler) (e : Event) (cycle : Nat) :
    (w.note e).ends cycle = w.ends cycle ++ (e.end? cycle).toList := by
  cases h : e.end? cycle <;> simp [ends, note, h]

@[simp] theorem ends_putCycle (w : Scheduler) (c : Cycle) (cycle : Nat) :
    (w.putCycle c).ends cycle = w.ends cycle := rfl

@[simp] theorem ends_putInvocation (w : Scheduler) (i : Invocation) (cycle : Nat) :
    (w.putInvocation i).ends cycle = w.ends cycle := rfl

@[simp] theorem ends_releaseGate (w : Scheduler) (cycle : Nat) :
    w.releaseGate.ends cycle = w.ends cycle := rfl

/-! ## Counters

There is one lemma for each kind of end, and each says what it weighs. -/

/-- The counters of collections. -/
inductive CollectCounter where
  | ok | error | cancelled | timeouts
  /-- The number of collections that were timed. -/
  | timed
  deriving DecidableEq

namespace CollectCounter

/-- The value of a counter. -/
def read : CollectCounter → SelfMetrics → UInt64
  | ok, m => m.collectOk
  | error, m => m.collectError
  | cancelled, m => m.collectCancelled
  | timeouts, m => m.collectorTimeouts
  | timed, m => m.collectDuration.count

/-- What the end of an invocation adds to a counter. -/
def weight : CollectCounter → InvocationEnd → Nat
  | ok, .collected _ => 1
  | error, .failed | error, .timedOut | error, .fatal (.unexpected ..) => 1
  | cancelled, .cancelled => 1
  | timeouts, .timedOut => 1
  | timed, .collected _ | timed, .failed | timed, .timedOut | timed, .cancelled
  | timed, .fatal (.unexpected ..) => 1
  | _, _ => 0

end CollectCounter

/-- The counters of cycles. -/
inductive CycleCounter where
  | ok | failed | cancelled
  deriving DecidableEq

/-- The value of a counter. -/
def CycleCounter.read : CycleCounter → SelfMetrics → UInt64
  | ok, m => m.cyclesOk
  | failed, m => m.cyclesFailed
  | cancelled, m => m.cyclesCancelled

/-- The metrics `m'` are `m` after an invocation has ended with `e`. -/
structure Charges (e : InvocationEnd) (m m' : SelfMetrics) : Prop where
  collect : ∀ k : CollectCounter, k.read m' = k.read m + (k.weight e).toUInt64
  cycle : ∀ k : CycleCounter, k.read m' = k.read m

theorem charges_aborted (m : SelfMetrics) : Charges .aborted m m :=
  ⟨fun k ↦ by cases k <;> exact (UInt64.add_zero _).symm, fun _ ↦ rfl⟩

theorem charges_panicked (module text : String) (m : SelfMetrics) :
    Charges (.fatal (.panicked module text)) m m :=
  ⟨fun k ↦ by cases k <;> exact (UInt64.add_zero _).symm, fun _ ↦ rfl⟩

theorem charges_collected (batch : List Measurement) (m : SelfMetrics) (d : Duration) :
    Charges (.collected batch) m (m.recordCollect .ok d) :=
  ⟨fun k ↦ by cases k <;> first | rfl | exact (UInt64.add_zero _).symm, fun k ↦ by cases k <;> rfl⟩

theorem charges_failed (m : SelfMetrics) (d : Duration) :
    Charges .failed m (m.recordCollect .error d) :=
  ⟨fun k ↦ by cases k <;> first | rfl | exact (UInt64.add_zero _).symm, fun k ↦ by cases k <;> rfl⟩

theorem charges_unexpected (module collector reason : String) (m : SelfMetrics) (d : Duration) :
    Charges (.fatal (.unexpected module collector reason)) m (m.recordCollect .error d) :=
  ⟨fun k ↦ by cases k <;> first | rfl | exact (UInt64.add_zero _).symm, fun k ↦ by cases k <;> rfl⟩

theorem charges_cancelled (m : SelfMetrics) (d : Duration) :
    Charges .cancelled m (m.recordCollect .cancelled d) :=
  ⟨fun k ↦ by cases k <;> first | rfl | exact (UInt64.add_zero _).symm, fun k ↦ by cases k <;> rfl⟩

theorem charges_timedOut (m : SelfMetrics) (d : Duration) :
    Charges .timedOut m
      ({ m with collectorTimeouts := m.collectorTimeouts + 1 }.recordCollect .error d) :=
  ⟨fun k ↦ by cases k <;> first | rfl | exact (UInt64.add_zero _).symm, fun k ↦ by cases k <;> rfl⟩

/-! ## Turns of invocations

An invocation that leaves gives back what it holds, tells its cycle, and is gone. -/

/-- A scheduler before and after something that no cycle hears of. -/
structure Near (w w' : Scheduler) : Prop where
  invocations : w'.invocations = w.invocations
  cycles : w'.cycles = w.cycles
  next : w'.next = w.next
  fired : ∀ token, w.isFired token = true → w'.isFired token = true
  ends : ∀ id, w'.ends id = w.ends id

theorem Near.refl (w : Scheduler) : Near w w := ⟨rfl, rfl, rfl, fun _ h ↦ h, fun _ ↦ rfl⟩

theorem Near.record {w w' : Scheduler} (h : Near w w') (started : Nat)
    (e : SelfMetrics.CollectEnd) :
    Near w (w'.record started e) := ⟨h.invocations, h.cycles, h.next, h.fired, h.ends⟩

/-- An invocation leaves, and its cycle is told. -/
structure Leaves (w : Scheduler) (i : Invocation) (e : InvocationEnd) (w' : Scheduler) : Prop where
  invocations : w'.invocations = w.invocations.filter (·.id ≠ i.id)
  cycles : w'.cycles = w.cycles.map fun c ↦
    if c.id = i.cycle then { c with arrived := c.arrived ++ [(i.target, e)] } else c
  next : w'.next = w.next
  fired : ∀ token, w.isFired token = true → w'.isFired token = true
  ends : ∀ id, w'.ends id = w.ends id ++ if i.cycle = id then [(i.target, e)] else []
  charges : Charges e w.metrics w'.metrics
  /-- Only a fired token lets an invocation end as cancelled. -/
  cancelled : e = .cancelled → w'.isFired i.token = true
  /-- It ends as aborted if it was told to, and only then. -/
  aborted : e = .aborted ↔ i.aborting = true
  /-- What was collected is what the call gave. -/
  collected : ∀ batch, e = .collected batch →
    ∃ b started wake limit, i.phase = .collecting b started wake limit ∧ b.result = .batch batch

theorem retire_leaves {w v : Scheduler} {i : Invocation} {e : InvocationEnd} (near : Near w v)
    (charges : Charges e w.metrics v.metrics)
    (cancelled : e = .cancelled → v.isFired i.token = true)
    (aborted : e = .aborted ↔ i.aborting = true) (collected : ∀ batch, e = .collected batch →
      ∃ b started wake limit, i.phase = .collecting b started wake limit ∧
        b.result = .batch batch) :
    Leaves w i e (v.retire i e) where
  invocations := by rw [← near.invocations]; rfl
  cycles := by rw [← near.cycles]; rfl
  next := near.next
  fired := near.fired
  ends id := by
    rw [retire, ends_note, ends_releaseGate]
    change v.ends id ++ _ = _
    rw [near.ends, Event.end?]
    split <;> rfl
  charges := charges
  cancelled := cancelled
  aborted := aborted
  collected := collected

section Turns

variable {w v : Scheduler} {i : Invocation}

theorem retireCancelled_leaves (near : Near w v) (metrics : v.metrics = w.metrics)
    (running : i.aborting = false) (fired : v.isFired i.token = true) (started : Nat) :
    Leaves w i .cancelled (v.retireCancelled i started) :=
  retire_leaves (near.record started .cancelled) (metrics ▸ charges_cancelled _ _) (fun _ ↦ fired)
    (by simp [running]) (by simp)

theorem retireLate_leaves (running : i.aborting = false) (started : Nat) :
    ∃ e, Leaves w i e (w.retireLate i started) := by
  rw [retireLate]
  split
  · rename_i fired
    exact ⟨_, retireCancelled_leaves (.refl w) rfl running fired started⟩
  · refine ⟨.timedOut, retire_leaves ⟨rfl, rfl, rfl, fun _ h ↦ h, fun _ ↦ rfl⟩
      (charges_timedOut _ _) (by simp) (by simp [running]) (by simp)⟩

/-- An invocation leaves with what its call gave. -/
theorem retireWith_leaves (near : Near w v) (metrics : v.metrics = w.metrics)
    (running : i.aborting = false) (started : Nat) (r : CollectResult)
    (given : ∀ batch, r = .batch batch →
      ∃ b started wake limit, i.phase = .collecting b started wake limit ∧
        b.result = .batch batch) :
    ∃ e, Leaves w i e (v.retireWith i started r) := by
  cases r with
  | batch l =>
    refine ⟨.collected l, retire_leaves (near.record started .ok)
      (metrics ▸ charges_collected l _ _)
      (by simp) (by simp [running]) fun batch h ↦ ?_⟩
    obtain rfl : l = batch := by simpa using h
    exact given l rfl
  | failure e =>
    rw [retireWith]
    split
    · rename_i h
      rw [Bool.and_eq_true] at h
      exact ⟨_, retireCancelled_leaves near metrics running h.2 started⟩
    · split
      · exact ⟨.failed, retire_leaves (near.record started .error) (metrics ▸ charges_failed _ _)
          (by simp) (by simp [running]) (by simp)⟩
      · exact ⟨_, retire_leaves (near.record started .error)
          (metrics ▸ charges_unexpected _ _ _ _ _)
          (by simp) (by simp [running]) (by simp)⟩
  | crash text =>
    exact ⟨_, retire_leaves near (metrics ▸ charges_panicked _ _ _) (by simp) (by simp [running])
      (by simp)⟩

end Turns

/-- The call of a collector begins. -/
structure Begins (w : Scheduler) (i : Invocation) (w' : Scheduler) : Prop where
  invocations : ∃ phase, w'.invocations = (w.putInvocation { i with phase := phase }).invocations ∧
    ∀ b started wake limit, phase = .collecting b started wake limit →
      ∃ n, b = i.target.collector.behaviour n
  cycles : w'.cycles = w.cycles
  next : w'.next = w.next
  fired : w'.fired = w.fired
  ends : ∀ id, w'.ends id = w.ends id
  metrics : w'.metrics = w.metrics

theorem beginCall_begins (s : SchedulerSetup) (w : Scheduler) (i : Invocation) :
    Begins w i (w.beginCall s i) where
  invocations := by
    refine ⟨_, rfl, fun b started wake limit h ↦ ⟨w.callCount i.target, ?_⟩⟩
    cases h
    rfl
  cycles := rfl
  next := rfl
  fired := rfl
  ends id := by
    rw [beginCall, ends_putInvocation, ends_note]
    exact List.append_nil _
  metrics := rfl

/-- **What a turn of an invocation can do**: its call begins, or it leaves. -/
theorem stepInvocation_cases {s : SchedulerSetup} {w w' : Scheduler} {i : Invocation}
    (h : w.stepInvocation s i = some w') : Begins w i w' ∨ ∃ e, Leaves w i e w' := by
  rw [stepInvocation] at h
  split at h
  · rename_i aborting
    cases h
    exact .inr ⟨.aborted, retire_leaves (.refl w) (charges_aborted _) (by simp) (by simp [aborting])
      (by simp)⟩
  rename_i aborting
  have running : i.aborting = false := by simpa using aborting
  cases phase : i.phase with
  | spawned =>
    simp only [phase, Option.some_inj] at h
    split at h
    · rename_i abandoned
      rw [Bool.and_eq_true] at abandoned
      subst h
      exact .inr ⟨_, retireCancelled_leaves (.refl w) rfl running abandoned.2 w.now⟩
    · subst h
      exact .inl (beginCall_begins s w i)
  | collecting b started wake limit =>
    simp only [phase] at h
    split at h
    · rename_i abandoned
      rw [Bool.and_eq_true] at abandoned
      cases h
      exact .inr ⟨_, retireCancelled_leaves (.refl w) rfl running abandoned.2 started⟩
    split at h
    · cases h
      have near : Near w (w.note (.gaveUp i.cycle i.target)) :=
        ⟨rfl, rfl, rfl, fun _ h ↦ h, fun id ↦ by simp [Event.end?]⟩
      exact .inr (retireWith_leaves near rfl running started _ (by simp))
    split at h
    · cases h
      refine .inr (retireWith_leaves ?_ ?_ running started _ fun batch hb ↦
        ⟨b, started, wake, limit, phase, hb⟩)
      · split
        · refine ⟨rfl, rfl, rfl, fun token hf ↦ ?_, fun id ↦ ?_⟩
          · simp only [isFired, List.contains_iff_mem] at hf ⊢
            exact List.mem_cons_of_mem _ hf
          · rw [ends_note]
            exact List.append_nil _
        · exact ⟨rfl, rfl, rfl, fun _ h ↦ h, fun id ↦ by simp [Event.end?]⟩
      · split <;> rfl
    split at h
    · cases h
      exact .inr (retireLate_leaves running started)
    · cases h

end Scheduler

end MetricsAgent
