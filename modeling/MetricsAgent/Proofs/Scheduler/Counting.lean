import MetricsAgent.Proofs.Scheduler.Accounting

/-!
# What turns count

A turn brings no cycle into being and takes none away, and it counts at most one of them, at its end
(`Scheduler.CountTurn`).  All other moves leave the counters of cycles alone.

`Scheduler.counter?` tells of each cycle that is there by which counter it was counted, and `none`
as long as it goes on.  `Scheduler.countTurn_of_step` relates this to the counters: either no cycle
changes in this respect and the counters stay, or one cycle that was not counted before now is, by
one counter, which has grown by one.

This is what those need who keep books about several cycles at once, as a server does for its
scrapes: the number of cycles that were counted by a counter grows just when the counter does.  For
the accounts of one cycle it is not needed.

Cycles that have returned are taken away when someone takes their result, which changes no counter.
-/

set_option autoImplicit false

namespace MetricsAgent

namespace Scheduler

/-- The counter that has counted a cycle. -/
def counter? (w : Scheduler) (id : Nat) : Option CycleCounter :=
  (w.cycle? id).bind (·.phase.counter?)

/-- What a turn does to the counters of cycles. -/
inductive CountTurn (w w' : Scheduler) : Prop
  | none (same : ∀ id, w'.counter? id = w.counter? id)
    (read : ∀ k : CycleCounter, k.read w'.metrics = k.read w.metrics)
  /-- A cycle comes to its end. -/
  | one (id : Nat) (k : CycleCounter) (there : (w.cycle? id).isSome = true)
    (before : w.counter? id = .none) (after : w'.counter? id = some k)
    (others : ∀ n, n ≠ id → w'.counter? n = w.counter? n)
    (read : ∀ j : CycleCounter, j.read w'.metrics = j.read w.metrics + if j = k then 1 else 0)

theorem CyclePhase.exists_of_isOver {φ : CyclePhase} (h : φ.isOver = true) : ∃ r, φ = .ended r := by
  cases φ with
  | ended r => exact ⟨r, rfl⟩
  | _ => cases h

section

variable {s : SchedulerSetup} {w w' : Scheduler}

theorem counter?_eq {id : Nat} {c : Cycle} (there : w.cycle? id = some c) :
    w.counter? id = c.phase.counter? := by
  rw [counter?, there, Option.bind_some]

/-- A cycle that has returned was counted by the counter that belongs to its result. -/
theorem counter?_of_result {id : Nat} {r : Except CycleError CycleReport}
    (returned : w.result? id = some r) : w.counter? id = some (.of r) := by
  obtain ⟨c, there, phase⟩ := result?_eq_some returned
  rw [counter?_eq there, phase, CyclePhase.counter?]

/-- What is told of ended invocations counts no cycle. -/
theorem Leaves.counter? {i : Invocation} {e : InvocationEnd} (h : Leaves w i e w') (id : Nat) :
    w'.counter? id = w.counter? id := by
  rw [Scheduler.counter?, h.cycle?, Option.bind_map, Scheduler.counter?]
  congr 1
  funext c
  rw [Function.comp_apply]
  split <;> rfl

theorem Numbered.counter?_call (h : Numbered w) (token id : Nat) :
    (w.call token).counter? id = w.counter? id := by
  rw [counter?, h.cycle?_call]
  split
  · rename_i new
    rw [counter?, (h.fresh id (Nat.le_of_eq new.symm)).1]
    rfl
  · rfl

theorem Drops.counter? {n : Nat} (h : Drops w n w') {id : Nat} (other : id ≠ n) :
    w'.counter? id = w.counter? id := by
  rw [Scheduler.counter?, h.cycle?, if_neg other, Scheduler.counter?]

/-- Turns bring no cycle into being and take none away. -/
theorem isSome_cycle?_of_step {t : TaskId} (e : w.step s t = some w') (id : Nat) :
    (w'.cycle? id).isSome = (w.cycle? id).isSome := by
  cases t with
  | cycle n =>
    obtain ⟨c, c', there, rfl, -, advance, frame⟩ := step_cycle e
    have same := advance.id_eq
    by_cases own : id = c'.id
    · subst own
      rw [← same] at there
      rw [frame.cycle?_self there, there]
      rfl
    · rw [frame.cycle?_of_ne own]
  | invocation n =>
    obtain ⟨i, -, turn⟩ := Option.bind_eq_some_iff.mp e
    rcases stepInvocation_cases turn with begins | ⟨end_, leaves⟩
    · rw [cycle?, begins.cycles, cycle?]
    · rw [leaves.cycle?, Option.isSome_map]

/-- **A turn counts at most one cycle**, which was not counted before. -/
theorem countTurn_of_step (h : Invariant s w) {t : TaskId} (e : w.step s t = some w') :
    CountTurn w w' := by
  cases t with
  | cycle n =>
    obtain ⟨c, c', there, rfl, turn, advance, frame⟩ := step_cycle e
    have self : w'.cycle? c.id = some c' := by
      rw [← advance.id_eq]
      exact frame.cycle?_self (by rw [advance.id_eq]; exact there)
    have others (id : Nat) (other : id ≠ c.id) : w'.counter? id = w.counter? id := by
      rw [counter?, frame.cycle?_of_ne (by rw [advance.id_eq]; exact other), counter?]
    have before : w.counter? c.id = none := (counter?_eq there).trans (counter?_of_stepCycle turn)
    have read := h.count_of_advance there advance
    cases counted : c'.phase.counter? with
    | none =>
      refine .none (fun id ↦ ?_) fun k ↦ ?_
      · by_cases own : id = c.id
        · rw [own, before, counter?_eq self, counted]
        · exact others id own
      · rw [read, counted, if_neg (by simp), UInt64.add_zero]
    | some k =>
      refine .one c.id k (by rw [there]; rfl) before
        (by rw [counter?_eq self, counted]) others fun j ↦ ?_
      rw [read, counted]
      simp only [Option.some_inj, eq_comm]
  | invocation n =>
    obtain ⟨i, -, turn⟩ := Option.bind_eq_some_iff.mp e
    rcases stepInvocation_cases turn with begins | ⟨end_, leaves⟩
    · refine .none (fun id ↦ ?_) fun k ↦ by rw [begins.metrics]
      rw [counter?, counter?, cycle?, cycle?, begins.cycles]
    · exact .none leaves.counter? leaves.charges.cycle

end

end Scheduler

end MetricsAgent
