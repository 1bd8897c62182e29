import Mathlib.Algebra.Order.BigOperators.Group.Finset
import MetricsAgent.Proofs.Scheduler.Verdict

/-!
# Undisturbed cycles return

`Scheduler.Progress` bounds the turns that are left to one cycle.  The sum of these bounds over all
cycles, the `backlog`, is lowered by every turn, whoever has it.  And as long as an undisturbed
cycle has not returned, some task has a turn after a punctual pause
(`Scheduler.Undisturbed.hasTurnLater`).

So a cycle over steady collectors whose token has not fired returns, however the tasks take their
turns from now on and whatever the pauses between them are, as long as these are punctual
(`Scheduler.Undisturbed.isBound`).

`Scheduler.IsBound` says this without a number of steps: a cycle has returned, or some task has a
turn later and the cycle is bound to return after each of them.  Its proof is an induction over the
backlog.  Other cycles may be there, and their turns count towards the backlog too; from the state
on that it is about, there are turns and pauses only, and no new cycle is called for.
-/

set_option autoImplicit false

namespace MetricsAgent

namespace Scheduler

/-! ## The backlog

A turn is made on behalf of one cycle.  It lowers the work of this one and does not raise that of
any other. -/

/-- The turns that are left at most to all cycles together. -/
def backlog (s : SchedulerSetup) (w : Scheduler) : Nat := ∑ id ∈ Finset.range w.next, w.work s id

section Backlog

variable {s : SchedulerSetup} {w w' : Scheduler}

theorem exists_owner_of_turn {t : TaskId} (e : move s (.turn t) w = some w') :
    ∃ id, w.owner? (.turn t) = some id := by
  cases effect_of_move e with
  | rests rests => exact absurd rfl (rests.idle t)
  | strides => exact ⟨_, rfl⟩
  | begins there | departs there => exact ⟨_, owner?_invocation there⟩

/-- **Every turn lowers the backlog.** -/
theorem backlog_lt_of_turn (numbered : Numbered w) {t : TaskId} (e : move s (.turn t) w = some w') :
    w'.backlog s < w.backlog s := by
  obtain ⟨id, own⟩ := exists_owner_of_turn e
  have less := work_lt_of_owner numbered e own
  have kept (n : Nat) : w'.work s n ≤ w.work s n := by
    by_cases same : n = id
    · exact same ▸ Nat.le_of_lt less
    · exact work_le_of_ne numbered e (by rw [own]; simpa [eq_comm] using same) fun _ called ↦
        nomatch called
  have new : w'.backlog s = ∑ n ∈ Finset.range w.next, w'.work s n := by
    refine (Finset.sum_subset (Finset.range_mono (next_le_move e)) fun n _ unborn ↦ ?_).symm
    have := kept n
    rw [numbered.work_of_le (by simpa using unborn)] at this
    exact Nat.le_zero.mp this
  rw [new]
  exact Finset.sum_lt_sum (fun n _ ↦ kept n)
    ⟨id, Finset.mem_range.mpr (owner?_lt numbered e own), less⟩

end Backlog

/-! ## Punctual pauses suffice

A pause that is too long for some call can be cut at the moment at which this call is to be timed
out. -/

/-- Some task has a turn after a punctual pause. -/
def HasTurnLater (s : SchedulerSetup) (w : Scheduler) : Prop :=
  ∃ ms t, w.CanPause ms ∧ (move s (.turn t) (w.elapse ms)).isSome = true

section Pauses

variable {s : SchedulerSetup} {w w' : Scheduler}

/-- If some task has a turn after a pause, some task has one after a punctual pause: in a longer
one, the invocations whose calls are to be timed out have a turn first. -/
theorem Timely.exists_pause (h : Timely s w) (numbered : Numbered w) {ms : Nat} {t : TaskId}
    (turn : (Scheduler.move s (.turn t) (w.elapse ms)).isSome = true) : HasTurnLater s w := by
  induction ms generalizing t with
  | zero => exact ⟨0, t, h.ahead, turn⟩
  | succ ms ih =>
    by_cases punctual : w.CanPause (ms + 1)
    · exact ⟨ms + 1, t, punctual, turn⟩
    · simp only [CanPause, not_forall, Nat.not_lt] at punctual
      obtain ⟨i, hi, deadline, hd, late⟩ := punctual
      obtain ⟨b, started, limit, phase, less⟩ := exists_of_deadline? hd
      refine ih (t := .invocation i.id) (move_invocation_isSome (w := w.elapse ms) ?_ hi ?_)
      · exact ⟨numbered.distinct, numbered.invocations, numbered.fresh⟩
      · refine .inr (.inr ?_)
        rw [phase]
        refine .inr (isDue_iff.mpr ⟨limit, rfl, ?_⟩)
        show limit ≤ w.now + ms
        omega

/-- The calls of steady collectors last for a time. -/
theorem Timely.finite (h : Timely s w) (genuine : Genuine w) (listed : Listed s w)
    (steady : s.registry.IsSteady) : ∀ i ∈ w.invocations, ∀ b started wake limit,
      i.phase = .collecting b started wake limit → wake ≠ none ∨ limit ≠ none := by
  intro i hi b started wake limit phase
  obtain ⟨rfl, -⟩ := h.timed i hi b started wake limit phase
  obtain ⟨n, rfl⟩ := genuine.calls i hi b started _ limit phase
  have steady := isSteady_of_mem steady (listed.targets i hi)
  obtain ⟨wait, hwait⟩ := Option.isSome_iff_exists.mp steady.finite
  left
  rw [steady.same n, hwait]
  exact Option.some_ne_none _

/-- The calls of steady collectors fire no token. -/
theorem isHarmless_of_mem (genuine : Genuine w) (listed : Listed s w) (steady : s.registry.IsSteady)
    {i : Invocation} (hi : i ∈ w.invocations) : i.IsHarmless := by
  intro b started wake limit phase
  obtain ⟨n, rfl⟩ := genuine.calls i hi b started wake limit phase
  have steady := isSteady_of_mem steady (listed.targets i hi)
  rw [steady.same n]
  exact steady.harmless

/-- No turn fires a token, if no call does so by itself. -/
theorem fired_of_turn {t : TaskId} (e : move s (.turn t) w = some w')
    (harmless : ∀ i ∈ w.invocations, i.IsHarmless) : w'.fired = w.fired := by
  cases effect_of_move e with
  | rests rests => exact absurd rfl (rests.idle t)
  | strides there stride yields => exact yields.fired
  | begins => rfl
  | departs there why departs => exact departs.fired (harmless _ (List.mem_of_find?_eq_some there))

end Pauses

/-! ## Undisturbed cycles

The token of a cycle over steady collectors does not fire by itself, so turns and pauses leave a
cycle undisturbed. -/

/-- A punctual run up to `w`, at the end of which the cycle is there and its token has not fired. -/
structure Undisturbed (s : SchedulerSetup) (metrics : SelfMetrics) (id : Nat)
    (l : List (Passage Scheduler Move)) (w : Scheduler) : Prop where
  run : Trail (move s) (start s metrics) l w
  punctual : IsPunctual l
  unfired : ∃ c, w.cycle? id = some c ∧ w.isFired c.token = false

/-- The cycle is bound to return: whichever task has the next turn, after whatever punctual pause,
and so on, this comes to an end, and not before the cycle has returned. -/
inductive IsBound (s : SchedulerSetup) (id : Nat) : Scheduler → Prop where
  | returned {w : Scheduler} {r : Except CycleError CycleReport} (h : w.result? id = some r) :
    IsBound s id w
  | later {w : Scheduler} (next : HasTurnLater s w)
    (all : ∀ ms t w', w.CanPause ms → move s (.turn t) (w.elapse ms) = some w' → IsBound s id w') :
    IsBound s id w

section Undisturbed

variable {s : SchedulerSetup} {metrics : SelfMetrics} {id : Nat} {l : List (Passage Scheduler Move)}
  {w w' : Scheduler}

theorem isPunctual_append {p : Passage Scheduler Move} (h : IsPunctual l)
    (last : ∀ ms ∈ p.move.pause?, p.before.CanPause ms) : IsPunctual (l ++ [p]) := by
  intro q hq
  rcases List.mem_append.mp hq with hq | hq
  · exact h q hq
  · rw [List.mem_singleton.mp hq]
    exact last

/-- A punctual pause leaves a cycle undisturbed. -/
theorem Undisturbed.pause (h : Undisturbed s metrics id l w) {ms : Nat} (punctual : w.CanPause ms) :
    Undisturbed s metrics id (l ++ [⟨w, .elapse ms, w.elapse ms⟩]) (w.elapse ms) where
  run := h.run.move (.elapse ms) rfl
  punctual := isPunctual_append h.punctual fun n hn ↦ by
    cases hn
    exact punctual
  unfired := h.unfired

/-- A turn of any task leaves a cycle undisturbed. -/
theorem Undisturbed.turn (h : Undisturbed s metrics id l w)
    (steady : s.registry.IsSteady) {t : TaskId} (e : move s (.turn t) w = some w') :
    Undisturbed s metrics id (l ++ [⟨w, .turn t, w'⟩]) w' where
  run := h.run.move (.turn t) e
  punctual := isPunctual_append h.punctual fun _ hn ↦ nomatch hn
  unfired := by
    obtain ⟨c, there, on⟩ := h.unfired
    obtain ⟨c', there', token⟩ := exists_cycle_of_turn e there
    have genuine := (invariant_of_trail h.run).genuine
    have fired :=
      fired_of_turn e fun i hi ↦ isHarmless_of_mem genuine (listed_of_trail h.run) steady hi
    exact ⟨c', there', by rw [token, isFired, fired]; exact on⟩

/-- **As long as an undisturbed cycle has not returned, some task has a turn** after a punctual
pause. -/
theorem Undisturbed.hasTurnLater (h : Undisturbed s metrics id l w) (steady : s.registry.IsSteady)
    {c : Cycle} (there : w.cycle? id = some c) (unended : c.phase.isOver = false) :
    HasTurnLater s w := by
  have governed := governed_of_trail h.run
  have timely := timely_of_trail h.run h.punctual
  obtain ⟨ms, t, turn⟩ := exists_turn_later governed
    (timely.finite governed.inv.genuine (listed_of_trail h.run) steady) there unended
  exact timely.exists_pause governed.inv.numbered turn

/-- **An undisturbed cycle is bound to return.** -/
theorem Undisturbed.isBound (h : Undisturbed s metrics id l w) (steady : s.registry.IsSteady) :
    IsBound s id w := by
  induction hn : w.backlog s using Nat.strongRecOn generalizing l w with
  | ind n ih =>
    obtain ⟨c, there, -⟩ := h.unfired
    cases phase : c.phase with
    | ended r => exact .returned (result?_of_ended there phase)
    | _ =>
      refine .later (h.hasTurnLater steady there (by rw [phase]; rfl)) fun ms t w' punctual e ↦ ?_
      have paused := h.pause punctual
      have less := backlog_lt_of_turn (invariant_of_trail paused.run).numbered e
      exact ih _ (hn ▸ less) (paused.turn steady e) rfl

end Undisturbed

end Scheduler

end MetricsAgent
