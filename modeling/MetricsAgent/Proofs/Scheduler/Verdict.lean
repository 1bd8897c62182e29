import MetricsAgent.Proofs.Scheduler.Calls

/-!
# Verdicts

A collector is *steady* if all its calls do the same, take a finite time and leave the token alone.
How a call of it ends is then settled beforehand: it gives its result, unless the time limit is
shorter than its wait.  This is the *verdict* on the collector (`Scheduler.Target.verdict`).

Time is not under the control of a scheduler.  A call that is to be timed out gives its result after
all if its invocation has no turn between the limit and the end of the wait, so the verdicts stand
only in runs without such a pause (`Scheduler.IsPunctual`).  In these, the invocations of a cycle
end with their verdicts unless they are aborted, as long as the token of the cycle has not fired
(`Scheduler.judged_of_trail`).

Two invariants lead there.

* `Scheduler.Listed`: cycles and invocations are about collectors of the registry, so that each of
  them is steady if the registry is.
* `Scheduler.Timely`: the wait and the limit of a call began with the call, and no call that is to
  be timed out is over its wait.

A verdict does not depend on the mode, and it does not say when the call ends or whether there is
one.
-/

set_option autoImplicit false

namespace MetricsAgent

/-- All calls of the collector do the same, take a finite time, and leave the token of the cycle
alone. -/
structure Collector.IsSteady (k : Collector) : Prop where
  same : ∀ n, k.behaviour n = k.behaviour 0
  finite : (k.behaviour 0).waitMs.isSome = true
  harmless : (k.behaviour 0).cancelsOuter = false

/-- All collectors are steady. -/
def Registry.IsSteady (r : Registry) : Prop := ∀ m ∈ r.modules, ∀ k ∈ m.collectors, k.IsSteady

/-- Whether a call takes longer than it may. -/
def Behaviour.isLate (timeout : Option Duration) (b : Behaviour) : Bool :=
  timeout.any fun limit ↦ b.waitMs.all fun wait ↦ limit.ceilMillis < wait

/-- Whether an end aborts the cycle. -/
def InvocationEnd.isFatal : InvocationEnd → Bool
  | .fatal _ => true
  | _ => false

/-- The module that an error is about. -/
def CycleError.module : CycleError → String
  | unexpected m _ _ | panicked m _ => m

/-- A call that begins at `started` takes longer than it may if the limit comes before the end of
the wait. -/
theorem Behaviour.isLate_iff {timeout : Option Duration} {b : Behaviour} {wait : Nat}
    (h : b.waitMs = some wait) (started : Nat) : b.isLate timeout = true ↔
      ∃ limit, timeout.map (started + ·.ceilMillis) = some limit ∧ limit < started + wait := by
  cases timeout with
  | none => simp [isLate]
  | some d =>
    rw [isLate, h, Option.any_some, Option.all_some, decide_eq_true_iff, Option.map_some]
    constructor
    · exact fun late ↦ ⟨_, rfl, Nat.add_lt_add_left late started⟩
    · rintro ⟨_, same, late⟩
      cases same
      exact Nat.lt_of_add_lt_add_left late

namespace Scheduler

/-- How a call of the collector ends by itself. -/
def Target.verdict (timeout : Option Duration) (t : Target) : InvocationEnd :=
  let b := t.collector.behaviour 0
  if b.isLate timeout then .timedOut else b.result.end_ t false

section Verdict

variable {timeout : Option Duration} {t : Target}

/-- What a call gives on its own is neither a cancellation nor an abortion, and an error is about
its module. -/
theorem end_of_unfired (t : Target) (r : CollectResult) :
    r.end_ t false ≠ .cancelled ∧ r.end_ t false ≠ .aborted ∧
      ∀ e, r.end_ t false = .fatal e → e.module = t.module := by
  cases r with
  | batch l => simp [CollectResult.end_]
  | failure e =>
    simp only [CollectResult.end_, Bool.and_false, Bool.false_eq_true, if_false]
    split
    · simp
    · simp only [ne_eq, reduceCtorEq, not_false_eq_true, InvocationEnd.fatal.injEq, true_and]
      rintro _ rfl
      rfl
  | crash text =>
    simp only [CollectResult.end_, ne_eq, reduceCtorEq, not_false_eq_true,
      InvocationEnd.fatal.injEq, true_and]
    rintro _ rfl
    rfl

theorem verdict_ne (timeout : Option Duration) (t : Target) :
    t.verdict timeout ≠ .cancelled ∧ t.verdict timeout ≠ .aborted ∧
      ∀ e, t.verdict timeout = .fatal e → e.module = t.module := by
  rw [Target.verdict]
  split
  · simp
  · exact end_of_unfired t _

/-- A verdict is in order or fatal. -/
theorem isRegular_verdict (timeout : Option Duration) (t : Target) :
    (t.verdict timeout).isRegular = !(t.verdict timeout).isFatal := by
  obtain ⟨-, unaborted, -⟩ := verdict_ne timeout t
  cases e : t.verdict timeout with
  | aborted => exact absurd e unaborted
  | _ => rfl

end Verdict

theorem isSteady_of_mem {r : Registry} (h : r.IsSteady) {t : Target} (ht : t ∈ r.targets) :
    t.collector.IsSteady := by
  obtain ⟨m, hm, mem⟩ := List.mem_flatMap.mp ht
  obtain ⟨k, hk, rfl⟩ := List.mem_map.mp mem
  exact h m hm k hk

/-! ## Only registered collectors are called

A phase lists the modules and the collectors that are left, which come from the registry. -/

/-- The modules of a phase are registered, and the collectors that are left are those of its
module. -/
def CyclePhase.IsListed (r : Registry) : CyclePhase → Prop
  | visiting rest => rest <:+ r.modules
  | opening m rest _ | joining m _ rest | closing m _ rest _ => m :: rest <:+ r.modules
  | spawning m left rest | starting m left rest | awaiting m left rest =>
    m :: rest <:+ r.modules ∧ left <:+ m.collectors
  | arriving | queued | ended _ => True

/-- Cycles and invocations are about the collectors of the registry. -/
structure Listed (s : SchedulerSetup) (w : Scheduler) : Prop where
  phases : ∀ id c, w.cycle? id = some c → c.phase.IsListed s.registry
  targets : ∀ i ∈ w.invocations, i.target ∈ s.registry.targets

section Listed

variable {s : SchedulerSetup} {w w' : Scheduler} {m : Move}

/-- A turn of a cycle stays within the registry. -/
theorem Stride.isListed {c c' : Cycle} {es : List Event} {new : List Invocation}
    (h : Stride s w c c' es new) (before : c.phase.IsListed s.registry) :
    c'.phase.IsListed s.registry ∧ ∀ i ∈ new, i.target ∈ s.registry.targets := by
  have next {n : CollectorModule} {rest : List CollectorModule}
      (inside : n :: rest <:+ s.registry.modules) : rest <:+ s.registry.modules :=
    (List.suffix_cons n rest).trans inside
  have others {k : Collector} {left l : List Collector} (inside : k :: left <:+ l) : left <:+ l :=
    (List.suffix_cons k left).trans inside
  cases h with
  | arrives | endsEarly | ends | errs => exact ⟨trivial, by simp⟩
  | passes => exact ⟨List.suffix_refl _, by simp⟩
  | skipsModule phase | goesOn phase => rw [phase] at before; exact ⟨next before, by simp⟩
  | opens h hooks phase => rw [phase] at before; exact ⟨before, by simp⟩
  | unfolds φ phase after =>
    rcases phase with ⟨phase, -⟩ | ⟨t, phase, -⟩ <;> rw [phase] at before <;>
      rcases after with rfl | rfl <;>
      exact ⟨⟨before, List.suffix_refl _⟩, by simp⟩
  | skips φ phase =>
    rcases phase with ⟨phase, rfl⟩ | ⟨phase, rfl⟩ <;> rw [phase] at before <;>
      exact ⟨⟨before.1, others before.2⟩, by simp⟩
  | @spawns n k left rest φ pooled phase =>
    have listed (inside : n :: rest <:+ s.registry.modules ∧ k :: left <:+ n.collectors) :
        (⟨n.name, k⟩ : Target) ∈ s.registry.targets :=
      List.mem_flatMap.mpr ⟨n, inside.1.subset (List.mem_cons_self ..),
        List.mem_map.mpr ⟨k, inside.2.subset (List.mem_cons_self ..), rfl⟩⟩
    rcases phase with ⟨phase, rfl⟩ | ⟨phase, rfl⟩ <;> rw [phase] at before <;>
      exact ⟨⟨before.1, others before.2⟩, fun i hi ↦ by
        rw [List.mem_singleton.mp hi]
        exact listed before⟩
  | gathers phase => rw [phase] at before; exact ⟨before.1, by simp⟩
  | enters phase => exact ⟨before, by simp⟩
  | fails phase => rw [phase] at before; exact ⟨before, by simp⟩
  | takes phase => rw [phase] at before; exact ⟨before, by simp⟩
  | closes arrived until_ phase =>
    rcases phase with ⟨⟨phase, -⟩ | ⟨phase, -⟩, -⟩ | ⟨left, t, e, phase, -⟩ <;> rw [phase] at before
    · exact ⟨before, by simp⟩
    · exact ⟨before.1, by simp⟩
    · exact ⟨before.1, by simp⟩

/-- **Every move stays within the registry.** -/
theorem Listed.move (h : Listed s w) (numbered : Numbered w) (e : Scheduler.move s m w = some w') :
    Listed s w' where
  phases id c' hc' := by
    cases fate_of_move numbered e hc' with
    | stays c more there phase => rw [phase]; exact h.phases id c there
    | isCalled new arriving => rw [arriving]; trivial
    | turns c es new own there stride => exact (stride.isListed (h.phases id c there)).1
  targets i hi := by
    cases origin_of_move e i hi with
    | kept j there same =>
      rcases same with rfl | rfl
      · exact h.targets i there
      · exact h.targets j there
    | begun j there spawned same => subst same; exact h.targets j there
    | new c c' es new there stride mem => exact (stride.isListed (h.phases c.id c there)).2 i mem

theorem listed_of_trail {metrics : SelfMetrics} {l : List (Passage Scheduler Move)}
    (h : Trail (Scheduler.move s) (start s metrics) l w) : Listed s w := by
  induction h with
  | start => exact ⟨fun _ _ hc ↦ (nomatch hc), fun _ hi ↦ (nomatch hi)⟩
  | move run m e ih => exact ih.move (invariant_of_trail run).numbered e

end Listed

/-! ## Calls that are to be timed out

A pause is punctual if it is over before the wait of every call that is to be timed out.  This is a
condition on the moves in which time passes. -/

/-- The end of the wait of a call that is to be timed out before. -/
def Invocation.deadline? (i : Invocation) : Option Nat :=
  match i.phase with
  | .collecting _ _ (some wake) (some limit) => if limit < wake then some wake else none
  | _ => none

/-- After a pause, calls that are to be timed out are still waiting. -/
def CanPause (w : Scheduler) (ms : Nat) : Prop :=
  ∀ i ∈ w.invocations, ∀ t ∈ i.deadline?, w.now + ms < t

instance (w : Scheduler) (ms : Nat) : Decidable (w.CanPause ms) :=
  inferInstanceAs (Decidable (∀ i ∈ w.invocations, ∀ t ∈ i.deadline?, w.now + ms < t))

/-- The time that passes in a move. -/
def Move.pause? : Move → Option Nat
  | elapse ms => some ms
  | _ => none

/-- Whenever a call is to be timed out, its invocation has a turn before the wait is over. -/
def IsPunctual (l : List (Passage Scheduler Move)) : Prop :=
  ∀ p ∈ l, ∀ ms ∈ p.move.pause?, p.before.CanPause ms

instance (l : List (Passage Scheduler Move)) : Decidable (IsPunctual l) :=
  inferInstanceAs (Decidable (∀ p ∈ l, ∀ ms ∈ p.move.pause?, p.before.CanPause ms))

/-- The wait and the limit of a call begin with the call. -/
def Invocation.IsTimed (timeout : Option Duration) (i : Invocation) : Prop :=
  ∀ b started wake limit, i.phase = .collecting b started wake limit →
    wake = b.waitMs.map (started + ·) ∧ limit = timeout.map (started + ·.ceilMillis)

/-- The calls under way are timed, and none of those that are to be timed out is over its wait. -/
structure Timely (s : SchedulerSetup) (w : Scheduler) : Prop where
  timed : ∀ i ∈ w.invocations, i.IsTimed s.config.timeout
  ahead : w.CanPause 0

section Timely

variable {s : SchedulerSetup} {w w' : Scheduler} {m : Move}

/-- Time passes only where a move says so. -/
theorem now_of_move (e : move s m w = some w') :
    w'.now = w.now ∨ ∃ ms, m = .elapse ms ∧ w' = w.elapse ms := by
  cases effect_of_move e with
  | rests rests => exact rests.now
  | strides there stride yields => exact .inl yields.now
  | begins => exact .inl rfl
  | departs there why departs => exact .inl departs.now

theorem deadline?_of_spawned {i : Invocation} (h : i.phase = .spawned) : i.deadline? = none := by
  rw [Invocation.deadline?, h]

theorem exists_of_deadline? {i : Invocation} {t : Nat} (h : i.deadline? = some t) :
    ∃ b started limit, i.phase = .collecting b started (some t) (some limit) ∧ limit < t := by
  rw [Invocation.deadline?] at h
  split at h
  · rename_i b started wake limit phase
    obtain ⟨less, same⟩ := Option.ite_none_right_eq_some.mp h
    cases same
    exact ⟨b, started, limit, phase, less⟩
  · cases h

/-- A call that begins is not over its wait. -/
theorem lt_deadline_of_begun (s : SchedulerSetup) (w : Scheduler) (i : Invocation) {t : Nat}
    (h : (w.begun s i).deadline? = some t) : w.now < t := by
  obtain ⟨b, started, limit, phase, less⟩ := exists_of_deadline? h
  obtain ⟨-, rfl, -, timed⟩ := InvocationPhase.collecting.inj phase
  obtain ⟨d, -, rfl⟩ := Option.map_eq_some_iff.mp timed
  exact Nat.lt_of_le_of_lt (Nat.le_add_right _ _) less

/-- **Every move but a pause that is too long keeps the calls timely.** -/
theorem Timely.move (h : Timely s w) (e : Scheduler.move s m w = some w')
    (pause : ∀ ms ∈ m.pause?, w.CanPause ms) : Timely s w' where
  timed i hi := by
    cases origin_of_move e i hi with
    | kept j there same =>
      rcases same with rfl | rfl
      · exact h.timed i there
      · exact h.timed j there
    | begun j there spawned same =>
      subst same
      rintro b started wake limit phase
      cases phase
      exact ⟨rfl, rfl⟩
    | new c c' es new there stride mem =>
      intro b started wake limit phase
      rw [(stride.of_new i mem).2.2] at phase
      cases phase
  ahead i hi t deadline := by
    rcases now_of_move e with now | ⟨ms, rfl, rfl⟩
    · rw [now]
      cases origin_of_move e i hi with
      | kept j there same =>
        rcases same with rfl | rfl
        · exact h.ahead i there t deadline
        · exact h.ahead j there t deadline
      | begun j there spawned same =>
        subst same
        exact lt_deadline_of_begun s w j deadline
      | new c c' es new there stride mem =>
        rw [deadline?_of_spawned (stride.of_new i mem).2.2] at deadline
        cases deadline
    · exact pause ms rfl i hi t deadline

theorem timely_of_trail {metrics : SelfMetrics} {l : List (Passage Scheduler Move)}
    (h : Trail (Scheduler.move s) (start s metrics) l w) (punctual : IsPunctual l) :
    Timely s w := by
  induction h with
  | start => exact ⟨fun _ hi ↦ (nomatch hi), fun _ hi ↦ (nomatch hi)⟩
  | move run m e ih =>
    exact (ih fun p hp ↦ punctual p (List.mem_append_left _ hp)).move e
      (punctual _ (List.mem_append_right _ (List.mem_singleton_self _)))

end Timely

/-! ## Ends and verdicts

An invocation that leaves because its call has ended, or because it is late, does so with its
verdict.  It leaves otherwise only if its token has fired or if it was told to stop. -/

section Judged

variable {s : SchedulerSetup} {w w' : Scheduler} {m : Move}

theorem isDue_iff {t : Option Nat} : w.isDue t = true ↔ ∃ n, t = some n ∧ n ≤ w.now := by
  cases t <;> simp [isDue]

/-- **An invocation leaves with its verdict**, unless it is aborted, as long as the token has not
fired. -/
theorem ReasonToLeave.verdict {i : Invocation} {e : InvocationEnd} {es : List Event}
    (h : ReasonToLeave s w i e es) (timely : Timely s w) (genuine : Genuine w)
    (mem : i ∈ w.invocations) (steady : i.target.collector.IsSteady)
    (on : w.isFired i.token = false) : e = i.target.verdict s.config.timeout ∨ e = .aborted := by
  have called {b : Behaviour} {started : Nat} {wake limit : Option Nat}
      (phase : i.phase = .collecting b started wake limit) :
      ∃ wait, b = i.target.collector.behaviour 0 ∧ b.waitMs = some wait ∧
        wake = some (started + wait) ∧ limit = s.config.timeout.map (started + ·.ceilMillis) := by
    obtain ⟨n, rfl⟩ := genuine.calls i mem b started wake limit phase
    obtain ⟨rfl, limited⟩ := timely.timed i mem _ started wake limit phase
    obtain ⟨wait, hwait⟩ := Option.isSome_iff_exists.mp steady.finite
    rw [steady.same n]
    exact ⟨wait, rfl, hwait, by rw [hwait]; rfl, limited⟩
  cases h with
  | aborted => exact .inr rfl
  | abandoned unmarked off => rw [isCalledOff, on, Bool.and_false] at off; cases off
  | gaveUp unmarked phase fired => rw [on] at fired; cases fired
  | @returned b started wake limit unmarked phase due =>
    obtain ⟨wait, same, hwait, rfl, limited⟩ := called phase
    have woken : started + wait ≤ w.now := by simpa [isDue] using due
    -- Were the call to be timed out, its invocation would have had a turn before.
    have in_time : b.isLate s.config.timeout = false := by
      refine Bool.eq_false_iff.mpr fun late ↦ ?_
      obtain ⟨time, timed, less⟩ := (Behaviour.isLate_iff hwait started).mp late
      have deadline : i.deadline? = some (started + wait) := by
        rw [Invocation.deadline?, phase, limited, timed]
        exact if_pos less
      have := timely.ahead i mem _ deadline
      omega
    left
    rw [Target.verdict, ← same, in_time, on, same, steady.harmless]
    rfl
  | @late b started wake limit unmarked phase undue due =>
    obtain ⟨wait, same, hwait, rfl, limited⟩ := called phase
    have waiting : w.now < started + wait := by simpa [isDue] using undue
    have late : b.isLate s.config.timeout = true := by
      obtain ⟨time, rfl, reached⟩ := isDue_iff.mp due
      exact (Behaviour.isLate_iff hwait started).mpr ⟨time, limited.symm, by omega⟩
    left
    rw [Target.verdict, ← same, late, on]
    rfl

/-- The ends in cycles whose token has not fired are the verdicts, but for aborted invocations. -/
def Judged (s : SchedulerSetup) (w : Scheduler) : Prop :=
  ∀ id c, w.cycle? id = some c → w.isFired c.token = false →
    ∀ a ∈ w.ends id, a.2 = a.1.verdict s.config.timeout ∨ a.2 = .aborted

theorem not_isFired_of_move (e : move s m w = some w') {token : Nat}
    (h : w'.isFired token = false) : w.isFired token = false := by
  refine Bool.eq_false_iff.mpr fun fired ↦ ?_
  rw [isFired_of_move e fired] at h
  cases h

/-- **Every move leaves the ends judged.** -/
theorem Judged.move (h : Judged s w) (inv : Invariant s w) (listed : Listed s w)
    (timely : Timely s w) (steady : s.registry.IsSteady) (e : Scheduler.move s m w = some w') :
    Judged s w' := by
  intro id c' hc' on'
  obtain ⟨more, ends, leaving⟩ := ends_of_move inv.numbered e id
  have judged {c : Cycle} (there : w.cycle? id = some c) (token : c'.token = c.token) :
      ∀ a ∈ w'.ends id, a.2 = a.1.verdict s.config.timeout ∨ a.2 = .aborted := by
    have on := not_isFired_of_move e (token ▸ on')
    intro a ha
    rw [ends] at ha
    rcases List.mem_append.mp ha with ha | ha
    · exact h id c there on a ha
    · obtain ⟨i, hi, target, es, why⟩ := leaving a ha
      have mem := (mem_invocationsOf.mp hi).1
      rw [target]
      exact why.verdict timely inv.genuine mem (isSteady_of_mem steady (listed.targets i mem))
        ((inv.cycles id c there).tokens i hi ▸ on)
  cases fate_of_move inv.numbered e hc' with
  | stays c more there phase token => exact judged there token
  | isCalled new =>
    obtain ⟨-, crew, before⟩ := inv.numbered.fresh id (Nat.le_of_eq new.symm)
    rw [ends, before]
    intro a ha
    obtain ⟨i, hi, -⟩ := leaving a ha
    rw [crew] at hi
    cases hi
  | turns c es new own there stride => exact judged there stride.token_eq

theorem judged_of_trail {metrics : SelfMetrics} {l : List (Passage Scheduler Move)}
    (h : Trail (Scheduler.move s) (start s metrics) l w) (punctual : IsPunctual l)
    (steady : s.registry.IsSteady) : Judged s w := by
  induction h with
  | start => exact fun _ _ hc ↦ nomatch hc
  | move run m e ih =>
    have before : IsPunctual _ := fun p hp ↦ punctual p (List.mem_append_left _ hp)
    exact (ih before).move (invariant_of_trail run) (listed_of_trail run)
      (timely_of_trail run before) steady e

end Judged

end Scheduler

end MetricsAgent
