import MetricsAgent.Proofs.Scheduler.Calls

/-!
# What a fired token does to a cycle

A cycle whose token has fired is *called off* if the scheduler cancels fast.  From then on it begins
no call and no hook before a module, and one of its own tasks always has a turn at once, unless a
hook is running: it waits for no collector.  The number of these turns is bounded, so the cycle
ends.

If the scheduler does not cancel fast, a fired token prevents nothing: a cycle that returns a report
has called every collector, and the token only shows in the outcome.

`Scheduler.cancellation_policy` is both, for every moment at which the token may have fired.  Its
parts are

* `Scheduler.CalledOff`, from a state in which the cycle is there and its token has fired up to any
  later one,
* `Scheduler.SeenThrough`, for a cycle that has returned a report in a run.

A called-off cycle may still begin one hook, that after the module which it is in.  A cycle that has
not passed the gate does not pass it any more, and returns with everything skipped.

The token of a cycle may be fired from outside or by a call of one of its collectors, and may be
shared by several cycles.  Nothing here depends on that.
-/

set_option autoImplicit false

namespace MetricsAgent

namespace Scheduler

/-! ## Called-off cycles

Nobody may wait for a called-off cycle any more, and then its invocations go on without it.  That is
why `Hushed` speaks of both. -/

/-- Whether an event is the beginning of a call or of a hook before a module, in a cycle. -/
def Event.isBeginningOf (cycle : Nat) : Event → Bool
  | before c _ | started c _ _ => c = cycle
  | _ => false

/-- The calls and the hooks before modules that a cycle has begun, in order. -/
def beginnings (w : Scheduler) (cycle : Nat) : List Event := w.told.filter (·.isBeginningOf cycle)

/-- Whether an event is the beginning of a hook after a module, in a cycle. -/
def Event.isAfterOf (cycle : Nat) : Event → Bool
  | after c _ => c = cycle
  | _ => false

/-- The hooks after modules that a cycle has begun, in order. -/
def afters (w : Scheduler) (cycle : Nat) : List Event := w.told.filter (·.isAfterOf cycle)

/-- The hooks after modules that a called-off cycle still has ahead: that of the module it is in. -/
def CyclePhase.aftersLeft : CyclePhase → Nat
  | opening .. | spawning .. | joining .. | starting .. | awaiting .. => 1
  | _ => 0

/-- The hooks after modules that a called-off cycle still has ahead. -/
def aftersLeft (w : Scheduler) (id : Nat) : Nat := ((w.cycle? id).map (·.phase.aftersLeft)).getD 0

/-- The cycle is called off, and so are all of its invocations, also when nobody waits for it any
more. -/
structure Hushed (s : SchedulerSetup) (w : Scheduler) (id : Nat) : Prop where
  known : id < w.next
  cycle : ∀ c, w.cycle? id = some c → w.isCalledOff s c.token = true
  crew : ∀ i ∈ w.invocationsOf id, w.isCalledOff s i.token = true

section Hushed

variable {s : SchedulerSetup} {w w' v : Scheduler} {m : Move} {id : Nat} {c : Cycle}

theorem isCalledOff_of_move (e : move s m w = some w') {token : Nat}
    (h : w.isCalledOff s token = true) : w'.isCalledOff s token = true := by
  refine Bool.not_eq_false _ ▸ fun on ↦ ?_
  rw [not_isCalledOff_of_move e on] at h
  cases h

/-- A cycle under a fired token is hushed, if the scheduler cancels fast. -/
theorem Invariant.hushed (h : Invariant s w) (there : w.cycle? id = some c)
    (off : w.isCalledOff s c.token = true) : Hushed s w id where
  known := h.numbered.lt_of_cycle? there
  cycle d hd := by
    obtain rfl : c = d := Option.some.inj (there.symm.trans hd)
    exact off
  crew i hi := by
    rw [(h.cycles id c there).tokens i hi]
    exact off

/-- **Every move keeps a cycle hushed.** -/
theorem Hushed.move (h : Hushed s w id) (numbered : Numbered w)
    (e : Scheduler.move s m w = some w') : Hushed s w' id where
  known := Nat.lt_of_lt_of_le h.known (next_le_move e)
  cycle c' hc' := by
    cases fate_of_move numbered e hc' with
    | stays c more there phase token => rw [token]; exact isCalledOff_of_move e (h.cycle c there)
    | isCalled new => exact absurd h.known (by omega)
    | turns c es new own there stride =>
      rw [stride.token_eq]
      exact isCalledOff_of_move e (h.cycle c there)
  crew i hi := by
    obtain ⟨there, cycle⟩ := mem_invocationsOf.mp hi
    refine isCalledOff_of_move e ?_
    cases origin_of_move e i there with
    | kept j before same =>
      rcases same with rfl | rfl
      · exact h.crew i (mem_invocationsOf.mpr ⟨before, cycle⟩)
      · exact h.crew j (mem_invocationsOf.mpr ⟨before, cycle⟩)
    | begun j before spawned same =>
      subst same
      exact h.crew j (mem_invocationsOf.mpr ⟨before, cycle⟩)
    | new c c' es new before stride mem =>
      obtain ⟨own, token, -⟩ := stride.of_new i mem
      rw [token]
      exact h.cycle c (by rw [← cycle, own]; exact before)

/-- A turn of a called-off cycle begins nothing, and at most one hook after a module. -/
theorem Stride.calledOff {c' : Cycle} {es : List Event} {new : List Invocation}
    (h : Stride s w c c' es new) (off : w.isCalledOff s c.token = true) :
    es.filter (·.isBeginningOf c.id) = [] ∧
      (es.filter (·.isAfterOf c.id)).length + c'.phase.aftersLeft ≤ c.phase.aftersLeft := by
  have never {p : Prop} (on : w.isCalledOff s c.token = false) : p := by rw [off] at on; cases on
  cases h with
  | arrives phase on => exact never on
  | passes phase on => exact never on
  | opens h hooks phase on => exact never on
  | spawns φ pooled phase on => exact never on
  | unfolds φ phase after =>
    rcases phase with ⟨-, -, on⟩ | ⟨t, phase, -⟩
    · exact never on
    · rw [phase]
      rcases after with rfl | rfl <;> exact ⟨rfl, Nat.le_refl _⟩
  | skips φ phase =>
    rcases phase with ⟨phase, rfl⟩ | ⟨phase, rfl⟩ <;> rw [phase] <;> exact ⟨rfl, Nat.le_refl _⟩
  | closes arrived until_ phase =>
    have inside : c.phase.aftersLeft = 1 := by
      rcases phase with ⟨⟨phase, -⟩ | ⟨phase, -⟩, -⟩ | ⟨left, t, e, phase, -⟩ <;> rw [phase] <;> rfl
    rw [inside, afterEvents]
    split
    · exact ⟨rfl, by simp [Event.isAfterOf, CyclePhase.aftersLeft]⟩
    · exact ⟨rfl, Nat.zero_le _⟩
  | enters phase => exact ⟨rfl, Nat.le_of_eq (Nat.zero_add _)⟩
  | gathers phase | fails phase | takes phase | goesOn phase | skipsModule phase =>
    rw [phase]
    exact ⟨rfl, Nat.le_refl _⟩
  | endsEarly | errs | ends => exact ⟨rfl, Nat.zero_le _⟩

theorem Event.cycle_of_isBeginningOf {e : Event} (h : e.isBeginningOf id = true) :
    e.cycle = id := by
  cases e <;> first | exact of_decide_eq_true h | cases h

theorem Event.cycle_of_isAfterOf {e : Event} (h : e.isAfterOf id = true) : e.cycle = id := by
  cases e <;> first | exact of_decide_eq_true h | cases h

/-- Nothing is told of beginnings and of hooks after modules. -/
theorem silent_of_told {es : List Event} (told : w'.told = w.told ++ es)
    (none : ∀ x ∈ es, ¬x.isBeginningOf id = true ∧ ¬x.isAfterOf id = true) :
    w'.beginnings id = w.beginnings id ∧ w'.afters id = w.afters id := by
  rw [beginnings, afters, told, List.filter_append, List.filter_append,
    List.filter_eq_nil_iff.mpr fun x hx ↦ (none x hx).1,
    List.filter_eq_nil_iff.mpr fun x hx ↦ (none x hx).2, List.append_nil, List.append_nil]
  exact ⟨rfl, rfl⟩

/-- A move that is no turn of the hushed cycle itself tells nothing of either. -/
theorem Hushed.silent (h : Hushed s w id) (e : Scheduler.move s m w = some w')
    (other : m ≠ .turn (.cycle id)) :
    w'.beginnings id = w.beginnings id ∧ w'.afters id = w.afters id := by
  by_cases own : w.owner? m = some id
  · cases effect_of_move e with
    | rests rests => rw [rests.owner?_eq] at own; cases own
    | strides =>
      cases own
      exact absurd rfl other
    | @begins i there spawned on =>
      rw [owner?_invocation there] at own
      cases own
      have off := h.crew i (mem_invocationsOf.mpr ⟨List.mem_of_find?_eq_some there, rfl⟩)
      rw [off] at on
      cases on
    | departs there why departs =>
      refine silent_of_told departs.told fun x hx ↦ ?_
      rcases List.mem_append.mp hx with first | last
      · cases why with
        | gaveUp | returned =>
          rw [List.mem_singleton.mp first]
          exact ⟨Bool.false_ne_true, Bool.false_ne_true⟩
        | _ => cases first
      · rw [List.mem_singleton.mp last]
        exact ⟨Bool.false_ne_true, Bool.false_ne_true⟩
  · obtain ⟨es, told, owned⟩ := told_of_move e
    have apart (x : Event) (hx : x ∈ es) : x.cycle ≠ id := fun same ↦ own (by rw [owned x hx, same])
    exact silent_of_told told fun x hx ↦
      ⟨fun b ↦ apart x hx (Event.cycle_of_isBeginningOf b),
        fun a ↦ apart x hx (Event.cycle_of_isAfterOf a)⟩

/-- **Every move of a hushed cycle** begins nothing, and at most the hooks after modules that are
left. -/
theorem Hushed.still (h : Hushed s w id) (numbered : Numbered w)
    (e : Scheduler.move s m w = some w') : w'.beginnings id = w.beginnings id ∧
      (w'.afters id).length + w'.aftersLeft id ≤ (w.afters id).length + w.aftersLeft id := by
  by_cases turn : m = .turn (.cycle id)
  · subst turn
    obtain ⟨c, a, hc, rfl, hstep, -⟩ := step_cycle e
    obtain ⟨c', es, new, stride, yields⟩ := stepCycle_strides hstep
    obtain ⟨none, less⟩ := stride.calledOff (h.cycle c hc)
    have left : w.aftersLeft c.id = c.phase.aftersLeft := by rw [aftersLeft, hc]; rfl
    have left' : w'.aftersLeft c.id = c'.phase.aftersLeft := by
      rw [aftersLeft, yields.cycle?_self stride.id_eq hc]
      rfl
    rw [beginnings, afters, yields.told, List.filter_append, List.filter_append, none,
      List.append_nil, List.length_append, left, left']
    refine ⟨rfl, ?_⟩
    show (w.afters c.id).length + _ + _ ≤ _
    omega
  · obtain ⟨begun, after⟩ := h.silent e turn
    refine ⟨begun, ?_⟩
    rw [after]
    refine Nat.add_le_add_left ?_ _
    cases hc' : w'.cycle? id with
    | none => rw [aftersLeft, hc']; exact Nat.zero_le _
    | some c' =>
      cases fate_of_move numbered e hc' with
      | stays c more there phase =>
        rw [aftersLeft, hc', aftersLeft, there]
        exact Nat.le_of_eq (congrArg CyclePhase.aftersLeft phase)
      | isCalled new => exact absurd h.known (by omega)
      | turns c es new own => exact absurd own turn

/-- What a called-off cycle keeps to with each of its turns, it keeps to. -/
theorem Hushed.phase {P : CyclePhase → Prop} (h : Hushed s w id) (numbered : Numbered w)
    (e : Scheduler.move s m w = some w') (keep : ∀ c c' es new, w.isCalledOff s c.token = true →
      Stride s w c c' es new → P c.phase → P c'.phase)
    (before : ∀ c, w.cycle? id = some c → P c.phase) :
    ∀ c', w'.cycle? id = some c' → P c'.phase := by
  intro c' hc'
  cases fate_of_move numbered e hc' with
  | stays c more there phase => rw [phase]; exact before c there
  | isCalled new => exact absurd h.known (by omega)
  | turns c es new own there stride =>
    exact keep c c' es new (h.cycle c there) stride (before c there)

end Hushed

/-! ## Called-off cycles do not wait

At the gate a called-off cycle has a turn, in which it leaves.  Within a module it may have to wait
for its invocations, but then one of these has a turn. -/

/-- A hook of the cycle is running. -/
def HookRuns (w : Scheduler) (id : Nat) : Prop := ∃ t, wakeTime (.cycle id) w = some t ∧ w.now < t

/-- A task of the cycle has a turn. -/
def HasTurn (s : SchedulerSetup) (w : Scheduler) (id : Nat) : Prop :=
  ∃ t, w.owner? (.turn t) = some id ∧ (move s (.turn t) w).isSome = true

/-- The cycle or an invocation of it has its turn, or time passes while a hook of the cycle is
running. -/
def IsPrompt (id : Nat) (t : Passage Scheduler Move) : Prop :=
  t.before.owner? t.move = some id ∨
    ∃ ms until_, t.move = .elapse ms ∧ wakeTime (.cycle id) t.before = some until_ ∧
      t.before.now + ms ≤ until_

section Ready

variable {s : SchedulerSetup} {metrics : SelfMetrics} {l : List (Passage Scheduler Move)}
  {w w' : Scheduler} {id : Nat} {c : Cycle}

/-- A cycle sleeps only in a hook. -/
theorem wakeTime_cycle (there : w.cycle? id = some c) {t : Nat} : wakeTime (.cycle id) w = some t ↔
    (∃ m rest, c.phase = .opening m rest t) ∨
    ∃ m failure rest, c.phase = .closing m failure rest t := by
  show (w.cycle? id).bind _ = _ ↔ _
  rw [there, Option.bind_some]
  cases phase : c.phase <;> simp

theorem hasTurn_of_canGo (there : w.cycle? id = some c) (h : CanGo s w c) : HasTurn s w id :=
  ⟨.cycle id, rfl, move_cycle_isSome there h⟩

/-- An invocation of a called-off cycle always has a turn. -/
theorem Invariant.hasTurn_of_mem (h : Invariant s w) (there : w.cycle? id = some c)
    (off : w.isCalledOff s c.token = true) {i : Invocation} (hi : i ∈ w.invocationsOf id) :
    HasTurn s w id := by
  have token := (h.cycles id c there).tokens i hi
  obtain ⟨mem, cycle⟩ := mem_invocationsOf.mp hi
  refine ⟨.invocation i.id, ?_, move_invocation_isSome h.numbered mem (.inr (.inl (token ▸ off)))⟩
  rw [owner?, Keyed.find?_of_mem h.numbered.distinct mem, ← cycle]
  rfl

/-- **A called-off cycle waits for no collector**: unless a hook of it is running, it has a turn. -/
theorem Governed.hookRuns_or_hasTurn (h : Governed s w) (there : w.cycle? id = some c)
    (off : w.isCalledOff s c.token = true) (unended : c.phase.isOver = false) :
    HookRuns w id ∨ HasTurn s w id := by
  have settled := h.settled id c there
  -- A cycle in a hook waits for its time; at every other point it or one of its invocations can go
  -- on.
  have sleeps (t : Nat) (wake : wakeTime (.cycle id) w = some t) (can : t ≤ w.now → CanGo s w c) :
      HookRuns w id ∨ HasTurn s w id := by
    by_cases due : t ≤ w.now
    · exact .inr (hasTurn_of_canGo there (can due))
    · exact .inl ⟨t, wake, Nat.lt_of_not_le due⟩
  cases phase : c.phase with
  | arriving | visiting | starting =>
    exact .inr (hasTurn_of_canGo there (by rw [CanGo, phase]; trivial))
  | queued => exact .inr (hasTurn_of_canGo there (by rw [CanGo, phase]; exact .inl off))
  | spawning => exact .inr (hasTurn_of_canGo there (by rw [CanGo, phase]; exact .inr (.inl off)))
  | opening m rest t =>
    exact sleeps t ((wakeTime_cycle there).mpr (.inl ⟨m, rest, phase⟩)) fun due ↦ by
      rw [CanGo, phase]; exact due
  | closing m failure rest t =>
    exact sleeps t ((wakeTime_cycle there).mpr (.inr ⟨m, failure, rest, phase⟩)) fun due ↦ by
      rw [CanGo, phase]; exact due
  | joining m failure rest =>
    cases crew : w.invocationsOf id with
    | nil =>
      refine .inr (hasTurn_of_canGo there ?_)
      rw [CanGo, phase]
      exact .inr (by rw [Keyed.key_of_find? there]; exact crew)
    | cons i others =>
      exact .inr
        (h.inv.hasTurn_of_mem there off (i := i) (by rw [crew]; exact List.mem_cons_self ..))
  | awaiting m left rest =>
    cases crew : w.invocationsOf id with
    | nil =>
      have one := settled.awaiting (by rw [phase]; rfl)
      refine .inr (hasTurn_of_canGo there ?_)
      rw [CanGo, phase]
      intro unheard
      rw [crew, unheard] at one
      cases one
    | cons i others =>
      exact .inr
        (h.inv.hasTurn_of_mem there off (i := i) (by rw [crew]; exact List.mem_cons_self ..))
  | ended r => rw [phase] at unended; cases unended

/-- A cycle that has not returned has a turn at once, or when its hook is over. -/
theorem exists_prompt_turn (governed : Governed s w) (there : w.cycle? id = some c)
    (off : w.isCalledOff s c.token = true) (unended : c.phase.isOver = false) :
    ∃ l' t w', Trail (move s) w l' w' ∧ (∀ p ∈ l', IsPrompt id p) ∧
      w'.work s id = w.work s id ∧ w'.cycle? id = some c ∧ w'.isCalledOff s c.token = true ∧
        w'.owner? (.turn t) = some id ∧ (move s (.turn t) w').isSome = true := by
  rcases governed.hookRuns_or_hasTurn there off unended with ⟨until_, wake, later⟩ | ⟨t, own, turn⟩
  · have elapsed : Trail (move s) w _ (w.elapse (until_ - w.now)) :=
      Trail.start.move (.elapse (until_ - w.now)) rfl
    refine ⟨_, .cycle id, _, elapsed, ?_, rfl, there, off, rfl, move_cycle_isSome (c := c) there ?_⟩
    · intro p hp
      obtain rfl := List.mem_singleton.mp hp
      exact .inr ⟨_, until_, rfl, wake, by show w.now + (until_ - w.now) ≤ until_; omega⟩
    · have due : until_ ≤ w.now + (until_ - w.now) := by omega
      rcases (wakeTime_cycle there).mp wake with ⟨m, rest, phase⟩ | ⟨m, failure, rest, phase⟩
      · rw [CanGo, phase]; exact due
      · rw [CanGo, phase]; exact due
  · exact ⟨[], t, w, .start, by simp, rfl, there, off, own, turn⟩

/-- **A called-off cycle can end at once**, but for the hooks that it is in. -/
theorem exists_prompt_end (run : Trail (move s) (start s metrics) l w)
    (there : w.cycle? id = some c) (off : w.isCalledOff s c.token = true) :
    ∃ l' w' r, Trail (move s) w l' w' ∧
      (∀ p ∈ l', IsPrompt id p) ∧ w'.result? id = some r := by
  let P (v : Scheduler) : Prop := (∃ l, Trail (move s) (start s metrics) l v) ∧
    ∃ c, v.cycle? id = some c ∧ v.isCalledOff s c.token = true
  have go (v : Scheduler) (hv : P v) (unended : ¬∃ r, v.result? id = some r) :
      ∃ l' v', Trail (move s) v l' v' ∧ (∀ p ∈ l', IsPrompt id p) ∧ P v' ∧
        v'.work s id < v.work s id := by
    obtain ⟨⟨l, run⟩, c, there, off⟩ := hv
    have not_over : c.phase.isOver = false := by
      cases phase : c.phase with
      | ended r => exact absurd ⟨r, result?_of_ended there phase⟩ unended
      | _ => rfl
    obtain ⟨l', t, u, first, prompt, work, there', off', own, turn⟩ :=
      exists_prompt_turn (governed_of_trail run) there off not_over
    obtain ⟨v', e⟩ := Option.isSome_iff_exists.mp turn
    obtain ⟨c', hc', token⟩ := exists_cycle_of_turn e there'
    have numbered := (invariant_of_trail (run.append first)).numbered
    refine ⟨_, v', first.move (.turn t) e, fun p hp ↦ ?_,
      ⟨⟨_, (run.append first).move (.turn t) e⟩, c', hc', token ▸ isCalledOff_of_move e off'⟩,
      work ▸ work_lt_of_owner numbered e own⟩
    rcases List.mem_append.mp hp with hp | hp
    · exact prompt p hp
    · rw [List.mem_singleton.mp hp]
      exact .inl own
  obtain ⟨l', u, later, prompt, -, r, returned⟩ :=
    Trail.exists_reach (P := P) (fun v ↦ v.work s id) go w ⟨⟨l, run⟩, c, there, off⟩
  exact ⟨l', u, r, later, prompt, returned⟩

end Ready

/-! ## The policy

What a called-off cycle keeps to turn by turn, it keeps to in a run (`Hushed.run`).  How far it has
come and how it returns are two instances of this. -/

/-- What becomes of a cycle that cancels fast, from a state `v` on in which it is `c` and its token
has fired, up to a state `w`. -/
structure CalledOff (s : SchedulerSetup) (id : Nat) (c : Cycle) (v w : Scheduler) : Prop where
  /-- No call of a collector and no hook before a module begins. -/
  still : w.beginnings id = v.beginnings id
  /-- One hook after a module may begin: that of the module which the cycle is in. -/
  last : (w.afters id).length ≤ (v.afters id).length + 1
  /-- A cycle that has not passed the gate has skipped everything when it returns. -/
  early : c.phase = .arriving ∨ c.phase = .queued → ∀ r, w.result? id = some r →
    r = .ok s.earlyReport
  /-- It returns as cancelled, unless there was a fatal end. -/
  outcome : c.phase.isOver = false → ∀ r, w.result? id = some r →
    (∃ report, r = .ok report ∧ report.outcome = .cancelled ∧
      ∀ a ∈ w.ends id, ∀ e, a.2 ≠ .fatal e) ∨ ∃ e t, r = .error e ∧ (t, .fatal e) ∈ w.ends id
  /-- It waits for nothing but its hooks. -/
  ready : ∀ d, w.cycle? id = some d → d.phase.isOver = false → HookRuns w id ∨ HasTurn s w id
  /-- It can return without a pause, but for its hooks. -/
  prompt : ∀ d, w.cycle? id = some d → ∃ l u r, Trail (move s) w l u ∧ (∀ p ∈ l, IsPrompt id p) ∧
    u.result? id = some r

/-- What holds of a cycle that does not cancel fast once it has returned the report `r` in a run. -/
structure SeenThrough (s : SchedulerSetup) (id : Nat)
    (l : List (Passage Scheduler Move)) (w : Scheduler) (r : CycleReport) : Prop where
  /-- Every collector was called once. -/
  called : (w.called id).Perm s.registry.targets
  skipped : r.skipped = 0
  /-- It is cancelled if the token has fired when the last module is over. -/
  outcome : ∃ before v u after c, l = before ++ ⟨v, .turn (.cycle id), u⟩ :: after ∧
    v.cycle? id = some c ∧ c.phase = .visiting [] ∧
      (r.outcome = .cancelled ↔ v.isFired c.token = true)

section Policy

variable {s : SchedulerSetup} {metrics : SelfMetrics} {l l' : List (Passage Scheduler Move)}
  {v w : Scheduler} {id : Nat} {c : Cycle}

/-- What a called-off cycle keeps to with each of its turns, it keeps to in every run. -/
theorem Hushed.run {P : CyclePhase → Prop} (run : Trail (Scheduler.move s) (start s metrics) l v)
    (h : Hushed s v id) (more : Trail (Scheduler.move s) v l' w)
    (keep : ∀ w c c' es new, isCalledOff s w c.token = true → Stride s w c c' es new →
      P c.phase → P c'.phase)
    (before : ∀ c, v.cycle? id = some c → P c.phase) :
    Hushed s w id ∧ (∀ c, w.cycle? id = some c → P c.phase) ∧ w.beginnings id = v.beginnings id ∧
      (w.afters id).length + w.aftersLeft id ≤ (v.afters id).length + v.aftersLeft id := by
  induction more with
  | start => exact ⟨h, before, rfl, Nat.le_refl _⟩
  | @move l' w w' more m e ih =>
    obtain ⟨hushed, there, begun, after⟩ := ih
    have numbered := (invariant_of_trail (run.append more)).numbered
    obtain ⟨begun', after'⟩ := hushed.still numbered e
    exact ⟨hushed.move numbered e, hushed.phase numbered e (keep w) there, begun'.trans begun,
      Nat.le_trans after' after⟩

theorem aftersLeft_le (w : Scheduler) (id : Nat) : w.aftersLeft id ≤ 1 := by
  rw [aftersLeft]
  cases w.cycle? id with
  | none => exact Nat.zero_le _
  | some c =>
    show c.phase.aftersLeft ≤ 1
    cases c.phase <;> simp [CyclePhase.aftersLeft]

/-- A cycle that has not passed the gate, or was cancelled before it did. -/
def CyclePhase.IsEarly (s : SchedulerSetup) (φ : CyclePhase) : Prop :=
  φ = .arriving ∨ φ = .queued ∨ φ = .ended (.ok s.earlyReport)

/-- A called-off cycle that has not passed the gate does not pass it. -/
theorem Stride.isEarly {c' : Cycle} {es : List Event} {new : List Invocation}
    (h : Stride s w c c' es new) (off : w.isCalledOff s c.token = true)
    (before : c.phase.IsEarly s) : c'.phase.IsEarly s := by
  have never {p : Prop} (on : w.isCalledOff s c.token = false) : p := by rw [off] at on; cases on
  have elsewhere {φ : CyclePhase} {p : Prop} (phase : c.phase = φ)
      (inside : φ.stand = .inside) : p := by
    rcases before with before | before | before <;> rw [before] at phase <;>
      subst phase <;> cases inside
  cases h with
  | arrives phase on => exact never on
  | passes phase on => exact never on
  | opens h hooks phase on => exact never on
  | spawns φ pooled phase on => exact never on
  | endsEarly => exact .inr (.inr rfl)
  | unfolds φ phase =>
    rcases phase with ⟨-, -, on⟩ | ⟨t, phase, -⟩
    · exact never on
    · exact elsewhere phase rfl
  | skips φ phase => rcases phase with ⟨phase, -⟩ | ⟨phase, -⟩ <;> exact elsewhere phase rfl
  | closes arrived until_ phase =>
    rcases phase with ⟨⟨phase, -⟩ | ⟨phase, -⟩, -⟩ | ⟨left, t, e, phase, -⟩ <;>
      exact elsewhere phase rfl
  | skipsModule phase | gathers phase | enters phase | fails phase | takes phase | goesOn phase
  | errs phase
  | ends phase => exact elsewhere phase rfl

/-- A cycle that has not returned a report, or one of a cancelled cycle. -/
def CyclePhase.EndsCancelled (φ : CyclePhase) : Prop :=
  ∀ r, φ = .ended (.ok r) → r.outcome = .cancelled

/-- A called-off cycle returns as cancelled. -/
theorem Stride.endsCancelled {c' : Cycle} {es : List Event} {new : List Invocation}
    (h : Stride s w c c' es new) (off : w.isCalledOff s c.token = true) :
    c'.phase.EndsCancelled := by
  intro r ended
  rcases h.of_returned ended with ⟨-, rfl⟩ | ⟨-, rfl⟩
  · rfl
  · rw [isCalledOff, Bool.and_eq_true] at off
    rw [off.2]
    rfl

/-- **A called-off cycle.** -/
theorem calledOff (run : Trail (move s) (start s metrics) l v) (there : v.cycle? id = some c)
    (off : v.isCalledOff s c.token = true) (more : Trail (move s) v l' w) :
    CalledOff s id c v w := by
  have hushed := (invariant_of_trail run).hushed there off
  have whole := run.append more
  have governed := governed_of_trail whole
  have only {d : Cycle} (hd : v.cycle? id = some d) : d = c := Option.some.inj (hd.symm.trans there)
  -- The token stays cancelled, so from here on every turn of the cycle is a step towards its end.
  obtain ⟨later, -, still, after⟩ :=
    hushed.run (P := fun _ ↦ True) run more (fun _ _ _ _ _ _ _ _ ↦ trivial)
    fun _ _ ↦ trivial
  exact
    { still := still
      last := by
        have := v.aftersLeft_le id
        omega
      early := fun before r returned ↦ by
        obtain ⟨-, phase, -⟩ := hushed.run (P := CyclePhase.IsEarly s) run more
          (fun _ _ _ _ _ off stride ↦ stride.isEarly off) fun d hd ↦ by
            rw [only hd]
            exact before.imp_right .inl
        obtain ⟨d, hd, ended⟩ := result?_eq_some returned
        rcases phase d hd with waits | waits | gone
        · rw [waits] at ended
          cases ended
        · rw [waits] at ended
          cases ended
        · rw [gone] at ended
          exact (CyclePhase.ended.inj ended).symm
      outcome := fun unended r returned ↦ by
        obtain ⟨-, phase, -⟩ := hushed.run (P := CyclePhase.EndsCancelled) run more
          (fun _ _ _ _ _ off stride _ ↦ stride.endsCancelled off) fun d hd report ended ↦ by
            rw [only hd] at ended
            rw [ended] at unended
            cases unended
        obtain ⟨d, hd, ended⟩ := result?_eq_some returned
        cases r with
        | ok report =>
          refine .inl ⟨report, rfl, phase d hd report ended, fun a ha e fatal ↦ ?_⟩
          have regular := ((governed.inv.cycles id d hd).done report ended).2.regular a ha
          rw [fatal] at regular
          cases regular
        | error e =>
          obtain ⟨t, ht⟩ := blamed_of_trail whole id d e hd (by rw [ended]; rfl)
          exact .inr ⟨e, t, rfl, ht⟩
      ready := fun d hd unended ↦ governed.hookRuns_or_hasTurn hd (later.cycle d hd) unended
      prompt := fun d hd ↦ exists_prompt_end whole hd (later.cycle d hd) }

/-- Without a fast cancellation nothing is called off. -/
theorem not_isCalledOff (slow : s.config.cancelFast = false) (w : Scheduler) (token : Nat) :
    w.isCalledOff s token = false := by rw [isCalledOff, slow, Bool.false_and]

/-- **A cycle that does not cancel fast.** -/
theorem seenThrough (run : Trail (move s) (start s metrics) l w)
    (slow : s.config.cancelFast = false) {r : CycleReport}
    (returned : w.result? id = some (.ok r)) : SeenThrough s id l w r := by
  obtain ⟨c, there, ended⟩ := result?_eq_some returned
  have governed := governed_of_trail run
  have calm : c.phase.isCalm = true := by rw [ended]; rfl
  obtain ⟨gone, -⟩ := (governed.settled id c there).calm calm
  obtain ⟨-, done⟩ := (governed.inv.cycles id c there).done r ended
  have spawned := starts_of_returned run there (not_isCalledOff slow _ _) ended
  exact
    { called := by
        obtain ⟨passed, perm, reason⟩ := attended_of_trail run id
        -- In a cycle with a report no invocation is aborted, and none was called off.
        have none_passed : passed = [] := by
          refine List.eq_nil_iff_forall_not_mem.mpr fun t ht ↦ ?_
          rcases reason t ht with aborted | ⟨fast, -⟩
          · have regular := done.regular _ aborted
            cases regular
          · rw [slow] at fast
            cases fast
        have none_waiting : w.waiting id = [] := by rw [waiting, gone]; rfl
        rw [none_passed, none_waiting, List.append_nil, List.append_nil, spawned] at perm
        exact perm.symm
      skipped := by
        obtain ⟨skipped, length, count⟩ := done.count
        have crew := (governed.recorded.crew id).length_eq
        have all := count.length_eq
        rw [gone, List.map_nil, List.append_nil, spawned] at crew
        rw [List.length_append] at all
        omega
      outcome := by
        obtain ⟨before, v, u, after, d, d', es, new, parts, first, hd, stride, phase⟩ :=
          exists_last_turn run there ended
        rcases stride.of_returned phase with ⟨off, -⟩ | ⟨at_end, rfl⟩
        · rw [not_isCalledOff slow] at off
          cases off
        · obtain ⟨entered, -, -, report⟩ :=
            (((invariant_of_trail first).cycles id d hd).going [] (by rw [at_end]; rfl)).entered
          have completed : d.report.outcome = .completed := by
            rw [report]
            exact reportOf_outcome entered
          refine ⟨before, v, u, after, d, parts, hd, at_end, ?_⟩
          cases fired : v.isFired d.token <;> simp [CycleReport.closed, completed] }

/-- **The cancellation policy of a cycle**, for every registry, every configuration and all
behaviours of collectors, whatever the order in which cycles are called for, tasks have their turns,
tokens fire and time passes.  From any state on in which the token of the cycle has fired, a
scheduler that cancels fast calls it off, and its tasks have no more turns than the registry allows.
One that does not cancel fast sees it through. -/
theorem cancellation_policy (run : Trail (move s) (start s metrics) l v)
    (there : v.cycle? id = some c) :
    (s.config.cancelFast = true → v.isFired c.token = true → ∀ l' w, Trail (move s) v l' w →
      CalledOff s id c v w ∧
        turns id (l ++ l') ≤ 5 * s.registry.modules.length + 4 * s.registry.collectorCount + 3) ∧
    (s.config.cancelFast = false → ∀ r, v.result? id = some (.ok r) → SeenThrough s id l v r) := by
  constructor
  · intro fast fired l' w more
    have off : v.isCalledOff s c.token = true := by rw [isCalledOff, fast, fired]; rfl
    have bound := (turns_add_work_le (run.append more) id).1
    rw [SchedulerSetup.work, Registry.workOf_modules] at bound
    exact ⟨calledOff run there off more, by omega⟩
  · intro slow r returned
    exact seenThrough run slow returned

end Policy

/-- A module with hooks and two collectors, of which the first one takes its time, and another
module after it. -/
def slowFirst (wait : Option Nat) (cancelFast : Bool) : SchedulerSetup where
  registry :=
    ⟨[⟨"host",
      [⟨"slow", fun _ ↦ ⟨wait, true, false, .batch []⟩, 0⟩,
        ⟨"disk", fun _ ↦ ⟨some 0, false, false, .batch [.gauge "used" 2]⟩, 0⟩], some ⟨false, 0, 5⟩⟩,
      ⟨"net", [⟨"eth", fun _ ↦ ⟨some 0, false, false, .batch []⟩, 0⟩], none⟩]⟩
  config := ⟨true, 1, none, cancelFast⟩

/-- The token fires while one collector is busy and the next one waits for its permit.  With a fast
cancellation the cycle gives up both, although the first one never comes back, and ends after the
hook of the module.  Otherwise it calls the others. -/
theorem cancellation_policy_hanging :
    (∃ (l l' : List (Passage Scheduler Move)) (v w : Scheduler) (c : Cycle) (r : CycleReport),
      Trail (move (slowFirst none true)) (start (slowFirst none true) .new) l v ∧
        v.cycle? 0 = some c ∧ v.isFired c.token = true ∧ Trail (move (slowFirst none true)) v l' w ∧
          w.result? 0 = some (.ok r) ∧ (r.outcome = .cancelled ∧ r.skipped = 2 ∧ r.cancelled = 1) ∧
            CalledOff (slowFirst none true) 0 c v w ∧ turns 0 (l ++ l') ≤ 5 * 2 + 4 * 3 + 3) ∧
    ∃ (l : List (Passage Scheduler Move)) (w : Scheduler) (r : CycleReport),
      Trail (move (slowFirst (some 60) false)) (start (slowFirst (some 60) false) .new) l w ∧
        w.result? 0 = some (.ok r) ∧ (r.outcome = .cancelled ∧ r.succeeded = 2 ∧ r.cancelled = 1) ∧
          SeenThrough (slowFirst (some 60) false) 0 l w r := by
  constructor
  · have run : Trail (move (slowFirst none true)) (start (slowFirst none true) .new) _ _ :=
      Trail.of_follow
        [.call 7, .turn (.cycle 0), .turn (.cycle 0), .turn (.cycle 0), .turn (.cycle 0),
          .turn (.cycle 0), .turn (.invocation 1), .cancel 7] rfl
    obtain ⟨fast, -⟩ := @cancellation_policy _ _ _ _ 0 _ run rfl
    have follow {l' : List (Passage Scheduler Move)} {w : Scheduler} more :=
      And.intro more (fast rfl rfl l' w more)
    obtain ⟨more, calledOff, bound⟩ := follow <| Trail.of_follow
      [.turn (.cycle 0), .turn (.invocation 1), .turn (.cycle 0), .turn (.cycle 0),
        .turn (.cycle 0), .elapse 5, .turn (.cycle 0), .turn (.cycle 0), .turn (.cycle 0)] rfl
    exact ⟨_, _, _, _, _, _, run, rfl, rfl, more, rfl, ⟨rfl, rfl, rfl⟩, calledOff, bound⟩
  · have run :
        Trail (move (slowFirst (some 60) false)) (start (slowFirst (some 60) false) .new) _ _ :=
      Trail.of_follow
        [.call 7, .turn (.cycle 0), .turn (.cycle 0), .turn (.cycle 0), .turn (.cycle 0),
          .turn (.cycle 0), .turn (.invocation 1), .cancel 7, .turn (.invocation 1),
          .turn (.cycle 0), .turn (.invocation 2), .turn (.invocation 2), .turn (.cycle 0),
          .turn (.cycle 0), .turn (.cycle 0), .turn (.cycle 0), .elapse 5, .turn (.cycle 0),
          .turn (.cycle 0), .turn (.cycle 0), .turn (.invocation 3), .turn (.invocation 3),
          .turn (.cycle 0), .turn (.cycle 0), .turn (.cycle 0), .turn (.cycle 0),
          .turn (.cycle 0)] rfl
    obtain ⟨-, slow⟩ := @cancellation_policy _ _ _ _ 0 _ run rfl
    exact ⟨_, _, _, run, rfl, ⟨rfl, rfl, rfl⟩, slow rfl _ rfl⟩

end Scheduler

end MetricsAgent
