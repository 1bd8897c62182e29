import MetricsAgent.Proofs.Scheduler.Accounting
import MetricsAgent.Proofs.Scheduler.Exclusion
import MetricsAgent.Proofs.Scheduler.Stride

/-!
# Cycles come to an end

`Scheduler.work` bounds the turns that a cycle and its invocations can still take: each turn on
behalf of the cycle lowers it, and no other move raises it (`work_lt_of_owner`, `work_le_of_ne`).
So the number of turns is bounded by the registry alone, whatever the order of moves
(`turns_add_work_le`).

What is left is that nothing gets stuck.  `CanGo` and `CanLeave` tell which tasks have a turn at
once.  As long as a cycle is not over and no call is to last for ever, some task has a turn after
some time (`exists_turn_later`).

The task that has a turn need not be one of this cycle.  A cycle that waits at the gate waits for
the one that is let through, and this one for its invocations; so somewhere there is an invocation
whose call ends with time, or a cycle that goes on by itself.
-/

set_option autoImplicit false

namespace MetricsAgent

/-- The turns that a cycle takes at most for these modules, with those of its invocations. -/
def Registry.workOf : List CollectorModule → Nat
  | [] => 1
  | m :: rest => 5 + 4 * m.collectors.length + workOf rest

theorem Registry.workOf_modules (r : Registry) :
    workOf r.modules = 5 * r.modules.length + 4 * r.collectorCount + 1 := by
  rw [collectorCount_eq_length]
  induction r.modules with
  | nil => rfl
  | cons m rest ih =>
    rw [workOf, ih, List.length_cons, List.flatMap_cons, List.length_append]
    omega

/-- The turns of a whole cycle at most. -/
def SchedulerSetup.work (s : SchedulerSetup) : Nat := Registry.workOf s.registry.modules + 2

namespace Scheduler

/-! ## Work

An invocation has three turns at most: its call begins, it leaves, and its cycle enters its end.  A
module has its hooks, and a turn for each collector in which the invocation is spawned or
skipped. -/

/-- The turns that are left at most, but for those of the invocations that are on their way. -/
def CyclePhase.work (s : SchedulerSetup) : CyclePhase → Nat
  | arriving => s.work
  | queued => Registry.workOf s.registry.modules + 1
  | visiting rest => Registry.workOf rest
  | opening m rest _ => 4 + 4 * m.collectors.length + Registry.workOf rest
  | spawning _ left rest => 3 + 4 * left.length + Registry.workOf rest
  | joining _ _ rest => 2 + Registry.workOf rest
  | starting _ left rest | awaiting _ left rest => 2 + 4 * left.length + Registry.workOf rest
  | closing _ _ rest _ => 1 + Registry.workOf rest
  | ended _ => 0

/-- An ended invocation costs one more turn, in which it is entered. -/
def Cycle.work (s : SchedulerSetup) (c : Cycle) : Nat := c.phase.work s + c.arrived.length

/-- The turns that are left to an invocation, and the one in which its end is entered. -/
def InvocationPhase.work : InvocationPhase → Nat
  | spawned => 3
  | collecting .. => 2

theorem InvocationPhase.two_le_work (φ : InvocationPhase) : 2 ≤ φ.work := by
  cases φ with
  | spawned => exact Nat.le_succ 2
  | collecting => exact Nat.le_refl 2

/-- The turns that are left to invocations. -/
def crewWork : List Invocation → Nat
  | [] => 0
  | i :: l => i.phase.work + crewWork l

theorem crewWork_append (l l' : List Invocation) :
    crewWork (l ++ l') = crewWork l + crewWork l' := by
  induction l with
  | nil => exact (Nat.zero_add _).symm
  | cons i l ih => rw [List.cons_append, crewWork, ih, crewWork, Nat.add_assoc]

theorem crewWork_perm {l l' : List Invocation} (h : l.Perm l') : crewWork l = crewWork l' := by
  induction h with
  | nil => rfl
  | cons i _ ih => rw [crewWork, ih, crewWork]
  | swap i j l => simp only [crewWork]; omega
  | trans _ _ ih ih' => exact ih.trans ih'

/-- Invocations that are told to stop have no less to do. -/
theorem crewWork_map {g : Invocation → Invocation} (h : ∀ i, (g i).phase = i.phase)
    (l : List Invocation) : crewWork (l.map g) = crewWork l := by
  induction l with
  | nil => rfl
  | cons i l ih => rw [List.map_cons, crewWork, ih, h, crewWork]

/-- The turns that are left at most to a cycle and its invocations. -/
def work (s : SchedulerSetup) (w : Scheduler) (id : Nat) : Nat :=
  ((w.cycle? id).map (·.work s)).getD 0 + crewWork (w.invocationsOf id)

section Work

variable {s : SchedulerSetup} {w w' : Scheduler} {m : Move}

theorem work_congr {id : Nat} (cycle : w'.cycle? id = w.cycle? id)
    (invocations : w'.invocationsOf id = w.invocationsOf id) : w'.work s id = w.work s id := by
  rw [work, cycle, invocations, work]

/-- A turn of a cycle leaves less to do, also with the invocation that it may spawn. -/
theorem Stride.work_lt {c c' : Cycle} {es : List Event} {new : List Invocation}
    (h : Stride s w c c' es new) : c'.work s + crewWork new < c.work s := by
  have spent {φ : CyclePhase} (before : c.phase = φ) :
      c.work s = φ.work s + c.arrived.length := by rw [Cycle.work, before]
  cases h with
  | arrives phase | passes phase =>
    rw [spent phase]
    simp only [Cycle.work, CyclePhase.work, SchedulerSetup.work, crewWork]
    omega
  | endsEarly phase =>
    rcases phase with phase | phase <;> rw [spent phase] <;>
      simp only [Cycle.work, CyclePhase.work, SchedulerSetup.work, crewWork] <;> omega
  | skipsModule phase | opens h hooks phase | gathers phase | goesOn phase | errs phase =>
    rw [spent phase]
    simp only [Cycle.work, CyclePhase.work, crewWork, Registry.workOf, List.length_nil]
    omega
  | unfolds φ phase after =>
    rcases phase with ⟨phase, -⟩ | ⟨t, phase, -⟩ <;> rcases after with rfl | rfl <;>
      rw [spent phase] <;>
        simp only [Cycle.work, CyclePhase.work, crewWork, Registry.workOf] <;> omega
  | skips φ phase | spawns φ pooled phase =>
    rcases phase with ⟨phase, rfl⟩ | ⟨phase, rfl⟩ <;> rw [spent phase] <;>
      simp only [Cycle.work, CyclePhase.work, crewWork, InvocationPhase.work, List.length_cons] <;>
        omega
  | enters phase first | fails phase first | takes phase first =>
    rw [spent phase, first]
    simp only [Cycle.work, CyclePhase.work, crewWork, List.length_cons, phase]
    omega
  | closes arrived until_ phase =>
    rcases phase with ⟨⟨phase, -⟩ | ⟨phase, -⟩, rfl⟩ | ⟨left, t, e, phase, first, -⟩
    · rw [spent phase]
      simp only [Cycle.work, CyclePhase.work, crewWork]
      omega
    · rw [spent phase]
      simp only [Cycle.work, CyclePhase.work, crewWork]
      omega
    · rw [spent phase, first]
      simp only [Cycle.work, CyclePhase.work, crewWork, List.length_cons]
      omega
  | ends phase =>
    rw [spent phase]
    simp only [Cycle.work, CyclePhase.work, crewWork, Registry.workOf]
    omega

/-- An invocation once its call has begun. -/
def begun (s : SchedulerSetup) (w : Scheduler) (i : Invocation) : Invocation :=
  let b := i.target.collector.behaviour (w.callCount i.target)
  { i with
    phase := .collecting b w.now (b.waitMs.map (w.now + ·))
      (s.config.timeout.map (w.now + ·.ceilMillis)) }

/-- The call of an invocation begins, and the other invocations of its cycle stay what they are. -/
theorem beginCall_perm {i : Invocation} (h : Numbered w) (hi : i ∈ w.invocations) :
    ∃ others, (w.invocationsOf i.cycle).Perm (i :: others) ∧
      ((w.beginCall s i).invocationsOf i.cycle).Perm (w.begun s i :: others) := by
  let f (j : Invocation) : Invocation :=
    if j.id = i.id then { j with phase := (w.begun s i).phase } else j
  have invocations : (w.beginCall s i).invocations = w.invocations.map f :=
    Keyed.map_replace h.distinct hi fun j ↦ { j with phase := (w.begun s i).phase }
  have perm :
      (w.invocationsOf i.cycle).Perm (i :: (w.invocationsOf i.cycle).filter (·.id ≠ i.id)) :=
    Keyed.perm_cons_filter (h.distinct.sublist (List.filter_sublist.map _))
      (mem_invocationsOf.mpr ⟨hi, rfl⟩)
  have others : ((w.invocationsOf i.cycle).filter (·.id ≠ i.id)).map f =
      (w.invocationsOf i.cycle).filter (·.id ≠ i.id) := by
    refine (List.map_congr_left fun j hj ↦ ?_).trans (List.map_id _)
    exact if_neg (by simpa using (List.mem_filter.mp hj).2)
  have after := perm.map f
  rw [List.map_cons, others, show f i = w.begun s i from if_pos rfl] at after
  refine ⟨_, perm, ?_⟩
  rw [invocationsOf_map (fun j ↦ by dsimp only [f]; split <;> rfl) invocations]
  exact after

/-- Where the call of an invocation begins, other cycles keep their invocations as they are. -/
theorem Begins.invocationsOf_of_ne {i : Invocation} (e : Begins w i w') (h : Numbered w)
    (hi : i ∈ w.invocations) {id : Nat} (hid : id ≠ i.cycle) :
    w'.invocationsOf id = w.invocationsOf id := by
  obtain ⟨φ, invocations, -⟩ := e.exists_map h hi
  rw [invocationsOf_map (fun j ↦ by split <;> rfl) invocations]
  refine (List.map_congr_left fun j hj ↦ ?_).trans (List.map_id _)
  refine if_neg fun same ↦ hid ?_
  obtain ⟨there, cycle⟩ := mem_invocationsOf.mp hj
  rw [← cycle, List.inj_on_of_nodup_map h.distinct there hi same]

theorem owner?_invocation {i : Invocation} (there : w.invocations.find? (·.id = i.id) = some i) :
    w.owner? (.turn (.invocation i.id)) = some i.cycle := by
  rw [owner?, there]
  rfl

theorem Rests.owner?_eq (h : Rests w m w') : w.owner? m = none := by
  cases m with
  | turn t => exact absurd rfl (h.idle t)
  | _ => rfl

/-- **A move on behalf of a cycle** leaves it less to do. -/
theorem work_lt_of_owner (h : Numbered w) (e : move s m w = some w') {id : Nat}
    (own : w.owner? m = some id) : w'.work s id < w.work s id := by
  cases effect_of_move e with
  | rests rests => rw [rests.owner?_eq] at own; cases own
  | strides there stride yields =>
    cases own
    obtain ⟨g, marks, invocations⟩ := yields.invocationsOf_self stride.id_eq stride.cycle_of_new
    have less := stride.work_lt
    rw [work, yields.cycle?_self stride.id_eq there, invocations, crewWork_append,
      crewWork_map marks.phase_eq, work, there]
    simp only [Option.map_some, Option.getD_some]
    omega
  | @begins i there spawned =>
    rw [owner?_invocation there] at own
    cases own
    obtain ⟨others, before, after⟩ := beginCall_perm (s := s) h (List.mem_of_find?_eq_some there)
    refine Nat.add_lt_add_left ?_ _
    rw [crewWork_perm before, crewWork_perm after, crewWork, crewWork, spawned]
    exact Nat.add_lt_add_right (Nat.lt_succ_self 2) _
  | @departs i end_ es w' there why departs leaves =>
    rw [owner?_invocation there] at own
    cases own
    have perm := leaves.perm h (List.mem_of_find?_eq_some there)
    have cost := i.phase.two_le_work
    rw [work, work, leaves.cycle?, crewWork_perm perm, crewWork]
    cases hc : w.cycle? i.cycle with
    | none =>
      simp only [Option.map_none, Option.getD_none]
      omega
    | some c =>
      simp only [Option.map_some, Option.getD_some, if_pos (Keyed.key_of_find? hc), Cycle.work,
        List.length_append, List.length_singleton]
      omega

/-- **A move on behalf of another cycle**, or of none, does not leave a cycle more to do, unless it
is the call for it. -/
theorem work_le_of_ne (h : Numbered w) (e : move s m w = some w') {id : Nat}
    (other : w.owner? m ≠ some id) (uncalled : ∀ token, m = .call token → id ≠ w.next) :
    w'.work s id ≤ w.work s id := by
  cases m with
  | call token =>
    cases e
    refine Nat.le_of_eq (work_congr ?_ rfl)
    rw [h.cycle?_call, if_neg (uncalled token rfl)]
  | cancel token => cases e; exact Nat.le_refl _
  | elapse ms => cases e; exact Nat.le_refl _
  | drop n =>
    cases e
    have drops := drop_drops w n
    -- A drop only marks the invocations, and a mark changes no one's work.
    obtain ⟨g, marks, invocations⟩ := drops.invocations
    rw [work, work, drops.cycle?, invocationsOf_map marks.cycle_eq invocations,
      crewWork_map marks.phase_eq]
    split
    · exact Nat.add_le_add_right (Nat.zero_le _) _
    · exact Nat.le_refl _
  | turn t =>
    cases effect_of_move e with
    | rests rests => exact absurd rfl (rests.idle t)
    | @strides c c' es new w' there stride yields =>
      have differs : id ≠ c.id := fun same ↦ other (congrArg some same.symm)
      exact Nat.le_of_eq (work_congr (stride.cycle?_of_ne yields differs)
        (stride.invocationsOf_of_ne yields differs))
    | @begins i there =>
      rw [owner?_invocation there] at other
      have differs : id ≠ i.cycle := fun same ↦ other (congrArg some same.symm)
      exact Nat.le_of_eq (work_congr rfl ((beginCall_begins s w i).invocationsOf_of_ne h
        (List.mem_of_find?_eq_some there) differs))
    | @departs i end_ es w' there why departs leaves =>
      rw [owner?_invocation there] at other
      have differs : id ≠ i.cycle := fun same ↦ other (congrArg some same.symm)
      refine Nat.le_of_eq (work_congr ?_
        (leaves.invocationsOf_of_ne h (List.mem_of_find?_eq_some there) differs))
      rw [leaves.cycle?]
      cases hc : w.cycle? id with
      | none => rfl
      | some c =>
        rw [Option.map_some, if_neg]
        rw [Keyed.key_of_find? hc]
        exact differs

end Work

/-! ## The number of turns

The turns so far and the work that is left make up at most the work of a whole cycle. -/

/-- The number of turns on behalf of a cycle. -/
def turns (id : Nat) (l : List (Passage Scheduler Move)) : Nat :=
  l.countP fun t ↦ t.before.owner? t.move = some id

section Turns

variable {s : SchedulerSetup} {w w' v : Scheduler} {m : Move} {l : List (Passage Scheduler Move)}

theorem turns_append (id : Nat) (l : List (Passage Scheduler Move)) (t : Passage Scheduler Move) :
    turns id (l ++ [t]) = turns id l + if t.before.owner? t.move = some id then 1 else 0 := by
  rw [turns, List.countP_append, List.countP_singleton, turns]
  simp

/-- A number that was not given out has nothing to do. -/
theorem Numbered.work_of_le (h : Numbered w) {id : Nat} (hid : w.next ≤ id) : w.work s id = 0 := by
  obtain ⟨cycle, invocations, -⟩ := h.fresh id hid
  rw [work, cycle, invocations]
  rfl

/-- A cycle that is called for has all of its work before it. -/
theorem Numbered.work_call (h : Numbered w) (token : Nat) :
    (w.call token).work s w.next = s.work := by
  obtain ⟨-, invocations, -⟩ := h.fresh w.next (Nat.le_refl _)
  rw [work, h.cycle?_call, if_pos rfl]
  show s.work + 0 + crewWork (w.invocationsOf w.next) = s.work
  rw [invocations]
  rfl

/-- **The turns of a cycle and its invocations are bounded** by the registry. -/
theorem turns_add_work_le {metrics : SelfMetrics}
    (h : Trail (move s) (start s metrics) l w) (id : Nat) :
    turns id l + w.work s id ≤ s.work ∧ (w.next ≤ id → turns id l = 0) := by
  induction h with
  | start => exact ⟨Nat.zero_le _, fun _ ↦ rfl⟩
  | @move l w w' run m e ih =>
    have numbered := (invariant_of_trail run).numbered
    have onward := next_le_move e
    obtain ⟨bound, unborn⟩ := ih
    rw [turns_append]
    by_cases own : w.owner? m = some id
    · have known := owner?_lt numbered e own
      have less := work_lt_of_owner numbered e own
      rw [if_pos own]
      omega
    · rw [if_neg own, Nat.add_zero]
      refine ⟨?_, fun hid ↦ unborn (Nat.le_trans onward hid)⟩
      by_cases called : ∃ token, m = .call token ∧ id = w.next
      · obtain ⟨token, rfl, rfl⟩ := called
        cases e
        exact Nat.le_of_eq (by rw [unborn (Nat.le_refl _), numbered.work_call, Nat.zero_add])
      · have less := work_le_of_ne numbered e own fun token hm hid ↦ called ⟨token, hm, hid⟩
        omega

end Turns

/-! ## Tasks that have a turn

The conditions are those of the model, read phase by phase. -/

/-- The cycle has a turn. -/
def CanGo (s : SchedulerSetup) (w : Scheduler) (c : Cycle) : Prop :=
  match c.phase with
  | .arriving | .visiting _ | .starting .. => True
  | .queued => w.isCalledOff s c.token = true ∨ w.gate.holder = some c.id
  | .opening _ _ t | .closing _ _ _ t => t ≤ w.now
  | .spawning _ left _ => left = [] ∨ w.isCalledOff s c.token = true ∨ 0 < w.permits
  | .joining .. => c.arrived ≠ [] ∨ w.invocationsOf c.id = []
  | .awaiting .. => c.arrived ≠ []
  | .ended _ => False

/-- The invocation has a turn. -/
def CanLeave (s : SchedulerSetup) (w : Scheduler) (i : Invocation) : Prop :=
  i.aborting = true ∨ w.isCalledOff s i.token = true ∨
    match i.phase with
    | .spawned => True
    | .collecting _ _ wake limit => w.isDue wake = true ∨ w.isDue limit = true

section Ready

variable {s : SchedulerSetup} {w : Scheduler}

theorem stepCycle_isSome {c : Cycle} (h : CanGo s w c) : (w.stepCycle s c).isSome = true := by
  rw [stepCycle]
  -- The condition on each phase is what the step asks for there.
  rw [CanGo] at h
  cases phase : c.phase with
  | arriving => simp only; split <;> rfl
  | queued =>
    simp only [phase] at h ⊢
    split
    · rfl
    · rename_i on
      rw [if_pos (h.resolve_left on)]
      rfl
  | visiting modules =>
    cases modules with
    | nil => rfl
    | cons m rest =>
      simp only
      split
      · rfl
      · split <;> rfl
  | opening m rest t =>
    simp only [phase] at h ⊢
    rw [if_pos h]
    rfl
  | spawning m left rest =>
    cases left with
    | nil => rfl
    | cons k left =>
      simp only [phase] at h ⊢
      split
      · rfl
      · rename_i on
        rw [if_pos ((h.resolve_left (by simp)).resolve_left on)]
        rfl
  | joining m failure rest =>
    simp only [phase] at h ⊢
    cases first : c.arrived with
    | nil =>
      simp only
      rw [h.resolve_left fun some ↦ some first]
      rfl
    | cons a arrived =>
      obtain ⟨t, e⟩ := a
      cases e <;> cases failure <;> rfl
  | starting m left rest =>
    cases left with
    | nil => rfl
    | cons k left => simp only; split <;> rfl
  | awaiting m left rest =>
    simp only [phase] at h ⊢
    cases first : c.arrived with
    | nil => exact absurd first h
    | cons a arrived =>
      obtain ⟨t, e⟩ := a
      cases e <;> rfl
  | closing m failure rest t =>
    simp only [phase] at h ⊢
    rw [if_neg (Nat.not_lt.mpr h)]
    cases failure <;> rfl
  | ended r => simp only [phase] at h

theorem stepInvocation_isSome {i : Invocation} (h : CanLeave s w i) :
    (w.stepInvocation s i).isSome = true := by
  rw [stepInvocation]
  split
  · rfl
  · rename_i unmarked
    rw [CanLeave] at h
    have h := h.resolve_left unmarked
    cases phase : i.phase with
    | spawned => rfl
    | collecting b started wake limit =>
      simp only [phase] at h ⊢
      split
      · rfl
      · rename_i on
        have due := h.resolve_left on
        split
        · rfl
        · split
          · rfl
          · rename_i undue
            rw [if_pos (due.resolve_left undue)]
            rfl

/-- A cycle that has a turn can make a move. -/
theorem move_cycle_isSome {id : Nat} {c : Cycle} (hc : w.cycle? id = some c) (h : CanGo s w c) :
    (move s (.turn (.cycle id)) w).isSome = true := by
  show ((w.cycle? id).bind (w.stepCycle s)).isSome = true
  rw [hc]
  exact stepCycle_isSome h

/-- An invocation that has a turn can make a move. -/
theorem move_invocation_isSome (numbered : Numbered w) {i : Invocation} (hi : i ∈ w.invocations)
    (h : CanLeave s w i) : (move s (.turn (.invocation i.id)) w).isSome = true := by
  show ((w.invocations.find? (·.id = i.id)).bind (w.stepInvocation s)).isSome = true
  rw [Keyed.find?_of_mem numbered.distinct hi]
  exact stepInvocation_isSome h

/-- An invocation whose call is not to last for ever has a turn after some time. -/
theorem exists_canLeave {i : Invocation}
    (finite : ∀ b started wake limit, i.phase = .collecting b started wake limit →
      wake ≠ none ∨ limit ≠ none) :
    ∃ ms, CanLeave s (w.elapse ms) i := by
  have reached (n : Nat) : (w.elapse (n - w.now)).isDue (some n) = true :=
    decide_eq_true (show n ≤ w.now + (n - w.now) by omega)
  cases phase : i.phase with
  | spawned => exact ⟨0, .inr (.inr (by rw [phase]; trivial))⟩
  | collecting b started wake limit =>
    rcases finite b started wake limit phase with some | some
    · obtain ⟨n, rfl⟩ := Option.ne_none_iff_exists'.mp some
      exact ⟨n - w.now, .inr (.inr (by rw [phase]; exact .inl (reached n)))⟩
    · obtain ⟨n, rfl⟩ := Option.ne_none_iff_exists'.mp some
      exact ⟨n - w.now, .inr (.inr (by rw [phase]; exact .inr (reached n)))⟩

/-- A cycle behind the gate has a turn after some time, if no invocation is left. -/
theorem exists_canGo (governed : Governed s w) (none : w.invocations = []) {id : Nat} {c : Cycle}
    (hc : w.cycle? id = some c) (inside : c.phase.stand = .inside) :
    ∃ ms, CanGo s (w.elapse ms) c := by
  have free : 0 < w.permits := by
    have pool := governed.guarded.pool
    rw [none, List.length_nil, ite_self, Nat.add_zero] at pool
    rw [pool, SchedulerConfig.permits]
    omega
  have crew (id : Nat) : (w.elapse 0).invocationsOf id = [] := by
    show w.invocations.filter _ = []
    rw [none]
    rfl
  simp only [CanGo]
  cases phase : c.phase with
  | arriving => exact ⟨0, trivial⟩
  | visiting => exact ⟨0, trivial⟩
  | starting => exact ⟨0, trivial⟩
  | queued => rw [phase] at inside; cases inside
  | opening m rest t => exact ⟨t - w.now, by simp only [elapse]; omega⟩
  | closing m failure rest t => exact ⟨t - w.now, by simp only [elapse]; omega⟩
  | spawning m left rest => exact ⟨0, .inr (.inr free)⟩
  | joining m failure rest => exact ⟨0, .inr (crew c.id)⟩
  | awaiting m left rest =>
    refine ⟨0, fun unheard ↦ ?_⟩
    have one := (governed.settled id c hc).awaiting (by rw [phase]; rfl)
    rw [unheard, show w.invocationsOf id = [] from crew id] at one
    cases one
  | ended r => rw [phase] at inside; cases inside

/-- If no invocation is left, a cycle has the gate only if it is let through or about to be. -/
theorem Governed.exists_of_holder (governed : Governed s w) (crew : w.invocations = []) {id : Nat}
    (holder : w.gate.holder = some id) :
    ∃ c, w.cycle? id = some c ∧ (c.phase.stand = .inside ∨ c.phase = .queued) := by
  have keeps := governed.guarded.gate
  have none : w.invocationsOf id = [] := by rw [invocationsOf, crew]; rfl
  have shares := keeps.shares id holder
  rw [none, List.length_nil, Nat.zero_add, Nat.add_zero] at shares
  -- The share that the gate counts is that of the cycle.
  have one : (w.standOf id).share ≠ 0 := shares ▸ Nat.ne_of_gt (keeps.pos id holder)
  cases there : w.cycle? id with
  | none =>
    rw [standOf, there] at one
    exact absurd rfl one
  | some c =>
    refine ⟨c, rfl, ?_⟩
    rw [standOf_of_cycle? there] at one
    cases phase : c.phase with
    | queued => exact .inr rfl
    | arriving | ended r => rw [phase] at one; exact absurd rfl one
    | _ => exact .inl rfl

/-- **Nothing gets stuck.** As long as a cycle is not over, and no call is to last for ever, some
task has a turn after some time. -/
theorem exists_turn_later (governed : Governed s w)
    (finite : ∀ i ∈ w.invocations, ∀ b started wake limit,
      i.phase = .collecting b started wake limit → wake ≠ none ∨ limit ≠ none)
    {id : Nat} {c : Cycle} (hc : w.cycle? id = some c) (unended : c.phase.isOver = false) :
    ∃ ms t, (move s (.turn t) (w.elapse ms)).isSome = true := by
  cases crew : w.invocations with
  | cons i l =>
    have hi : i ∈ w.invocations := by rw [crew]; exact List.mem_cons_self ..
    obtain ⟨ms, can⟩ := exists_canLeave (s := s) (w := w) (finite i hi)
    exact ⟨ms, .invocation i.id, move_invocation_isSome (governed.inv.elapse ms).numbered hi can⟩
  | nil =>
    have goes {n : Nat} {d : Cycle} (hd : w.cycle? n = some d) (inside : d.phase.stand = .inside) :
        ∃ ms t, (move s (.turn t) (w.elapse ms)).isSome = true := by
      obtain ⟨ms, can⟩ := exists_canGo governed crew hd inside
      exact ⟨ms, .cycle n, move_cycle_isSome hd can⟩
    have holds {n : Nat} (holder : w.gate.holder = some n) :
        ∃ ms t, (move s (.turn t) (w.elapse ms)).isSome = true := by
      obtain ⟨d, hd, inside | queued⟩ := governed.exists_of_holder crew holder
      · exact goes hd inside
      · refine ⟨0, .cycle n, move_cycle_isSome (c := d) hd ?_⟩
        rw [CanGo, queued]
        exact .inr (by rw [Keyed.key_of_find? hd]; exact holder)
    cases phase : c.phase with
    | arriving =>
      exact ⟨0, .cycle id, move_cycle_isSome (c := c) hc (by rw [CanGo, phase]; trivial)⟩
    | ended r => rw [phase] at unended; cases unended
    | queued =>
      -- The cycle has the gate, or waits behind the one that has it.
      have keeps := governed.guarded.gate
      have stand := standOf_of_cycle? hc
      rw [phase] at stand
      rcases keeps.queued id stand with holder | waits
      · exact holds holder
      · cases holder : w.gate.holder with
        | none =>
          rw [keeps.free holder] at waits
          cases waits
        | some n => exact holds holder
    | _ => exact goes hc (by rw [phase]; rfl)

end Ready

end Scheduler

end MetricsAgent
