import MetricsAgent.Proofs.Scheduler.Crossing

/-!
# What a move changes for the gate, the pool and the log

`Scheduler.AllSettled` says of every cycle that it is in a phase of its mode and that its phase
tells whether invocations are on their way, also after a failure.  On settled schedulers a move is a
`Scheduler.Shift`:

* a cycle does something at the gate, or nothing,
* a cycle is called for,
* an invocation is spawned, begins its call, or is gone.

The invariants of gate, pool and log need no more than this (`Scheduler.move_shifts`).  Each
constructor of `Scheduler.Shift` lists all that these invariants depend on: the stands of all
cycles, the gate, the invocations, the permits, the next number, and what is logged.

That a scheduler is settled is needed in two cases: a cycle that waits at the gate has no
invocations, and one that works in sequence spawns an invocation only when it has none.
-/

set_option autoImplicit false

namespace MetricsAgent

namespace Scheduler

/-! ## Settled cycles

A calm cycle has no invocations and has heard of all ends.  One that waits for a single invocation
has that invocation or its end. -/

/-- What the phase of a cycle tells about its invocations. -/
structure Settled (s : SchedulerSetup) (c : Cycle) (running : List Invocation) : Prop where
  suits : c.phase.suits s.config.parallel = true
  calm : c.phase.isCalm = true → running = [] ∧ c.arrived = []
  awaiting : c.phase.isAwaiting = true → running.length + c.arrived.length = 1

/-- Every cycle is settled. -/
def AllSettled (s : SchedulerSetup) (w : Scheduler) : Prop :=
  ∀ id c, w.cycle? id = some c → Settled s c (w.invocationsOf id)

section AllSettled

variable {s : SchedulerSetup} {w w' : Scheduler}

theorem allSettled_start (s : SchedulerSetup) (metrics : SelfMetrics) :
    AllSettled s (start s metrics) :=
  fun _ _ h ↦ nomatch h

theorem Still.invocationsOf_eq_nil {id : Nat} (h : Still id w w') {d : Nat}
    (none : w.invocationsOf d = []) : w'.invocationsOf d = [] := by
  obtain ⟨g, marks, invocations⟩ := h.invocations
  rw [invocationsOf_map marks.cycle_eq invocations, none]
  rfl

/-- The cycle after its turn. -/
theorem Crossing.cycle?_self {c c' : Cycle} (e : Crossing s w c w' c')
    (hc : w.cycle? c.id = some c) : w'.cycle? c.id = some c' := by
  rw [← e.id] at hc ⊢
  rw [cycle?, e.cycles, putCycle]
  exact Keyed.find?_replace hc

/-- Other cycles are what they were. -/
theorem Crossing.cycle?_of_ne {c c' : Cycle} (e : Crossing s w c w' c') {id : Nat}
    (hid : id ≠ c.id) : w'.cycle? id = w.cycle? id := by
  rw [cycle?, e.cycles, putCycle, Keyed.find?_replace_of_ne (by rw [e.id]; exact hid.symm), cycle?]

/-- A turn of a cycle keeps it settled. -/
theorem Crossing.settled {c c' : Cycle} (e : Crossing s w c w' c')
    (h : Settled s c (w.invocationsOf c.id)) : Settled s c' (w'.invocationsOf c.id) where
  suits := e.suits
  calm hc := by
    have still : Still c.id w w' := by
      rcases e.effect with ⟨-, still⟩ | spawns
      · exact still
      · rw [spawns.uncalm] at hc
        cases hc
    rcases e.calm hc with ⟨calm, same⟩ | ⟨none, same⟩ | ⟨awaiting, shorter⟩
    · exact ⟨still.invocationsOf_eq_nil (h.calm calm).1, same.trans (h.calm calm).2⟩
    · exact ⟨still.invocationsOf_eq_nil none, same⟩
    · have one := h.awaiting awaiting
      have none : (w.invocationsOf c.id).length = 0 := by omega
      have heard : c'.arrived.length = 0 := by omega
      exact ⟨still.invocationsOf_eq_nil (List.length_eq_zero_iff.mp none),
        List.length_eq_zero_iff.mp heard⟩
  awaiting ha := by
    obtain ⟨calm, same, more⟩ := e.awaiting ha
    obtain ⟨none, heard⟩ := h.calm calm
    rw [none, List.length_nil] at more
    rw [more, same, heard]
    rfl

/-- An invocation leaves a cycle settled. -/
theorem Settled.leave {c : Cycle} {running running' : List Invocation} {i : Invocation}
    {e : InvocationEnd} (h : Settled s c running) (perm : running.Perm (i :: running')) :
    Settled s { c with arrived := c.arrived ++ [(i.target, e)] } running' where
  suits := h.suits
  calm hc := by
    have mem : i ∈ running := perm.mem_iff.mpr (List.mem_cons_self ..)
    rw [(h.calm hc).1] at mem
    exact absurd mem List.not_mem_nil
  awaiting ha := by
    have one := h.awaiting ha
    have more := perm.length_eq
    rw [List.length_cons] at more
    rw [List.length_append, List.length_singleton]
    omega

/-- The call of an invocation begins, which changes no number. -/
theorem Begins.length_invocationsOf {i : Invocation} (h : Numbered w) (hi : i ∈ w.invocations)
    (e : Begins w i w') (id : Nat) :
    (w'.invocationsOf id).length = (w.invocationsOf id).length := by
  obtain ⟨phase, invocations, -⟩ := e.exists_map h hi
  rw [invocationsOf_map (fun j ↦ by split <;> rfl) invocations, List.length_map]

/-- A cycle is called for. -/
theorem AllSettled.of_call (h : AllSettled s w) (inv : Invariant s w) (token : Nat) :
    AllSettled s (w.call token) := by
  intro id c hc
  rw [inv.numbered.cycle?_call] at hc
  split at hc
  · rename_i new
    subst new
    cases hc
    obtain ⟨-, none, -⟩ := inv.numbered.fresh _ (Nat.le_refl w.next)
    exact ⟨rfl, fun _ ↦ ⟨none, rfl⟩, fun h ↦ nomatch h⟩
  · exact h id c hc

/-- Nobody waits for a cycle any more. -/
theorem AllSettled.of_drop (h : AllSettled s w) (id : Nat) : AllSettled s (w.drop id) := by
  intro j c hc
  have drops := drop_drops w id
  obtain ⟨g, marks, invocations⟩ := drops.invocations
  rw [drops.cycle?] at hc
  split at hc
  · cases hc
  · rw [marks.invocationsOf_of_ne invocations ‹_›]
    exact h j c hc

/-- A cycle has its turn. -/
theorem AllSettled.of_crossing {c c' : Cycle} (h : AllSettled s w) (hc : w.cycle? c.id = some c)
    (crossing : Crossing s w c w' c')
    (others : ∀ {j : Nat}, j ≠ c.id → w'.invocationsOf j = w.invocationsOf j) :
    AllSettled s w' := by
  intro j d hd
  by_cases own : j = c.id
  · subst own
    rw [crossing.cycle?_self hc, Option.some_inj] at hd
    subst hd
    exact crossing.settled (h c.id c hc)
  · rw [crossing.cycle?_of_ne own] at hd
    rw [others own]
    exact h j d hd

/-- The call of an invocation begins. -/
theorem AllSettled.of_begins {i : Invocation} (h : AllSettled s w) (inv : Invariant s w)
    (mem : i ∈ w.invocations) (begins : Begins w i w') : AllSettled s w' := by
  intro j d hd
  rw [cycle?, begins.cycles] at hd
  have settled := h j d hd
  have length := begins.length_invocationsOf inv.numbered mem j
  refine ⟨settled.suits, fun calm ↦ ⟨?_, (settled.calm calm).2⟩, fun awaiting ↦ ?_⟩
  · rw [(settled.calm calm).1] at length
    exact List.length_eq_zero_iff.mp length
  · rw [length]
    exact settled.awaiting awaiting

/-- An invocation is gone. -/
theorem AllSettled.of_leaves {i : Invocation} {e : InvocationEnd} (h : AllSettled s w)
    (inv : Invariant s w) (mem : i ∈ w.invocations) (leaves : Leaves w i e w') :
    AllSettled s w' := by
  intro j d hd
  rw [leaves.cycle?, Option.map_eq_some_iff] at hd
  obtain ⟨c, hc, rfl⟩ := hd
  have hid : c.id = j := Keyed.key_of_find? hc
  by_cases own : j = i.cycle
  · subst own
    rw [if_pos hid]
    exact (h _ c hc).leave (leaves.perm inv.numbered mem)
  · rw [if_neg (hid ▸ own), leaves.invocationsOf_of_ne inv.numbered mem own]
    exact h j c hc

/-- **Every move keeps all cycles settled.** -/
theorem AllSettled.move {m : Move} (h : AllSettled s w) (inv : Invariant s w)
    (e : Scheduler.move s m w = some w') : AllSettled s w' := by
  cases m with
  | call token => cases e; exact h.of_call inv token
  | cancel token => cases e; exact h
  | elapse ms => cases e; exact h
  | drop id => cases e; exact h.of_drop id
  | turn t =>
    cases t with
    | cycle id =>
      obtain ⟨c, a, hc, rfl, hstep, advance, -⟩ := step_cycle e
      obtain ⟨c', crossing⟩ := stepCycle_crosses (h c.id c hc).suits hstep
      exact h.of_crossing hc crossing advance.invocationsOf_of_ne
    | invocation id =>
      obtain ⟨i, hi, hstep⟩ := Option.bind_eq_some_iff.mp e
      have mem := List.mem_of_find?_eq_some hi
      rcases stepInvocation_cases hstep with begins | ⟨end_, leaves⟩
      · exact h.of_begins inv mem begins
      · exact h.of_leaves inv mem leaves

end AllSettled

/-! ## Shifts

A drop is a shift at the gate, since the invocations of the dropped cycle are only told to stop. -/

/-- What a move changes for the gate, the stands of the cycles, the invocations, the pool and the
log. -/
inductive Shift (s : SchedulerSetup) (w w' : Scheduler) : Prop where
  /-- A cycle does something at the gate, or nothing. -/
  | passes (id : Nat) (passing : Gate.Passing id w.gate (w.standOf id) w'.gate (w'.standOf id))
    (there : ∀ d, d ≠ id → w'.standOf d = w.standOf d)
    (idle : w.standOf id = .queued → w.invocationsOf id = []) (still : Still id w w')
  /-- A cycle is called for. -/
  | calls (here : w'.standOf w.next = .outside)
    (there : ∀ d, d ≠ w.next → w'.standOf d = w.standOf d)
    (gate : w'.gate = w.gate) (invocations : w'.invocations = w.invocations)
    (permits : w'.permits = w.permits) (next : w'.next = w.next + 1) (log : w'.log = w.log)
  | spawns (id : Nat) (t : Target) (token : Nat) (inside : w.standOf id = .inside)
    (stand : ∀ d, w'.standOf d = w.standOf d) (gate : w'.gate = w.gate.share)
    (calm : s.config.parallel = false → w.invocationsOf id = [])
    (invocations : w'.invocations =
      w.invocations ++ [⟨w.next, id, token, t, s.config.parallel, false, .spawned⟩])
    (permits : w.permits = w'.permits + if s.config.parallel then 1 else 0)
    (next : w'.next = w.next + 1) (log : w'.log = w.log ++ [.spawned id t])
  /-- The call of an invocation begins. -/
  | begins (i : Invocation) (mem : i ∈ w.invocations) (phase : InvocationPhase)
    (stand : ∀ d, w'.standOf d = w.standOf d) (gate : w'.gate = w.gate)
    (invocations : w'.invocations =
      w.invocations.map fun j ↦ if j.id = i.id then { j with phase := phase } else j)
    (permits : w'.permits = w.permits) (next : w'.next = w.next)
    (log : ∃ cancelled, w'.log = w.log ++ [.started i.cycle i.target cancelled])
  /-- An invocation is gone. -/
  | retires (i : Invocation) (mem : i ∈ w.invocations) (e : InvocationEnd)
    (stand : ∀ d, w'.standOf d = w.standOf d) (gate : w'.gate = w.gate.release)
    (invocations : w'.invocations = w.invocations.filter (·.id ≠ i.id))
    (permits : w'.permits = w.permits + if i.pooled then 1 else 0) (next : w'.next = w.next)
    (log : w'.log = w.log ++ [.gone i.cycle i.target e])

section Shift

variable {s : SchedulerSetup} {w w' : Scheduler}

theorem standOf_congr (h : w'.cycles = w.cycles) (id : Nat) : w'.standOf id = w.standOf id := by
  rw [standOf, standOf, cycle?, cycle?, h]

/-- Cycles that hear of something stay where they are. -/
theorem standOf_map {f : Cycle → Cycle} (id_eq : ∀ c, (f c).id = c.id)
    (phase : ∀ c, (f c).phase = c.phase) (h : w'.cycles = w.cycles.map f) (id : Nat) :
    w'.standOf id = w.standOf id := by
  have found : w'.cycle? id = (w.cycle? id).map f := by
    rw [cycle?, h]
    exact Keyed.find?_map id_eq _ _
  rw [standOf, found, standOf, Option.map_map]
  congr 2
  funext c
  exact congrArg CyclePhase.stand (phase c)

/-- Where cycles stand after a turn of one of them. -/
theorem Crossing.standOf {c c' : Cycle} (e : Crossing s w c w' c') (hc : w.cycle? c.id = some c) :
    w'.standOf c.id = c'.phase.stand ∧ ∀ d, d ≠ c.id → w'.standOf d = w.standOf d := by
  refine ⟨standOf_of_cycle? (e.cycle?_self hc), fun d hd ↦ ?_⟩
  rw [Scheduler.standOf, Scheduler.standOf, e.cycle?_of_ne hd]

/-- A cycle that waits at the gate has no invocations. -/
theorem AllSettled.idle (h : AllSettled s w) {id : Nat} (queued : w.standOf id = .queued) :
    w.invocationsOf id = [] := by
  cases hc : w.cycle? id with
  | none =>
    rw [standOf, hc] at queued
    cases queued
  | some c =>
    rw [standOf_of_cycle? hc] at queued
    have calm : c.phase.isCalm = true := by
      cases phase : c.phase with
      | queued => rfl
      | _ => rw [phase] at queued; cases queued
    exact ((h id c hc).calm calm).1

/-- Nothing happens at the gate. -/
theorem shift_of_same (h : AllSettled s w) (gate : w'.gate = w.gate) (cycles : w'.cycles = w.cycles)
    (invocations : w'.invocations = w.invocations) (permits : w'.permits = w.permits)
    (next : w'.next = w.next) (log : w'.log = w.log) : Shift s w w' := by
  have stand := standOf_congr cycles
  refine .passes 0 ?_ (fun d _ ↦ stand d) (fun hq ↦ h.idle hq)
    (still_of_eq permits log next invocations)
  rw [gate, stand 0]
  exact .stays _ _

/-- An invocation gives back what it holds. -/
theorem shift_of_quiet {v : Scheduler} {i : Invocation} (mem : i ∈ w.invocations)
    (e : InvocationEnd) (quiet : Quiet w v) : Shift s w (v.retire i e) := by
  have cycles : (v.retire i e).cycles = w.cycles.map fun c ↦
      if c.id = i.cycle then { c with arrived := c.arrived ++ [(i.target, e)] } else c := by
    rw [← quiet.cycles]
    rfl
  refine .retires i mem e (standOf_map (fun c ↦ ?_) (fun c ↦ ?_) cycles) ?_ ?_ ?_ quiet.next ?_
  · split <;> rfl
  · split <;> rfl
  · rw [← quiet.gate]; rfl
  · rw [← quiet.invocations]; rfl
  · rw [← quiet.permits, retire]
    show (if i.pooled then v.permits + 1 else v.permits) = _
    split <;> rfl
  · rw [← quiet.log]
    exact log_note_of_crew rfl

/-- **What a move changes.** -/
theorem move_shifts {m : Move} (h : AllSettled s w) (inv : Invariant s w)
    (e : Scheduler.move s m w = some w') : Shift s w w' := by
  cases m with
  | call token =>
    cases e
    refine .calls ?_ (fun d hd ↦ ?_) rfl rfl rfl rfl rfl
    · rw [standOf, inv.numbered.cycle?_call, if_pos rfl]
      rfl
    · rw [standOf, inv.numbered.cycle?_call, if_neg hd, standOf]
  | cancel token => cases e; exact shift_of_same h rfl rfl rfl rfl rfl rfl
  | elapse ms => cases e; exact shift_of_same h rfl rfl rfl rfl rfl rfl
  | drop id =>
    cases e
    have drops := drop_drops w id
    obtain ⟨passing, still⟩ := drop_passes w id
    have here : (w.drop id).standOf id = .gone := by
      rw [standOf, drops.cycle?, if_pos rfl]
      rfl
    refine .passes id (here ▸ passing) (fun d hd ↦ ?_) (fun hq ↦ h.idle hq) still
    rw [standOf, drops.cycle?, if_neg hd, standOf]
  | turn t =>
    cases t with
    | cycle id =>
      obtain ⟨c, a, hc, rfl, hstep, advance, -⟩ := step_cycle e
      obtain ⟨c', crossing⟩ := stepCycle_crosses (h c.id c hc).suits hstep
      have before := standOf_of_cycle? hc
      obtain ⟨here, there⟩ := crossing.standOf hc
      rcases crossing.effect with ⟨passing, still⟩ | spawns
      · rw [← here, ← before] at passing
        exact .passes c.id passing there (fun hq ↦ h.idle hq) still
      · obtain ⟨t, invocations, log⟩ := spawns.invocations
        have stand : ∀ d, w'.standOf d = w.standOf d := by
          intro d
          by_cases own : d = c.id
          · rw [own, here, before, spawns.before, spawns.after]
          · exact there d own
        exact .spawns c.id t c.token (by rw [before, spawns.before]) stand spawns.gate
          (fun sequential ↦ ((h c.id c hc).calm (spawns.calm sequential)).1)
          invocations spawns.permits
          spawns.next log
    | invocation id =>
      obtain ⟨i, hi, hstep⟩ := Option.bind_eq_some_iff.mp e
      have mem := List.mem_of_find?_eq_some hi
      rcases stepInvocation_retires hstep with rfl | ⟨v, end_, quiet, rfl⟩
      · obtain ⟨phase, invocations, -⟩ := (beginCall_begins s w i).exists_map inv.numbered mem
        exact .begins i mem phase (standOf_congr rfl) rfl invocations rfl rfl
          ⟨_, log_note_of_crew rfl⟩
      · exact shift_of_quiet mem end_ quiet

end Shift

end Scheduler

end MetricsAgent
