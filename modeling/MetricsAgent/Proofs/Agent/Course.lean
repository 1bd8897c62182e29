import MetricsAgent.Agent.Basic
import MetricsAgent.Proofs.Scheduler.Verdict

/-!
# The course of an agent

The moves of an agent, and what the turns of its calls and loops do.  The moves of an agent make its
scheduler move, so along a run of the agent there is a run of the scheduler
(`Agent.trail_scheduling`), and what is known of all runs of schedulers holds of it.

* `Agent.Move` lists the moves, and `Agent.move` makes them.
* `Agent.CallTurn` says what a turn of a call does: its cycle has returned, or an exporter has
  answered.
* `Agent.LoopTurn` says what a turn of a loop does: it stops, takes a tick, or goes on after one.
* `Agent.Numbered` says that calls and loops have numbers that were given out, and `Agent.Recedes`
  that what is under way later was so before.

Calls and loops are found by their numbers, and a call has the number of its cycle.  What can be
seen of them are a few Boolean functions of these numbers, such as `Agent.runs` and `Agent.awaits`,
so that a statement about a run need not mention the lists in which they are kept.

The last section says for each kind of thing with a number how it changes in a move, and that what
has ended has ended for good (`Agent.not_runs_of_trail`).
-/

set_option autoImplicit false

namespace MetricsAgent

namespace Agent

/-! ## Moves

As for schedulers, the moves are data. -/

/-- What can happen next to an agent. -/
inductive Move where
  | call (token : Nat) (exports : Bool)
  | startLoop (token : Nat)
  | cancel (token : Nat)
  | elapse (ms : Nat)
  | drop (cycle : Nat)
  /-- A task has its turn. -/
  | turn (t : TaskId)
  deriving DecidableEq

/-- Make a move, if it is possible. -/
def move (s : AgentSetup) (m : Move) (a : Agent) : Option Agent :=
  match m with
  | .call token exports => some (a.call token exports)
  | .startLoop token => some (a.startLoop s token)
  | .cancel token => some (a.cancel token)
  | .elapse ms => some (a.elapse ms)
  | .drop cycle => some (a.drop cycle)
  | .turn t => a.step s t

/-- The reachable states are those at the end of a trail. -/
theorem reachable_iff_exists_trail {s : AgentSetup} {metrics : SelfMetrics} {a : Agent} :
    Reachable s metrics a ↔ ∃ l, Trail (move s) (start s metrics) l a := by
  constructor
  · intro h
    induction h with
    | start => exact ⟨[], .start⟩
    | call _ token exports ih => obtain ⟨l, h⟩ := ih; exact ⟨_, h.move (.call token exports) rfl⟩
    | startLoop _ token ih => obtain ⟨l, h⟩ := ih; exact ⟨_, h.move (.startLoop token) rfl⟩
    | cancel _ token ih => obtain ⟨l, h⟩ := ih; exact ⟨_, h.move (.cancel token) rfl⟩
    | elapse _ ms ih => obtain ⟨l, h⟩ := ih; exact ⟨_, h.move (.elapse ms) rfl⟩
    | drop _ cycle ih => obtain ⟨l, h⟩ := ih; exact ⟨_, h.move (.drop cycle) rfl⟩
    | step _ t e ih => obtain ⟨l, h⟩ := ih; exact ⟨_, h.move (.turn t) e⟩
  · rintro ⟨l, h⟩
    refine h.invariant .start fun {b b'} m hb e ↦ ?_
    cases m with
    | call token exports => cases e; exact .call hb token exports
    | startLoop token => cases e; exact .startLoop hb token
    | cancel token => cases e; exact .cancel hb token
    | elapse ms => cases e; exact .elapse hb ms
    | drop cycle => cases e; exact .drop hb cycle
    | turn t => exact .step hb t e

/-! ## What can be seen of calls and loops

A call is under way while its cycle runs and while an exporter has its batch.  `Agent.awaits` and
`Agent.isTicking` are about the first of these only. -/

/-- Whether the cycle of a call runs. -/
def CallPhase.isRunning : CallPhase → Bool
  | running => true
  | _ => false

/-- The call with a number. -/
def call? (a : Agent) (cycle : Nat) : Option Call := a.calls.find? (·.cycle = cycle)

/-- Whether a call is under way. -/
def runs (a : Agent) (cycle : Nat) : Bool := (a.call? cycle).any (·.phase.isUnderWay)

/-- Whether a call is under way whose cycle has not returned. -/
def awaits (a : Agent) (cycle : Nat) : Bool := (a.call? cycle).any (·.phase.isRunning)

/-- Whether the cycle of a call is under way whose batch goes to the exporters. -/
def isTicking (a : Agent) (cycle : Nat) : Bool :=
  (a.call? cycle).any fun c ↦ c.exports && c.phase.isRunning

/-- The loop with a number. -/
def loop? (a : Agent) (id : Nat) : Option Loop := a.loops.find? (·.id = id)

theorem CallPhase.isRunning_iff {φ : CallPhase} : φ.isRunning = true ↔ φ = .running := by
  cases φ <;> simp [isRunning]

theorem CallPhase.isUnderWay_of_isRunning {φ : CallPhase} (h : φ.isRunning = true) :
    φ.isUnderWay = true := by
  rw [isRunning_iff.mp h]
  rfl

theorem runs_iff {a : Agent} {n : Nat} :
    a.runs n = true ↔ ∃ c, a.call? n = some c ∧ c.phase.isUnderWay = true :=
  Option.any_eq_true _ _

theorem awaits_iff {a : Agent} {n : Nat} :
    a.awaits n = true ↔ ∃ c, a.call? n = some c ∧ c.phase = .running := by
  simp only [awaits, Option.any_eq_true, CallPhase.isRunning_iff]

theorem isTicking_iff {a : Agent} {n : Nat} :
    a.isTicking n = true ↔ ∃ c, a.call? n = some c ∧ c.exports = true ∧ c.phase = .running := by
  simp only [isTicking, Option.any_eq_true, Bool.and_eq_true, CallPhase.isRunning_iff]

theorem runs_of_awaits {a : Agent} {n : Nat} (h : a.awaits n = true) : a.runs n = true := by
  obtain ⟨c, there, running⟩ := awaits_iff.mp h
  exact runs_iff.mpr
    ⟨c, there, CallPhase.isUnderWay_of_isRunning (CallPhase.isRunning_iff.mpr running)⟩

theorem awaits_of_isTicking {a : Agent} {n : Nat} (h : a.isTicking n = true) :
    a.awaits n = true := by
  obtain ⟨c, there, -, running⟩ := isTicking_iff.mp h
  exact awaits_iff.mpr ⟨c, there, running⟩

theorem runs_eq_false_iff {a : Agent} {n : Nat} :
    a.runs n = false ↔ ∀ c, a.call? n = some c → c.phase.isUnderWay = false := by
  rw [← Bool.not_eq_true, runs_iff, not_exists]
  exact forall_congr' fun c ↦ not_and.trans (by rw [Bool.not_eq_true])

theorem call?_putCall_self {a : Agent} {c c' : Call} (there : a.call? c'.cycle = some c) :
    (a.putCall c').call? c'.cycle = some c' :=
  Keyed.find?_replace there

theorem call?_putCall_of_ne {a : Agent} {c : Call} {n : Nat} (h : c.cycle ≠ n) :
    (a.putCall c).call? n = a.call? n :=
  Keyed.find?_replace_of_ne h

theorem loop?_putLoop_self {a : Agent} {k k' : Loop} (there : a.loop? k'.id = some k) :
    (a.putLoop k').loop? k'.id = some k' :=
  Keyed.find?_replace there

theorem loop?_putLoop_of_ne {a : Agent} {k : Loop} {id : Nat} (h : k.id ≠ id) :
    (a.putLoop k).loop? id = a.loop? id :=
  Keyed.find?_replace_of_ne h

/-! ## The turns of a call

A call has a turn when its cycle has returned, and then one for each exporter that has answered. -/

/-- What the turns of a call leave behind in any case: the call is not before the end of its cycle
any more, and the other calls and the loops stay as they are. -/
structure Moves (a : Agent) (c : Call) (a' : Agent) : Prop where
  scheduler : a'.scheduler = if c.phase.isRunning then a.scheduler.drop c.cycle else a.scheduler
  loops : a'.loops = a.loops
  calls : ∃ φ : CallPhase, φ.isRunning = false ∧
    a'.calls = a.calls.map fun d ↦ if d.cycle = c.cycle then { c with phase := φ } else d

/-- To hand a batch over goes into the history and changes the call. -/
theorem handOver_eq (a : Agent) (c : Call) (batch : List Measurement) (l : List Exporter) :
    ∃ (φ : CallPhase) (h : History Event), φ.isRunning = false ∧
      a.handOver c batch l = { a with history := h }.putCall { c with phase := φ } := by
  cases l with
  | nil => exact ⟨_, a.history, rfl, rfl⟩
  | cons e rest => exact ⟨_, _, rfl, rfl⟩

theorem finishCall_moves (s : AgentSetup) (a : Agent) {c : Call} (running : c.phase = .running)
    (r : Except CycleError CycleReport) : Moves a c (a.finishCall s c r) := by
  have dropped (φ : CallPhase) (h : φ.isRunning = false) (drawn : Nat) (told : History Event) :
      Moves a c ({ a with
        scheduler := a.scheduler.drop c.cycle, drawn := drawn, history := told }.putCall
          { c with phase := φ }) :=
    ⟨by rw [running]; rfl, rfl, φ, h, rfl⟩
  cases r with
  | error e => exact dropped _ (by split <;> rfl) a.drawn a.history
  | ok r =>
    dsimp only [finishCall]
    split
    · exact dropped _ rfl _ a.history
    · split
      · exact dropped _ rfl _ a.history
      · obtain ⟨φ, h, past, same⟩ := handOver_eq
          { a with
            scheduler := a.scheduler.drop c.cycle
            drawn := (refine s (a.scheduler.drop c.cycle).metrics a.drawn r).2 } c
          (refine s (a.scheduler.drop c.cycle).metrics a.drawn r).1.measurements s.exporters
        rw [same]
        exact dropped φ past _ h

theorem scheduler_finishCall (s : AgentSetup) (a : Agent) {c : Call} (running : c.phase = .running)
    (r : Except CycleError CycleReport) :
    (a.finishCall s c r).scheduler = a.scheduler.drop c.cycle := by
  rw [(finishCall_moves s a running r).scheduler, running]
  rfl

/-- What a turn of a call does. -/
inductive CallTurn (s : AgentSetup) (a : Agent) (c : Call) : Agent → Prop
  /-- The cycle has returned. -/
  | returns (r : Except CycleError CycleReport) (running : c.phase = .running)
    (returned : a.scheduler.result? c.cycle = some r) : CallTurn s a c (a.finishCall s c r)
  /-- An exporter has answered. -/
  | passes (batch : List Measurement) (e : Exporter) (rest : List Exporter) (t : Nat)
    (exporting : c.phase = .exporting batch e rest (some t)) (due : t ≤ a.now) :
    CallTurn s a c ((a.note
      (.answered c.cycle e.name (e.take c.cycle batch).result)).handOver c batch rest)

section CallTurns

variable {s : AgentSetup} {a a' : Agent} {c : Call}

theorem CallTurn.moves (h : CallTurn s a c a') : Moves a c a' := by
  cases h with
  | returns r running returned => exact finishCall_moves s a running r
  | passes batch e rest t exporting =>
    obtain ⟨φ, h, past, same⟩ := handOver_eq
      (a.note (.answered c.cycle e.name (e.take c.cycle batch).result)) c batch rest
    rw [same]
    exact ⟨by rw [exporting]; rfl, rfl, φ, past, rfl⟩

/-- A call whose turn it is was under way. -/
theorem CallTurn.isUnderWay (h : CallTurn s a c a') : c.phase.isUnderWay = true := by
  cases h with
  | returns r running => rw [running]; rfl
  | passes batch e rest t exporting => rw [exporting]; rfl

/-- There are no other turns of a call. -/
theorem stepCall_turn (e : a.stepCall s c = some a') : CallTurn s a c a' := by
  rw [stepCall] at e
  split at e
  · obtain ⟨r, returned, rfl⟩ := Option.map_eq_some_iff.mp e
    exact .returns r ‹_› returned
  · rename_i batch x rest until? phase
    obtain ⟨ripe, same⟩ := Option.ite_none_right_eq_some.mp e
    obtain ⟨t, rfl, due⟩ := (Option.any_eq_true _ _).mp ripe
    cases same
    exact .passes batch x rest t phase (of_decide_eq_true due)
  · cases e
  · cases e

/-- The turn of a call leaves the other calls alone. -/
theorem Moves.call?_of_ne (h : Moves a c a') {n : Nat} (other : c.cycle ≠ n) :
    a'.call? n = a.call? n := by
  obtain ⟨φ, -, calls⟩ := h.calls
  rw [call?, calls]
  exact call?_putCall_of_ne (c := { c with phase := φ }) other

/-- After a turn of a call its cycle is not under way. -/
theorem Moves.awaits_self (h : Moves a c a') (there : a.call? c.cycle = some c) :
    a'.awaits c.cycle = false := by
  obtain ⟨φ, past, calls⟩ := h.calls
  have after : a'.call? c.cycle = some { c with phase := φ } := by
    rw [call?, calls]
    exact @call?_putCall_self a c { c with phase := φ } there
  rw [awaits, after]
  exact past

end CallTurns

section Turns

variable {s : AgentSetup} {a a' : Agent}

/-- A call whose turn it is was there. -/
theorem step_call {cycle : Nat} (e : a.step s (.call cycle) = some a') :
    ∃ c, a.call? cycle = some c ∧ c.cycle = cycle ∧ CallTurn s a c a' := by
  obtain ⟨c, there, turn⟩ := Option.bind_eq_some_iff.mp e
  exact ⟨c, there, Keyed.key_of_find? there, stepCall_turn turn⟩

theorem step_call_eq {c : Call} {cycle : Nat} (there : a.call? cycle = some c) :
    a.step s (.call cycle) = a.stepCall s c := by
  rw [call?] at there
  simp only [step, there, Option.bind_some]

theorem step_call_of_running {c : Call} {cycle : Nat} (there : a.call? cycle = some c)
    (running : c.phase = .running) :
    a.step s (.call cycle) = (a.scheduler.result? cycle).map (a.finishCall s c) := by
  obtain rfl : c.cycle = cycle := Keyed.key_of_find? there
  simp only [step_call_eq there, stepCall, running]

/-! ## The turns of a loop

A loop that waits looks at its token before it looks at the time. -/

/-- What a turn of a loop does, and the loop and the agent after it. -/
inductive LoopTurn (a : Agent) (k : Loop) : Loop → Agent → Prop
  | stops (waits : k.phase = .waiting) (fired : a.scheduler.isFired k.token = true) :
    LoopTurn a k { k with phase := .stopped } (a.putLoop { k with phase := .stopped })
  | ticks (waits : k.phase = .waiting) (unfired : a.scheduler.isFired k.token = false)
    (due : k.ticker.deadline ≤ a.now) :
    LoopTurn a k
      { k with ticker := k.ticker.advance a.now, phase := .ticking a.scheduler.next }
      (((a.note (.ticked k.id k.ticker.deadline)).call k.token true).putLoop
        { k with ticker := k.ticker.advance a.now, phase := .ticking a.scheduler.next })
  | resumes (cycle : Nat) (ticks : k.phase = .ticking cycle) (past : a.runs cycle = false) :
    LoopTurn a k { k with phase := .waiting }
      ({ a with calls := a.calls.filter (·.cycle ≠ cycle) }.putLoop { k with phase := .waiting })

theorem stepLoop_waiting {k : Loop} (waits : k.phase = .waiting) :
    a.stepLoop k = if a.scheduler.isFired k.token then some (a.putLoop { k with phase := .stopped })
      else if k.ticker.isDue a.now then
        some (((a.note (.ticked k.id k.ticker.deadline)).call k.token true).putLoop
          { k with ticker := k.ticker.advance a.now, phase := .ticking a.scheduler.next })
      else none := by
  rw [stepLoop, waits]

theorem stepLoop_ticking {k : Loop} {cycle : Nat} (ticks : k.phase = .ticking cycle) :
    a.stepLoop k = if a.runs cycle then none
      else some ({ a with calls := a.calls.filter (·.cycle ≠ cycle) }.putLoop
        { k with phase := .waiting }) := by
  rw [stepLoop, ticks]
  rfl

/-- There are no other turns of a loop. -/
theorem stepLoop_cases {k : Loop} (e : a.stepLoop k = some a') : ∃ k', LoopTurn a k k' a' := by
  cases phase : k.phase with
  | waiting =>
    rw [stepLoop_waiting phase] at e
    split at e
    · cases e
      exact ⟨_, .stops phase ‹_›⟩
    · rename_i unfired
      obtain ⟨due, same⟩ := Option.ite_none_right_eq_some.mp e
      cases same
      exact ⟨_, .ticks phase (Bool.eq_false_iff.mpr unfired) (of_decide_eq_true due)⟩
  | ticking cycle =>
    rw [stepLoop_ticking phase] at e
    obtain ⟨past, same⟩ := Option.ite_none_left_eq_some.mp e
    cases same
    exact ⟨_, .resumes cycle phase (Bool.eq_false_iff.mpr past)⟩
  | stopped =>
    rw [stepLoop, phase] at e
    cases e

theorem step_loop {id : Nat} (e : a.step s (.loop id) = some a') :
    ∃ k k', a.loop? id = some k ∧ k.id = id ∧ LoopTurn a k k' a' := by
  obtain ⟨k, there, e⟩ := Option.bind_eq_some_iff.mp e
  obtain ⟨k', turn⟩ := stepLoop_cases e
  exact ⟨k, k', there, Keyed.key_of_find? there, turn⟩

theorem step_loop_eq {id : Nat} {k : Loop} (there : a.loop? id = some k) :
    a.step s (.loop id) = a.stepLoop k := by
  rw [loop?] at there
  simp only [step, there, Option.bind_some]

/-- After its turn a loop is found as the turn left it. -/
theorem LoopTurn.loop?_self {k k' : Loop} {id : Nat} (h : LoopTurn a k k' a')
    (there : a.loop? id = some k) : a'.loop? id = some k' := by
  obtain rfl : k.id = id := Keyed.key_of_find? there
  cases h with
  | stops => exact loop?_putLoop_self (k := k) there
  | ticks => exact loop?_putLoop_self (k := k) there
  | resumes => exact loop?_putLoop_self (k := k) there

theorem LoopTurn.loop?_of_ne {k k' : Loop} {id : Nat} (h : LoopTurn a k k' a') (other : k.id ≠ id) :
    a'.loop? id = a.loop? id := by
  cases h with
  | stops => exact loop?_putLoop_of_ne other
  | ticks => exact loop?_putLoop_of_ne other
  | resumes => exact loop?_putLoop_of_ne other

/-! ## The run of the scheduler

A call begins a cycle, whether it is made on its own or by a loop that takes a tick.  The turn of a
call whose cycle has returned takes the cycle away, and the turns after that leave the scheduler
alone. -/

/-- The move that the scheduler makes in a move of the agent. -/
def scheduling (a : Agent) : Move → Option Scheduler.Move
  | .call token _ => some (.call token)
  | .startLoop _ => none
  | .cancel token => some (.cancel token)
  | .elapse ms => some (.elapse ms)
  | .drop cycle => some (.drop cycle)
  | .turn (.call cycle) => if a.awaits cycle then some (.drop cycle) else none
  | .turn (.scheduler t) => some (.turn t)
  | .turn (.loop id) =>
    (a.loop? id).bind fun k ↦
      if k.phase = .waiting ∧
      a.scheduler.isFired k.token = false then some (.call k.token) else none

/-- What a move of the agent does to the scheduler. -/
theorem scheduler_of_move {m : Move} (e : move s m a = some a') :
    a.scheduling m = none ∧ a'.scheduler = a.scheduler ∨
      ∃ k, a.scheduling m = some k ∧
        Scheduler.move s.scheduler k a.scheduler = some a'.scheduler := by
  cases m with
  | call token exports => cases e; exact .inr ⟨_, rfl, rfl⟩
  | startLoop token => cases e; exact .inl ⟨rfl, rfl⟩
  | cancel token => cases e; exact .inr ⟨_, rfl, rfl⟩
  | elapse ms => cases e; exact .inr ⟨_, rfl, rfl⟩
  | drop cycle => cases e; exact .inr ⟨_, rfl, rfl⟩
  | turn t =>
    cases t with
    | scheduler t =>
      obtain ⟨w, hw, rfl⟩ := Option.map_eq_some_iff.mp e
      exact .inr ⟨_, rfl, hw⟩
    | call cycle =>
      obtain ⟨c, there, rfl, turn⟩ := step_call e
      have awaits : a.awaits c.cycle = c.phase.isRunning := by rw [Agent.awaits, there]; rfl
      rw [scheduling, turn.moves.scheduler, awaits]
      cases c.phase.isRunning with
      | true => exact .inr ⟨_, rfl, rfl⟩
      | false => exact .inl ⟨rfl, rfl⟩
    | loop id =>
      obtain ⟨k, k', there, -, turn⟩ := step_loop (s := s) e
      rw [scheduling, there, Option.bind_some]
      cases turn with
      | stops waits fired => exact .inl ⟨if_neg (by simp [fired]), rfl⟩
      | ticks waits unfired => exact .inr ⟨_, if_pos ⟨waits, unfired⟩, rfl⟩
      | resumes cycle ticks => exact .inl ⟨if_neg (by simp [ticks]), rfl⟩

/-- What a run of the agent is to its scheduler. -/
def schedulings (l : List (Passage Agent Move)) : List (Passage Scheduler Scheduler.Move) :=
  l.filterMap fun t ↦
    (t.before.scheduling t.move).map fun k ↦ ⟨t.before.scheduler, k, t.after.scheduler⟩

/-- **In a run of an agent its scheduler makes a run.** -/
theorem trail_scheduling {b : Agent} {l : List (Passage Agent Move)} (h : Trail (move s) b l a) :
    Trail (Scheduler.move s.scheduler) b.scheduler (schedulings l) a.scheduler :=
  h.project scheduler scheduling fun _ e ↦ scheduler_of_move e

/-! ## Time, tokens and numbers

A number is given out once, so a call that is not under way any more will not be again. -/

variable {m : Move}

/-- A token that has fired stays so. -/
theorem isFired_of_move (e : move s m a = some a') {token : Nat}
    (h : a.scheduler.isFired token = true) : a'.scheduler.isFired token = true := by
  rcases scheduler_of_move e with ⟨-, same⟩ | ⟨k, -, e⟩
  · rw [same]
    exact h
  · exact Scheduler.isFired_of_move e h

/-- Time passes only where a move says so. -/
theorem now_of_move (e : move s m a = some a') :
    a'.now = a.now ∨ ∃ ms, m = .elapse ms ∧ a' = a.elapse ms := by
  by_cases elapses : ∃ ms, m = .elapse ms
  · obtain ⟨ms, rfl⟩ := elapses
    cases e
    exact .inr ⟨ms, rfl, rfl⟩
  · refine .inl ?_
    rcases scheduler_of_move e with ⟨-, same⟩ | ⟨k, moves, e⟩
    · rw [now, same]
      rfl
    · rcases Scheduler.now_of_move e with same | ⟨ms, rfl, -⟩
      · exact same
      · cases m with
        | elapse ms' => exact absurd ⟨ms', rfl⟩ elapses
        | turn t =>
          cases t with
          | loop id =>
            obtain ⟨k, -, h⟩ := Option.bind_eq_some_iff.mp moves
            split at h <;> cases h
          | call cycle => cases (Option.ite_none_right_eq_some.mp moves).2
          | scheduler => cases moves
        | _ => cases moves

/-- Time does not go back. -/
theorem now_le_of_move (e : move s m a = some a') : a.now ≤ a'.now := by
  rcases now_of_move e with same | ⟨ms, -, rfl⟩
  · exact Nat.le_of_eq same.symm
  · exact Nat.le_add_right _ _

/-- Numbers that were given out stay so. -/
theorem next_le_of_move (e : move s m a = some a') : a.scheduler.next ≤ a'.scheduler.next := by
  rcases scheduler_of_move e with ⟨-, same⟩ | ⟨k, -, e⟩
  · exact Nat.le_of_eq (congrArg Scheduler.next same).symm
  · exact Scheduler.next_le_move e

/-- The numbers of calls and loops were given out. -/
structure Numbered (a : Agent) : Prop where
  calls : ∀ c ∈ a.calls, c.cycle < a.scheduler.next
  loops : ∀ k ∈ a.loops, k.id < a.loops.length

/-- What holds of later calls held of them before, where it is about how far they are. -/
structure Recedes (a a' : Agent) : Prop where
  runs : ∀ n, a'.runs n = true → a.runs n = true
  awaits : ∀ n, a'.awaits n = true → a.awaits n = true
  cycles : ∀ c' ∈ a'.calls, ∃ c ∈ a.calls, c'.cycle = c.cycle

theorem Recedes.of_calls_eq (h : a'.calls = a.calls) : Recedes a a' where
  runs n hn := by
    rw [Agent.runs, call?, h] at hn
    exact hn
  awaits n hn := by
    rw [Agent.awaits, call?, h] at hn
    exact hn
  cycles c' hc' := ⟨c', h ▸ hc', rfl⟩

theorem Recedes.of_filter {n : Nat} (h : a'.calls = a.calls.filter (·.cycle ≠ n)) :
    Recedes a a' where
  runs j hj := by
    rw [Agent.runs, call?, h, Keyed.find?_filter_ne] at hj
    split at hj
    · cases hj
    · exact hj
  awaits j hj := by
    rw [Agent.awaits, call?, h, Keyed.find?_filter_ne] at hj
    split at hj
    · cases hj
    · exact hj
  cycles c' hc' := ⟨c', (List.mem_filter.mp (h ▸ hc')).1, rfl⟩

theorem CallTurn.recedes {c : Call} (h : CallTurn s a c a') (there : a.call? c.cycle = some c) :
    Recedes a a' where
  runs n hn := by
    by_cases own : c.cycle = n
    · subst own
      exact runs_iff.mpr ⟨c, there, h.isUnderWay⟩
    · rw [Agent.runs, h.moves.call?_of_ne own] at hn
      exact hn
  awaits n hn := by
    by_cases own : c.cycle = n
    · subst own
      rw [h.moves.awaits_self there] at hn
      cases hn
    · rw [Agent.awaits, h.moves.call?_of_ne own] at hn
      exact hn
  cycles c' hc' := by
    obtain ⟨φ, -, calls⟩ := h.moves.calls
    rw [calls] at hc'
    obtain ⟨d, hd, rfl⟩ := List.mem_map.mp hc'
    refine ⟨d, hd, ?_⟩
    split
    · exact Eq.symm ‹_›
    · rfl

/-- What a move does to the calls: none changes, one begins, or calls go on or go. -/
theorem calls_of_move (e : move s m a = some a') :
    (∃ exports, a'.calls = a.calls ++ [⟨a.scheduler.next, exports, .running⟩] ∧
        a'.scheduler.next = a.scheduler.next + 1) ∨ Recedes a a' := by
  cases m with
  | call token exports => cases e; exact .inl ⟨exports, rfl, rfl⟩
  | startLoop token => cases e; exact .inr (.of_calls_eq rfl)
  | cancel token => cases e; exact .inr (.of_calls_eq rfl)
  | elapse ms => cases e; exact .inr (.of_calls_eq rfl)
  | drop cycle => cases e; exact .inr (.of_filter rfl)
  | turn t =>
    cases t with
    | scheduler t =>
      obtain ⟨w, -, rfl⟩ := Option.map_eq_some_iff.mp e
      exact .inr (.of_calls_eq rfl)
    | call cycle =>
      obtain ⟨c, there, rfl, turn⟩ := step_call e
      exact .inr (turn.recedes there)
    | loop id =>
      obtain ⟨k, k', -, -, turn⟩ := step_loop (s := s) e
      cases turn with
      | stops => exact .inr (.of_calls_eq rfl)
      | ticks => exact .inl ⟨true, rfl, rfl⟩
      | resumes cycle => exact .inr (.of_filter rfl)

/-- The call with the next number is one that begins with the move. -/
theorem call?_of_begun {exports : Bool} {n : Nat} {c : Call}
    (calls : a'.calls = a.calls ++ [⟨a.scheduler.next, exports, .running⟩])
    (there : a'.call? n = some c) : a.call? n = some c ∨ n = a.scheduler.next := by
  rw [call?, calls, List.find?_append, Option.or_eq_some_iff] at there
  refine there.imp_right fun new ↦ (Keyed.key_of_find? new.2).symm.trans ?_
  exact congrArg Call.cycle (List.mem_singleton.mp (List.mem_of_find?_eq_some new.2))

/-- What is under way later was so before, or began with the move. -/
theorem runs_of_move (e : move s m a = some a') {n : Nat} (h : a'.runs n = true) :
    a.runs n = true ∨ n = a.scheduler.next := by
  rcases calls_of_move e with ⟨exports, calls, -⟩ | recedes
  · obtain ⟨c, there, underWay⟩ := runs_iff.mp h
    exact (call?_of_begun calls there).imp_left fun there ↦ runs_iff.mpr ⟨c, there, underWay⟩
  · exact .inl (recedes.runs n h)

theorem awaits_of_move (e : move s m a = some a') {n : Nat} (h : a'.awaits n = true) :
    a.awaits n = true ∨ n = a.scheduler.next := by
  rcases calls_of_move e with ⟨exports, calls, -⟩ | recedes
  · obtain ⟨c, there, running⟩ := awaits_iff.mp h
    exact (call?_of_begun calls there).imp_left fun there ↦ awaits_iff.mpr ⟨c, there, running⟩
  · exact .inl (recedes.awaits n h)

/-- A loop that has no turn stays as it is. -/
theorem loop?_of_move (e : move s m a = some a') {id : Nat}
    (other : m ≠ .turn (.loop id)) {k : Loop} (there : a.loop? id = some k) :
    a'.loop? id = some k := by
  cases m with
  | startLoop token =>
    cases e
    rw [loop?, startLoop, List.find?_append, ← loop?, there]
    rfl
  | turn t =>
    cases t with
    | scheduler t =>
      obtain ⟨w, -, rfl⟩ := Option.map_eq_some_iff.mp e
      exact there
    | call cycle =>
      obtain ⟨c, -, -, turn⟩ := step_call e
      rw [loop?, turn.moves.loops]
      exact there
    | loop n =>
      obtain ⟨j, j', -, rfl, turn⟩ := step_loop (s := s) e
      rw [turn.loop?_of_ne fun same ↦ other (by rw [same])]
      exact there
  | _ => cases e; exact there

theorem LoopTurn.loops {k k' : Loop} (h : LoopTurn a k k' a') :
    a'.loops = a.loops.map fun j ↦ if j.id = k.id then k' else j := by
  cases h <;> rfl

theorem LoopTurn.token_eq {k k' : Loop} (h : LoopTurn a k k' a') : k'.token = k.token := by
  cases h <;> rfl

theorem LoopTurn.id_eq {k k' : Loop} (h : LoopTurn a k k' a') : k'.id = k.id := by
  cases h <;> rfl

/-- The numbers of the loops stay, and a new loop has the next one. -/
theorem loops_of_move (e : move s m a = some a') :
    a'.loops.map (·.id) = a.loops.map (·.id) ∨
      a'.loops.map (·.id) = a.loops.map (·.id) ++ [a.loops.length] := by
  cases m with
  | startLoop token =>
    cases e
    exact .inr (List.map_append ..)
  | turn t =>
    cases t with
    | scheduler t =>
      obtain ⟨w, -, rfl⟩ := Option.map_eq_some_iff.mp e
      exact .inl rfl
    | call cycle =>
      obtain ⟨c, -, -, turn⟩ := step_call e
      rw [turn.moves.loops]
      exact .inl rfl
    | loop n =>
      obtain ⟨k, k', -, -, turn⟩ := step_loop (s := s) e
      rw [turn.loops, List.map_map]
      refine .inl (List.map_congr_left fun j _ ↦ ?_)
      rw [Function.comp_apply]
      split
      · rw [turn.id_eq]
        exact Eq.symm ‹_›
      · rfl
  | _ => cases e; exact .inl rfl

theorem Numbered.move (h : Numbered a) (e : Agent.move s m a = some a') : Numbered a' where
  calls c' hc' := by
    rcases calls_of_move e with ⟨exports, calls, next⟩ | recedes
    · rw [calls] at hc'
      rw [next]
      rcases List.mem_append.mp hc' with old | new
      · exact Nat.lt_succ_of_lt (h.calls c' old)
      · rw [List.mem_singleton.mp new]
        exact Nat.lt_succ_self _
    · obtain ⟨c, hc, same⟩ := recedes.cycles c' hc'
      rw [same]
      exact Nat.lt_of_lt_of_le (h.calls c hc) (next_le_of_move e)
  loops := by
    have before : ∀ n ∈ a.loops.map (·.id), n < (a.loops.map (·.id)).length := by
      rw [List.forall_mem_map, List.length_map]
      exact h.loops
    have after : ∀ n ∈ a'.loops.map (·.id), n < (a'.loops.map (·.id)).length := by
      rcases loops_of_move e with same | more
      · rw [same]
        exact before
      · intro n hn
        rw [more] at hn ⊢
        rw [List.length_append, List.length_map]
        rcases List.mem_append.mp hn with old | new
        · exact Nat.lt_succ_of_lt (by simpa using before n old)
        · rw [List.mem_singleton.mp new]
          exact Nat.lt_succ_self _
    rw [List.forall_mem_map, List.length_map] at after
    exact after

theorem numbered_start (s : AgentSetup) (metrics : SelfMetrics) : Numbered (start s metrics) :=
  ⟨fun _ h ↦ (nomatch h), fun _ h ↦ (nomatch h)⟩

/-- The number of a call that is under way was given out. -/
theorem Numbered.lt_of_runs (h : Numbered a) {n : Nat} (running : a.runs n = true) :
    n < a.scheduler.next := by
  obtain ⟨c, there, -⟩ := runs_iff.mp running
  obtain rfl : c.cycle = n := Keyed.key_of_find? there
  exact h.calls c (List.mem_of_find?_eq_some there)

theorem numbered_of_trail {b : Agent} {l : List (Passage Agent Move)} (numbered : Numbered b)
    (h : Trail (move s) b l a) : Numbered a :=
  h.invariant numbered fun _ hb e ↦ hb.move e

theorem Reachable.numbered {metrics : SelfMetrics} (h : Reachable s metrics a) : Numbered a := by
  obtain ⟨l, run⟩ := reachable_iff_exists_trail.mp h
  exact numbered_of_trail (numbered_start s metrics) run

/-- A number that was not given out is that of no call. -/
theorem Numbered.call?_fresh (h : Numbered a) {n : Nat} (fresh : a.scheduler.next ≤ n) :
    a.call? n = none := by
  refine List.find?_eq_none.mpr fun c hc same ↦ ?_
  have given := h.calls c hc
  rw [of_decide_eq_true same] at given
  omega

/-- A call that begins has the next number. -/
theorem Numbered.call?_call (h : Numbered a) (token : Nat) (exports : Bool) (n : Nat) :
    (a.call token exports).call? n =
      if n = a.scheduler.next then some ⟨n, exports, .running⟩ else a.call? n := by
  rw [call?, call, List.find?_append, List.find?_singleton, ← call?]
  by_cases new : n = a.scheduler.next
  · subst new
    rw [h.call?_fresh (Nat.le_refl _), Option.none_or, if_pos (decide_eq_true rfl), if_pos rfl]
  · rw [if_neg (by simpa using Ne.symm new), if_neg new, Option.or_none]

/-- A call is under way once it has begun. -/
theorem Numbered.isTicking_call (h : Numbered a) (token : Nat) :
    (a.call token true).isTicking a.scheduler.next = true :=
  isTicking_iff.mpr ⟨_, (h.call?_call token true _).trans (if_pos rfl), rfl, rfl⟩

/-- A call that is no more under way is so for good, -/
theorem not_runs_of_trail {b : Agent} {l : List (Passage Agent Move)}
    (h : Trail (move s) b l a) {n : Nat} (given : n < b.scheduler.next) (past : b.runs n = false) :
    a.runs n = false := by
  refine (h.invariant (P := fun a ↦ n < a.scheduler.next ∧ a.runs n = false) ⟨given, past⟩
    fun m hv e ↦ ⟨Nat.lt_of_lt_of_le hv.1 (next_le_of_move e), ?_⟩).2
  refine Bool.eq_false_iff.mpr fun running ↦ ?_
  rcases runs_of_move e running with before | new
  · rw [hv.2] at before
    cases before
  · omega

/-- and so is a call whose cycle is not under way. -/
theorem not_awaits_of_trail {b : Agent} {l : List (Passage Agent Move)} (h : Trail (move s) b l a)
    {n : Nat} (given : n < b.scheduler.next) (past : b.awaits n = false) : a.awaits n = false := by
  refine (h.invariant (P := fun a ↦ n < a.scheduler.next ∧ a.awaits n = false) ⟨given, past⟩
    fun m hv e ↦ ⟨Nat.lt_of_lt_of_le hv.1 (next_le_of_move e), ?_⟩).2
  refine Bool.eq_false_iff.mpr fun running ↦ ?_
  rcases awaits_of_move e running with before | new
  · rw [hv.2] at before
    cases before
  · omega

end Turns

end Agent

end MetricsAgent
