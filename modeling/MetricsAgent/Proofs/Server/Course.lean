import MetricsAgent.Proofs.Agent.Collect
import MetricsAgent.Server.Basic

/-!
# The course of a scrape server

The moves of a server.  A request for a scrape makes a call to the agent, and any other request is
answered at once and leaves the agent alone (`Server.receive_of_isScrape`,
`Server.receive_of_not_isScrape`).  The moves of a server make its agent move, so along a run of the
server there is a run of the agent (`Server.trail_agency`), and what is known of all runs of agents
holds of it.

Nothing but the scrapes makes calls.  So the scrapes under way and the calls of the agent belong
together, and there are no cycles besides theirs (`Server.Paired`).  From this follows

* what a move does: it is one of the constructors of `Server.MoveEffect`
  (`Server.Paired.effect_of_move`),
* that no scrape is stuck once its cycle has ended (`Server.Paired.goes_on`).

Both are about what the model leaves open: that a scrape finds its call, that this call does not
hand its batch to exporters, and that no cycle is there without a scrape to wait for it.
-/

set_option autoImplicit false

namespace MetricsAgent

namespace Server

/-! ## Requests

A request is a scrape by its method and its path.  The answer to a request that does not ask for a
body is trimmed, which changes nothing else. -/

/-- Whether a request asks for a scrape. -/
def Request.isScrape (q : Request) : Bool := q.route = .endpoint .metrics

/-- To leave out the body changes nothing else. -/
theorem Request.status_trim (q : Request) (r : Response) : (q.trim r).status = r.status := by
  rw [trim]
  split <;> rfl

/-- The body is left out only where none was asked for. -/
theorem Request.trim_of_get {q : Request} (get : q.method = "GET") (r : Response) :
    q.trim r = r := by
  rw [trim, get]
  rfl

/-- Take a scrape in: it makes a call to the agent. -/
def takeIn (w : Server) (q : Request) : Server :=
  { w with
    agent := w.agent.call w.root false
    scrapes := w.scrapes ++ [(w.agent.scheduler.next, q)] }

/-- Answer the scrape with a number, whose call is over. -/
def reply (w : Server) (n : Nat) (q : Request) (r : Response) : Server :=
  { w with
    agent := w.agent.drop n
    scrapes := w.scrapes.filter (·.1 ≠ n)
    answered := w.answered ++ [(q, r)] }

section Receive

variable {s : AgentSetup} {w : Server} {q : Request}

theorem receive_of_isScrape (scrape : q.isScrape = true) : w.receive s q = w.takeIn q := by
  rw [receive, of_decide_eq_true scrape]
  rfl

/-- **Any other request is answered at once**, and leaves the agent alone. -/
theorem receive_of_not_isScrape (other : q.isScrape = false) :
    ∃ r, w.receive s q = w.answer q r := by
  rw [receive]
  cases route : q.route with
  | options known => exact ⟨_, rfl⟩
  | unknownPath => exact ⟨_, rfl⟩
  | wrongMethod => exact ⟨_, rfl⟩
  | endpoint e =>
    cases e with
    | metrics => exact absurd route (of_decide_eq_false other)
    | _ => exact ⟨_, rfl⟩

end Receive

/-! ## Moves

As for pipelines and schedulers, the moves are data. -/

/-- What can happen next to a server. -/
inductive Move where
  | receive (q : Request)
  | shutDown
  | elapse (ms : Nat)
  /-- A task has its turn. -/
  | turn (t : TaskId)
  deriving DecidableEq

/-- Make a move, if it is possible. -/
def move (s : AgentSetup) (m : Move) (w : Server) : Option Server :=
  match m with
  | .receive q => some (w.receive s q)
  | .shutDown => some w.shutDown
  | .elapse ms => some { w with agent := w.agent.elapse ms }
  | .turn t => w.step s t

/-- The reachable states are those at the end of a trail. -/
theorem reachable_iff_exists_trail {s : AgentSetup} {metrics : SelfMetrics}
    {root : Nat} {w : Server} :
    Reachable s metrics root w ↔ ∃ l, Trail (move s) (start s metrics root) l w := by
  constructor
  · intro h
    induction h with
    | start => exact ⟨[], .start⟩
    | receive _ q ih => obtain ⟨l, h⟩ := ih; exact ⟨_, h.move (.receive q) rfl⟩
    | shutDown _ ih => obtain ⟨l, h⟩ := ih; exact ⟨_, h.move .shutDown rfl⟩
    | elapse _ ms ih => obtain ⟨l, h⟩ := ih; exact ⟨_, h.move (.elapse ms) rfl⟩
    | step _ t e ih => obtain ⟨l, h⟩ := ih; exact ⟨_, h.move (.turn t) e⟩
  · rintro ⟨l, h⟩
    refine h.invariant .start fun {v v'} m hv e ↦ ?_
    cases m with
    | receive q => cases e; exact .receive hv q
    | shutDown => cases e; exact .shutDown hv
    | elapse ms => cases e; exact .elapse hv ms
    | turn t => exact .step hv t e

section Turns

variable {s : AgentSetup} {w w' : Server} {m : Move}

theorem step_agent {t : Agent.TaskId} (e : w.step s (.agent t) = some w') :
    ∃ a, w.agent.step s t = some a ∧ w' = { w with agent := a } := by
  obtain ⟨a, turn, rfl⟩ := Option.map_eq_some_iff.mp e
  exact ⟨a, turn, rfl⟩

/-- A scrape is answered with what its call has collected. -/
theorem step_scrape {n : Nat} (e : w.step s (.scrape n) = some w') :
    ∃ q c r, (n, q) ∈ w.scrapes ∧ w.agent.call? n = some c ∧ c.phase = .collected r ∧
      w' = w.reply n q (q.trim (.ofCollection r)) := by
  obtain ⟨⟨n', q⟩, found, turn⟩ := Option.bind_eq_some_iff.mp e
  obtain rfl : n' = n := @Keyed.key_of_find? _ Prod.fst _ _ _ found
  rw [finishScrape] at turn
  split at turn
  · rename_i there
    cases turn
    exact ⟨q, _, _, List.mem_of_find?_eq_some found, there, rfl, rfl⟩
  · cases turn

/-! ## The run of the agent

To shut the server down fires its token, which is a move of the agent too. -/

/-- The move that the agent makes in a move of the server. -/
def agency (w : Server) : Move → Option Agent.Move
  | .receive q => if q.isScrape then some (.call w.root false) else none
  | .shutDown => some (.cancel w.root)
  | .elapse ms => some (.elapse ms)
  | .turn (.agent t) => some (.turn t)
  | .turn (.scrape n) => some (.drop n)

/-- What a move of the server does to the agent. -/
theorem agent_of_move (e : move s m w = some w') :
    w.agency m = none ∧ w'.agent = w.agent ∨
      ∃ k, w.agency m = some k ∧ Agent.move s k w.agent = some w'.agent := by
  cases m with
  | receive q =>
    cases e
    cases scrape : q.isScrape with
    | true =>
      rw [receive_of_isScrape scrape]
      exact .inr ⟨.call w.root false, if_pos scrape, rfl⟩
    | false =>
      obtain ⟨r, same⟩ := receive_of_not_isScrape (s := s) (w := w) scrape
      rw [same]
      exact .inl ⟨if_neg (Bool.eq_false_iff.mp scrape), rfl⟩
  | shutDown => cases e; exact .inr ⟨_, rfl, rfl⟩
  | elapse ms => cases e; exact .inr ⟨_, rfl, rfl⟩
  | turn t =>
    cases t with
    | agent t =>
      obtain ⟨a, turn, rfl⟩ := step_agent e
      exact .inr ⟨_, rfl, turn⟩
    | scrape n =>
      obtain ⟨q, c, r, -, -, -, rfl⟩ := step_scrape (s := s) e
      exact .inr ⟨_, rfl, rfl⟩

/-- Numbers that were given out stay so. -/
theorem next_le_of_move (e : move s m w = some w') :
    w.agent.scheduler.next ≤ w'.agent.scheduler.next := by
  rcases agent_of_move e with ⟨-, same⟩ | ⟨k, -, moves⟩
  · exact Nat.le_of_eq (congrArg (·.scheduler.next) same).symm
  · exact Agent.next_le_of_move moves

/-- What a run of the server is to its agent. -/
def agencies (l : List (Passage Server Move)) : List (Passage Agent Agent.Move) :=
  l.filterMap fun t ↦ (t.before.agency t.move).map fun k ↦ ⟨t.before.agent, k, t.after.agent⟩

/-- **In a run of a server its agent makes a run.** -/
theorem trail_agency {b : Server} {l : List (Passage Server Move)} (h : Trail (move s) b l w) :
    Trail (Agent.move s) b.agent (agencies l) w.agent :=
  h.project agent agency fun _ e ↦ agent_of_move e

/-- The calls of a server are numbered. -/
theorem numbered_of_trail {metrics : SelfMetrics} {root : Nat} {l : List (Passage Server Move)}
    (run : Trail (move s) (start s metrics root) l w) : Agent.Numbered w.agent :=
  Agent.numbered_of_trail (Agent.numbered_start s metrics) (trail_agency run)

/-- The invariant of schedulers holds of that of a server. -/
theorem invariant_of_trail {metrics : SelfMetrics} {root : Nat} {l : List (Passage Server Move)}
    (run : Trail (move s) (start s metrics root) l w) :
    Scheduler.Invariant s.scheduler w.agent.scheduler :=
  Scheduler.invariant_of_trail (Agent.trail_scheduling (trail_agency run))

end Turns

/-! ## Scrapes and calls

The numbers of the scrapes under way are those of the calls, in the same order. -/

/-- The scrapes under way and the calls of the agent belong together, and so do the calls and the
cycles. -/
structure Paired (w : Server) : Prop where
  loops : w.agent.loops = []
  numbers : w.agent.calls.map (·.cycle) = w.scrapes.map (·.1)
  distinct : (w.scrapes.map (·.1)).Nodup
  asked : ∀ e ∈ w.scrapes, e.2.isScrape = true
  /-- No batch goes to the exporters. -/
  collects : ∀ c ∈ w.agent.calls, c.Collects
  cycles : ∀ n, (w.agent.scheduler.cycle? n).isSome = w.agent.runs n

section Pairs

variable {s : AgentSetup} {w w' : Server} {m : Move}

theorem paired_start (s : AgentSetup) (metrics : SelfMetrics) (root : Nat) :
    Paired (start s metrics root) :=
  ⟨rfl, rfl, .nil, fun _ h ↦ (nomatch h), fun _ h ↦ (nomatch h), fun _ ↦ rfl⟩

/-- The numbers of the scrapes under way were given out. -/
theorem Paired.given (h : Paired w) (numbered : Agent.Numbered w.agent) :
    ∀ n ∈ w.scrapes.map (·.1), n < w.agent.scheduler.next := by
  rw [← h.numbers, List.forall_mem_map]
  exact numbered.calls

theorem Paired.takeIn (h : Paired w) (numbered : Agent.Numbered w.agent)
    (inner : Scheduler.Numbered w.agent.scheduler) {q : Request} (scrape : q.isScrape = true) :
    Paired (w.takeIn q) where
  loops := h.loops
  numbers := by
    rw [Server.takeIn, Agent.call, List.map_append, h.numbers, List.map_append]
    rfl
  distinct := by
    rw [Server.takeIn, List.map_append]
    refine h.distinct.append (List.nodup_singleton _) fun n old new ↦ ?_
    rw [List.map_singleton, List.mem_singleton] at new
    exact Nat.ne_of_lt (h.given numbered n old) new
  asked e he := by
    rcases List.mem_append.mp he with old | new
    · exact h.asked e old
    · rw [List.mem_singleton.mp new]
      exact scrape
  collects c hc := by
    rcases List.mem_append.mp hc with old | new
    · exact h.collects c old
    · rw [List.mem_singleton.mp new]
      exact ⟨rfl, .inl rfl⟩
  cycles n := by
    rw [Server.takeIn, Agent.runs, numbered.call?_call]
    show ((w.agent.scheduler.call w.root).cycle? n).isSome = _
    rw [inner.cycle?_call]
    split
    · rfl
    · exact h.cycles n

theorem Paired.scheduled (h : Paired w) {t : Scheduler.TaskId} {v : Scheduler}
    (e : w.agent.scheduler.step s.scheduler t = some v) :
    Paired { w with agent := { w.agent with scheduler := v } } where
  loops := h.loops
  numbers := h.numbers
  distinct := h.distinct
  asked := h.asked
  collects := h.collects
  cycles n := (Scheduler.isSome_cycle?_of_step e n).trans (h.cycles n)

theorem Paired.call?_collects (h : Paired w) {n : Nat} {c : Agent.Call}
    (there : w.agent.call? n = some c) : c.Collects :=
  h.collects c (List.mem_of_find?_eq_some there)

/-- A call settles. -/
theorem Paired.settle (h : Paired w) {c : Agent.Call} (there : w.agent.call? c.cycle = some c)
    (running : c.phase = .running) (r : Except CycleError CycleReport) :
    Paired { w with agent := w.agent.finishCall s c r } where
  loops := (Agent.finishCall_moves s w.agent running r).loops.trans h.loops
  numbers := by
    rw [← h.numbers, Agent.calls_finishCall (h.call?_collects there).exports, List.map_map]
    refine List.map_congr_left fun d _ ↦ ?_
    rw [Function.comp_apply]
    split
    · exact Eq.symm ‹_›
    · rfl
  distinct := h.distinct
  asked := h.asked
  collects c' hc' := by
    rw [Agent.calls_finishCall (h.call?_collects there).exports] at hc'
    obtain ⟨d, hd, rfl⟩ := List.mem_map.mp hc'
    split
    · exact ⟨(h.call?_collects there).exports, .inr ⟨_, rfl⟩⟩
    · exact h.collects d hd
  cycles n := by
    rw [Agent.scheduler_finishCall s w.agent running, (Scheduler.drop_drops _ _).cycle?]
    by_cases own : n = c.cycle
    · subst own
      rw [if_pos rfl, Agent.runs_finishCall there (h.call?_collects there).exports]
      rfl
    · rw [if_neg own, Agent.runs,
        (Agent.finishCall_moves s w.agent running r).call?_of_ne (Ne.symm own)]
      exact h.cycles n

/-- A scrape is answered. -/
theorem Paired.reply (h : Paired w) (n : Nat) (q : Request) (r : Response) :
    Paired (w.reply n q r) where
  loops := h.loops
  numbers := by
    have both : ∀ {β : Type} (key : β → Nat) (l : List β),
        (l.filter fun b ↦ key b ≠ n).map key = (l.map key).filter (· ≠ n) := fun key l ↦ by
      rw [List.filter_map]
      rfl
    rw [Server.reply, Agent.drop, both Agent.Call.cycle, both Prod.fst, h.numbers]
  distinct := h.distinct.sublist (List.filter_sublist.map _)
  asked e he := h.asked e (List.mem_filter.mp he).1
  collects c hc := h.collects c (List.mem_filter.mp hc).1
  cycles k := by
    have kept : (w.agent.drop n).call? k = if k = n then none else w.agent.call? k :=
      Keyed.find?_filter_ne w.agent.calls k n
    have left :
        ((w.agent.drop n).scheduler.cycle? k) =
          if k = n then none else w.agent.scheduler.cycle? k :=
      (Scheduler.drop_drops w.agent.scheduler n).cycle? k
    rw [Server.reply, Agent.runs, kept, left]
    split
    · rfl
    · exact h.cycles k

/-- What a move does to a server whose scrapes and calls are paired. -/
inductive MoveEffect (s : AgentSetup) (w : Server) : Move → Server → Prop where
  | asks (q : Request) (scrape : q.isScrape = true) :
    MoveEffect s w (.receive q) (w.takeIn q)
  /-- A request that is not for a scrape is answered. -/
  | tells (q : Request) (other : q.isScrape = false) (r : Response) :
    MoveEffect s w (.receive q) (w.answer q r)
  | shutsDown : MoveEffect s w .shutDown w.shutDown
  | elapses (ms : Nat) : MoveEffect s w (.elapse ms) { w with agent := w.agent.elapse ms }
  | schedules (t : Scheduler.TaskId) (v : Scheduler)
    (turn : w.agent.scheduler.step s.scheduler t = some v) :
    MoveEffect s w (.turn (.agent (.scheduler t)))
      { w with agent := { w.agent with scheduler := v } }
  /-- A call collects the result of its cycle. -/
  | settles (c : Agent.Call) (r : Except CycleError CycleReport)
    (there : w.agent.call? c.cycle = some c) (running : c.phase = .running)
    (collects : c.exports = false) (returned : w.agent.scheduler.result? c.cycle = some r) :
    MoveEffect s w (.turn (.agent (.call c.cycle))) { w with agent := w.agent.finishCall s c r }
  /-- A scrape is answered with what its call has collected. -/
  | replies (n : Nat) (q : Request) (c : Agent.Call) (r : Except CycleError CycleReport)
    (asked : (n, q) ∈ w.scrapes) (there : w.agent.call? n = some c)
    (collected : c.phase = .collected r) :
    MoveEffect s w (.turn (.scrape n)) (w.reply n q (q.trim (.ofCollection r)))

/-- **There are no other moves.** -/
theorem Paired.effect_of_move (h : Paired w) (e : move s m w = some w') : MoveEffect s w m w' := by
  cases m with
  | receive q =>
    cases e
    cases scrape : q.isScrape with
    | true =>
      rw [receive_of_isScrape scrape]
      exact .asks q scrape
    | false =>
      obtain ⟨r, same⟩ := receive_of_not_isScrape (s := s) (w := w) scrape
      rw [same]
      exact .tells q scrape r
  | shutDown => cases e; exact .shutsDown
  | elapse ms => cases e; exact .elapses ms
  | turn t =>
    cases t with
    | agent t =>
      obtain ⟨a, turn, rfl⟩ := step_agent e
      cases t with
      | scheduler t =>
        obtain ⟨v, moves, rfl⟩ := Option.map_eq_some_iff.mp turn
        exact .schedules t v moves
      | call n =>
        obtain ⟨c, there, rfl, called⟩ := Agent.step_call turn
        have collects := h.call?_collects there
        have running := collects.running_of_isUnderWay called.isUnderWay
        cases called with
        | returns r _ returned => exact .settles c r there running collects.exports returned
        | passes _ _ _ _ exporting =>
          -- A scrape's call only collects, so what it brings is never passed on to exporters.
          rw [exporting] at running
          cases running
      | loop id =>
        obtain ⟨k, -, there, -, -⟩ := Agent.step_loop (s := s) turn
        rw [Agent.loop?, h.loops] at there
        cases there
    | scrape n =>
      obtain ⟨q, c, r, asked, there, collected, rfl⟩ := step_scrape (s := s) e
      exact .replies n q c r asked there collected

/-- **Every move leaves scrapes and calls paired.** -/
theorem Paired.move (h : Paired w) (numbered : Agent.Numbered w.agent)
    (inner : Scheduler.Numbered w.agent.scheduler) (e : move s m w = some w') : Paired w' := by
  cases h.effect_of_move e with
  | asks q scrape => exact h.takeIn numbered inner scrape
  | tells => exact ⟨h.loops, h.numbers, h.distinct, h.asked, h.collects, h.cycles⟩
  | shutsDown => exact ⟨h.loops, h.numbers, h.distinct, h.asked, h.collects, h.cycles⟩
  | elapses => exact ⟨h.loops, h.numbers, h.distinct, h.asked, h.collects, h.cycles⟩
  | schedules t v turn => exact h.scheduled turn
  | settles c r there running => exact h.settle there running r
  | replies n q c r => exact h.reply n q _

theorem paired_of_trail {metrics : SelfMetrics} {root : Nat} {l : List (Passage Server Move)}
    (run : Trail (Server.move s) (start s metrics root) l w) : Paired w := by
  induction run with
  | start => exact paired_start s metrics root
  | move run m e ih => exact ih.move (numbered_of_trail run) (invariant_of_trail run).numbered e

/-- **No scrape is stuck**: it waits for a cycle that goes on, or its call or the scrape itself has
a turn. -/
theorem Paired.goes_on (h : Paired w) {n : Nat} {q : Request} (asked : (n, q) ∈ w.scrapes) :
    (∃ c, w.agent.scheduler.cycle? n = some c ∧ c.phase.isOver = false) ∨
      (∃ w', w.step s (.agent (.call n)) = some w') ∨ ∃ w', w.step s (.scrape n) = some w' := by
  have number : n ∈ w.agent.calls.map (·.cycle) := by
    rw [h.numbers]
    exact List.mem_map_of_mem asked
  obtain ⟨c, hc, rfl⟩ := List.mem_map.mp number
  have distinct : (w.agent.calls.map (·.cycle)).Nodup := h.numbers ▸ h.distinct
  have there : w.agent.call? c.cycle = some c := Keyed.find?_of_mem distinct hc
  rcases (h.collects c hc).phase with running | ⟨r, collected⟩
  · obtain ⟨d, cycle⟩ := Option.isSome_iff_exists.mp
      ((h.cycles c.cycle).trans (Agent.runs_iff.mpr ⟨c, there, by rw [running]; rfl⟩))
    by_cases goes : d.phase.isOver = false
    · exact .inl ⟨d, cycle, goes⟩
    · obtain ⟨r, ended⟩ := Scheduler.CyclePhase.exists_of_isOver (by simpa using goes)
      have returned : w.agent.scheduler.result? c.cycle = some r :=
        Scheduler.result?_of_ended cycle ended
      refine .inr (.inl ⟨{ w with agent := w.agent.finishCall s c r }, ?_⟩)
      rw [step, Agent.step_call_of_running there running, returned]
      rfl
  · refine .inr (.inr ⟨w.reply c.cycle q (q.trim (.ofCollection r)), ?_⟩)
    have found : w.scrapes.find? (·.1 = c.cycle) = some (c.cycle, q) :=
      Keyed.find?_of_mem h.distinct asked
    obtain ⟨cycle, exports, phase⟩ := c
    subst collected
    rw [Agent.call?] at there
    simp only [step, found, Option.bind_some, finishScrape, there]
    rfl

end Pairs

end Server

end MetricsAgent
