import MetricsAgent.Proofs.Json.Codec
import MetricsAgent.Proofs.Server.Tally

/-!
# Scrapes and their cycles

Every scrape has a cycle of its own, whose number it gets when it is received.  It is answered with
what its call has collected, and this depends on the result of the cycle and on the agent at the
turn of the call, when the cycle is counted already (`Server.Settled`, `Server.Answers`).  The
`Server.Ledger` of a run lists the scrapes that were answered with the numbers of their cycles.

With the tally this gives `Server.scrapes_match_cycles`.

* The answers to the scrapes are the counters of cycles, status by status.
* No two scrapes share a cycle, and every scrape that was received is in the ledger or under way.
* Each answer tells of its own cycle: the cause if the cycle has failed, that it was called off, or
  what the policy keeps of its batch with the agent's own metrics.
* Any other request is answered at once, and neither makes a call nor changes one.

The agent's own metrics in an answer are those at the turn of the call.  Other scrapes may have been
counted by then, and this one is counted in any case.
-/

set_option autoImplicit false

namespace MetricsAgent

namespace Server

/-! ## Calls and results

A call settles in one turn, and keeps what it has collected until the scrape takes it. -/

/-- In a run the call `n` has its turn in the state `a` of the agent, when its cycle has returned
`r`. -/
structure Settled (l : List (Passage Server Move)) (n : Nat) (a : Agent)
    (r : Except CycleError CycleReport) : Prop where
  returned : a.scheduler.result? n = some r
  /-- By then the cycle was counted once, by the counter that belongs to its result. -/
  turn : ∃ (before after : List (Passage Server Move)) (v v' : Server),
    l = before ++ ⟨v, .turn (.agent (.call n)), v'⟩ :: after ∧ v.agent = a ∧
      ∀ k : Scheduler.CycleCounter,
        Scheduler.credit n k.read (Agent.schedulings (agencies before)) = if k = .of r then 1 else 0

/-- What a scrape is answered if its cycle has returned `r` and its call has its turn in the state
`a` of the agent. -/
structure Answers (s : AgentSetup) (a : Agent) (q : Request) (r : Except CycleError CycleReport)
    (response : Response) : Prop where
  failed : ∀ e, r = .error e → response = q.trim (.failure 500 e.code e.message)
  /-- The cause can be read from the body. -/
  reason : ∀ e, r = .error e → q.method = "GET" → Json.parse? response.body =
    some (.object [("error", .string e.code), ("message", .string e.message)])
  cancelled : ∀ report, r = .ok report → report.outcome = .cancelled →
    response = q.trim (.failure 503 "shutting_down" "collection cancelled")
  /-- The text is that of what the policy keeps of the batch, and of the agent's own metrics. -/
  completed : ∀ report, r = .ok report → report.outcome = .completed →
    response = q.trim ⟨200, some Exposition.contentType, none,
      Exposition.render
        (s.policy.kept a.drawn report.measurements ++ Agent.ownMetrics s a.scheduler.metrics)⟩

/-- The body of a failure tells its cause. -/
theorem Response.parse?_failure (status : Nat) (cause message : String) :
    Json.parse? (failure status cause message).body =
      some (.object [("error", .string cause), ("message", .string message)]) := by
  refine Json.parse?_render ?_
  simp [Json.IsClean, Json.MembersClean]

theorem answers_gather (s : AgentSetup) (a : Agent) (q : Request)
    (r : Except CycleError CycleReport) :
    Answers s a q r (q.trim (.ofCollection (a.gather s r))) where
  failed e failed := by
    subst failed
    rfl
  reason e failed get := by
    subst failed
    rw [Request.trim_of_get get]
    exact Response.parse?_failure 500 e.code e.message
  cancelled report ended cancelled := by
    subst ended
    simp [Agent.gather, Except.map, Response.ofCollection, CycleReport.isCancelled, cancelled]
  completed report ended completed := by
    subst ended
    simp [Agent.gather, Except.map, Response.ofCollection, CycleReport.isCancelled, completed]

section Moves

variable {s : AgentSetup} {w w' : Server} {m : Move} {l : List (Passage Server Move)}

theorem Settled.later {n : Nat} {a : Agent} {r : Except CycleError CycleReport}
    (h : Settled l n a r) (t : Passage Server Move) : Settled (l ++ [t]) n a r := by
  obtain ⟨before, after, v, v', parts, at_, counted⟩ := h.turn
  refine ⟨h.returned, before, after ++ [t], v, v', ?_, at_, counted⟩
  rw [parts, List.append_assoc, List.cons_append]

/-- What a call has collected, it had collected before, or it does so in the move. -/
theorem collected_of_move (paired : Paired w) (numbered : Agent.Numbered w.agent)
    (e : move s m w = some w') {n : Nat} {c : Agent.Call} {r : Except CycleError CycleReport}
    (there : w'.agent.call? n = some c) (collected : c.phase = .collected r) :
    w.agent.call? n = some c ∨ m = .turn (.agent (.call n)) ∧
      ∃ result, w.agent.scheduler.result? n = some result ∧ r = w.agent.gather s result := by
  cases paired.effect_of_move e with
  | asks q scrape =>
    rw [takeIn, numbered.call?_call] at there
    split at there
    · cases there
      cases collected
    · exact .inl there
  | settles d result called running collects returned =>
    by_cases own : d.cycle = n
    · subst own
      rw [Agent.call?_finishCall called collects] at there
      cases there
      cases collected
      exact .inr ⟨rfl, result, returned, rfl⟩
    · rw [(Agent.finishCall_moves s w.agent running result).call?_of_ne own] at there
      exact .inl there
  | replies k =>
    have kept : (w.agent.drop k).call? n = if n = k then none else w.agent.call? n :=
      Keyed.find?_filter_ne w.agent.calls n k
    rw [reply, kept] at there
    split at there
    · cases there
    · exact .inl there
  | _ => exact .inl there

end Moves

section Runs

variable {s : AgentSetup} {metrics : SelfMetrics} {root : Nat} {w : Server}
  {l : List (Passage Server Move)}

/-- **What a call has collected** is due to the result of its cycle. -/
theorem settled_of_collected (run : Trail (move s) (start s metrics root) l w) {n : Nat}
    {c : Agent.Call} {r : Except CycleError CycleReport} (there : w.agent.call? n = some c)
    (collected : c.phase = .collected r) :
    ∃ a result, Settled l n a result ∧ r = a.gather s result := by
  induction run generalizing n c r with
  | start => cases there
  | @move l v w run m e ih =>
    rcases collected_of_move (paired_of_trail run) (numbered_of_trail run) e there collected with
      before | ⟨rfl, result, returned, same⟩
    · obtain ⟨a, result, settled, same⟩ := ih before collected
      exact ⟨a, result, settled.later _, same⟩
    · refine ⟨v.agent, result, ⟨returned, l, [], v, w, rfl, rfl, ?_⟩, same⟩
      have scheduled := Agent.trail_scheduling (trail_agency run)
      exact (Scheduler.credited_of_trail scheduled).of_result returned

end Runs

/-! ## The ledger

The ledger grows with the answers.  That an entry stays true is due to the part of the run at which
its call settled, which later moves do not change. -/

/-- The scrape that is received in a move, with the number of its cycle. -/
def scrape? (t : Passage Server Move) : Option (Nat × Request) :=
  match t.move with
  | .receive q => if q.isScrape then some (t.before.agent.scheduler.next, q) else none
  | _ => none

/-- The scrapes that were received in a run, with the numbers of their cycles. -/
def received (l : List (Passage Server Move)) : List (Nat × Request) := l.filterMap scrape?

/-- The scrapes of a run that were answered, with the numbers of their cycles. -/
structure Ledger (s : AgentSetup) (l : List (Passage Server Move)) (w : Server)
    (entries : List (Nat × Request × Response)) : Prop where
  /-- It has the answers in their order. -/
  replies : entries.map (·.2) = w.replies
  /-- All other scrapes that were received are under way. -/
  received : (received l).Perm (entries.map (fun e ↦ (e.1, e.2.1)) ++ w.scrapes)
  /-- Each scrape was answered from its own cycle. -/
  own : ∀ e ∈ entries, ∃ a r, Settled l e.1 a r ∧ Answers s a e.2.1 r e.2.2

section Received

variable {s : AgentSetup} {w w' : Server} {l : List (Passage Server Move)} {m : Move} {q : Request}

theorem received_of_isScrape (scrape : q.isScrape = true) :
    received (l ++ [⟨w, .receive q, w'⟩]) = received l ++ [(w.agent.scheduler.next, q)] := by
  have asked : scrape? ⟨w, .receive q, w'⟩ = some (w.agent.scheduler.next, q) := if_pos scrape
  rw [received, List.filterMap_append, received, List.filterMap_cons_some asked, List.filterMap_nil]

theorem received_of_none (none : scrape? ⟨w, m, w'⟩ = none) :
    received (l ++ [⟨w, m, w'⟩]) = received l := by
  rw [received, List.filterMap_append, received, List.filterMap_cons_none none, List.filterMap_nil,
    List.append_nil]

/-- The cycles of scrapes that were answered do not change any more. -/
theorem Ledger.own_later {entries : List (Nat × Request × Response)} (h : Ledger s l w entries)
    (t : Passage Server Move) :
    ∀ e ∈ entries, ∃ a r, Settled (l ++ [t]) e.1 a r ∧ Answers s a e.2.1 r e.2.2 := by
  intro e he
  obtain ⟨a, r, settled, answers⟩ := h.own e he
  exact ⟨a, r, settled.later t, answers⟩

/-- A move in which no scrape is received or answered. -/
theorem Ledger.of_same {entries : List (Nat × Request × Response)} (h : Ledger s l w entries)
    (none : scrape? ⟨w, m, w'⟩ = none) (replies : w'.replies = w.replies)
    (scrapes : w'.scrapes = w.scrapes) : Ledger s (l ++ [⟨w, m, w'⟩]) w' entries where
  replies := h.replies.trans replies.symm
  received := by
    rw [received_of_none none, scrapes]
    exact h.received
  own := h.own_later _

/-- A scrape is received. -/
theorem Ledger.takeIn {entries : List (Nat × Request × Response)} (h : Ledger s l w entries)
    (scrape : q.isScrape = true) :
    Ledger s (l ++ [⟨w, .receive q, w.takeIn q⟩]) (w.takeIn q) entries where
  replies := h.replies
  received := by
    rw [received_of_isScrape scrape, Server.takeIn, ← List.append_assoc]
    exact h.received.append_right _
  own := h.own_later _

/-- A scrape is answered. -/
theorem Ledger.reply {entries : List (Nat × Request × Response)} (h : Ledger s l w entries)
    (paired : Paired w) {n : Nat} (asked : (n, q) ∈ w.scrapes) {a : Agent}
    {r : Except CycleError CycleReport} (settled : Settled l n a r)
    (made : w' = w.reply n q (q.trim (.ofCollection (a.gather s r)))) :
    Ledger s (l ++ [⟨w, .turn (.scrape n), w'⟩]) w'
      (entries ++ [(n, q, q.trim (.ofCollection (a.gather s r)))]) where
  replies := by
    rw [List.map_append, h.replies, made, replies_reply (paired.asked (n, q) asked)]
    rfl
  received := by
    have others : w.scrapes.Perm ((n, q) :: w'.scrapes) := by
      rw [made]
      exact Keyed.perm_cons_filter paired.distinct asked
    rw [received_of_none rfl, List.map_append, List.append_assoc]
    exact h.received.trans (others.append_left _)
  own e he := by
    rcases List.mem_append.mp he with old | new
    · exact h.own_later _ e old
    · rw [List.mem_singleton.mp new]
      exact ⟨a, r, settled.later _, answers_gather s a q r⟩

end Received

section Runs

variable {s : AgentSetup} {metrics : SelfMetrics} {root : Nat} {w w' : Server}
  {l : List (Passage Server Move)} {m : Move}

/-- **Every move keeps the books.** -/
theorem Ledger.move {entries : List (Nat × Request × Response)} (h : Ledger s l w entries)
    (run : Trail (Server.move s) (start s metrics root) l w) (e : Server.move s m w = some w') :
    ∃ entries', Ledger s (l ++ [⟨w, m, w'⟩]) w' entries' := by
  have paired := paired_of_trail run
  cases paired.effect_of_move e with
  | asks q scrape => exact ⟨entries, h.takeIn scrape⟩
  | tells q other r =>
    have none : scrape? ⟨w, .receive q, w.answer q r⟩ = none := if_neg (Bool.eq_false_iff.mp other)
    exact ⟨entries, h.of_same none (replies_answer other r) rfl⟩
  | shutsDown => exact ⟨entries, h.of_same rfl rfl rfl⟩
  | elapses => exact ⟨entries, h.of_same rfl rfl rfl⟩
  | schedules => exact ⟨entries, h.of_same rfl rfl rfl⟩
  | settles => exact ⟨entries, h.of_same rfl rfl rfl⟩
  | replies n q c r asked there collected =>
    obtain ⟨a, result, settled, rfl⟩ := settled_of_collected run there collected
    exact ⟨_, h.reply paired asked settled rfl⟩

end Runs

end Server

end MetricsAgent
