import MetricsAgent.Proofs.Server.Course

/-!
# Scrapes and the counters of cycles

Each counter of cycles belongs to a status (`Scheduler.CycleCounter.status`).  A cycle is counted
when it ends, and the scrape that waits for it is answered later.  So what a counter has grown by is
the number of scrapes that were answered with its status, and of the scrapes under way whose cycles
it has counted (`Server.Tallied`).

The invariant has two moves to look at.

* In a turn of the scheduler a cycle may end.  It is counted, and from then on its scrape is owed an
  answer (`Server.Tallied.scheduled`).
* When a scrape is answered, it is not owed an answer any more, and its status is that of the
  counter that has counted its cycle (`Server.Tallied.reply`).

For the second one the agent has to remember, until the scrape takes it, by which counter the cycle
was counted, which is `Agent.counted?`.  That at most one cycle is counted in a turn is the subject
of `Proofs.Scheduler.Counting`.

The counters are machine words, so the equations hold modulo the size of a word.
-/

set_option autoImplicit false

namespace MetricsAgent

/-- The status of the answer to a scrape whose cycle is counted by a counter. -/
def Scheduler.CycleCounter.status : CycleCounter → Nat
  | ok => 200
  | failed => 500
  | cancelled => 503

theorem Scheduler.CycleCounter.status_inj {j k : CycleCounter} : j.status = k.status ↔ j = k := by
  cases j <;> cases k <;> decide

namespace Server

/-- The status tells how the cycle was counted. -/
theorem Response.status_ofCollection (r : Except CycleError CycleReport) :
    (Response.ofCollection r).status = (Scheduler.CycleCounter.of r).status := by
  cases r with
  | error e => rfl
  | ok report =>
    rw [ofCollection, Scheduler.CycleCounter.of]
    split <;> rfl

/-! ## The tally

The replies are the answers to scrapes only, since other requests may be answered with the same
statuses. -/

/-- The scrapes that were answered, with their answers. -/
def replies (w : Server) : List (Request × Response) := w.answered.filter (·.1.isScrape)

/-- The number of scrapes that were answered with a status. -/
def repliesWith (w : Server) (status : Nat) : Nat := w.replies.countP (·.2.status = status)

/-- The number of scrapes under way whose cycles were counted by a counter. -/
def owed (w : Server) (k : Scheduler.CycleCounter) : Nat :=
  w.scrapes.countP fun e ↦ w.agent.counted? e.1 = some k

/-- The counters of cycles have grown by the scrapes that were answered, and by those that are owed
an answer. -/
def Tallied (metrics : SelfMetrics) (w : Server) : Prop :=
  ∀ k : Scheduler.CycleCounter, k.read w.agent.scheduler.metrics =
    k.read metrics + (w.repliesWith k.status + w.owed k).toUInt64

section Replies

variable {w : Server} {q : Request}

theorem replies_reply (scrape : q.isScrape = true) (n : Nat) (r : Response) :
    (w.reply n q r).replies = w.replies ++ [(q, r)] := by
  rw [replies, reply, List.filter_append, replies]
  simp [scrape]

theorem replies_answer (other : q.isScrape = false) (r : Response) :
    (w.answer q r).replies = w.replies := by
  rw [replies, answer, List.filter_append, replies]
  simp [other]

end Replies

section Moves

variable {s : AgentSetup} {metrics : SelfMetrics} {w w' : Server} {m : Move}

/-- The tally stays if no scrape is answered and no cycle is counted. -/
theorem Tallied.of_same (h : Tallied metrics w)
    (read : ∀ k : Scheduler.CycleCounter,
      k.read w'.agent.scheduler.metrics = k.read w.agent.scheduler.metrics)
    (replies : w'.replies = w.replies) (scrapes : w'.scrapes = w.scrapes)
    (counted : ∀ n, w'.agent.counted? n = w.agent.counted? n) : Tallied metrics w' := by
  intro k
  simp only [read, h k, repliesWith, replies, owed, scrapes, counted]

theorem Tallied.takeIn (h : Tallied metrics w) (numbered : Agent.Numbered w.agent)
    (inner : Scheduler.Numbered w.agent.scheduler) (q : Request) :
    Tallied metrics (w.takeIn q) := by
  intro k
  have uncounted : w.agent.counted? w.agent.scheduler.next = none := by
    rw [Agent.counted?, numbered.call?_fresh (Nat.le_refl _)]
    rfl
  have same : (w.takeIn q).owed k = w.owed k := by
    simp [owed, Server.takeIn, Agent.counted?_call numbered inner, uncounted]
  rw [same]
  exact h k

/-- A turn of the scheduler: the scrape of the cycle that ends is owed an answer. -/
theorem Tallied.scheduled (h : Tallied metrics w) (paired : Paired w) {v : Scheduler}
    (turn : Scheduler.CountTurn w.agent.scheduler v) :
    Tallied metrics { w with agent := { w.agent with scheduler := v } } := by
  cases turn with
  | none same read =>
    exact h.of_same read rfl rfl fun n ↦ Agent.counted?_congr rfl (same n)
  | one n k there before after others read =>
    intro j
    obtain ⟨c, called, underWay⟩ := Agent.runs_iff.mp ((paired.cycles n).symm.trans there)
    have running := (paired.call?_collects called).running_of_isUnderWay underWay
    -- The scrape that waits for the cycle, and no other one, is counted now.
    have waits : n ∈ w.scrapes.map (·.1) := by
      rw [← paired.numbers]
      refine List.mem_map.mpr ⟨c, List.mem_of_find?_eq_some called, ?_⟩
      exact Keyed.key_of_find? called
    obtain ⟨e, he, rfl⟩ := List.mem_map.mp waits
    have now : Agent.counted? { w.agent with scheduler := v } e.1 = some k :=
      (Agent.counted?_of_running (a := { w.agent with scheduler := v }) called running).trans after
    have rest : ∀ e' ∈ w.scrapes.filter (·.1 ≠ e.1),
        Agent.counted? { w.agent with scheduler := v } e'.1 = w.agent.counted? e'.1 := by
      intro e' he'
      exact Agent.counted?_congr rfl (others _ (of_decide_eq_true (List.mem_filter.mp he').2))
    have owed : owed { w with agent := { w.agent with scheduler := v } } j =
        w.owed j + if j = k then 1 else 0 := by
      rw [Server.owed, Server.owed, Keyed.countP_eq_add paired.distinct he,
        Keyed.countP_eq_add paired.distinct he, now,
        Agent.counted?_of_running called running, before,
        List.countP_congr fun e' he' ↦ by rw [rest e' he']]
      simp [eq_comm]
    have one : (if j = k then 1 else 0 : UInt64) = (if j = k then 1 else 0 : Nat).toUInt64 := by
      split <;> rfl
    rw [read, owed, ← Nat.add_assoc, Counter.toUInt64_add, ← UInt64.add_assoc, ← one]
    exact congrArg (· + _) (h j)

/-- A scrape is answered: it is not owed an answer any more. -/
theorem Tallied.reply (h : Tallied metrics w) (paired : Paired w) {n : Nat} {q : Request}
    {c : Agent.Call} {r : Except CycleError CycleReport} (asked : (n, q) ∈ w.scrapes)
    (there : w.agent.call? n = some c) (collected : c.phase = .collected r) :
    Tallied metrics (w.reply n q (q.trim (.ofCollection r))) := by
  intro k
  generalize made : w.reply n q (q.trim (.ofCollection r)) = w'
  have read : w'.agent.scheduler.metrics = w.agent.scheduler.metrics := by
    rw [← made]
    exact (Scheduler.drop_drops w.agent.scheduler n).metrics
  have status : (q.trim (.ofCollection r)).status = k.status ↔ k = .of r := by
    rw [Request.status_trim, Response.status_ofCollection,
      Scheduler.CycleCounter.status_inj, eq_comm]
  have replied : w'.repliesWith k.status = w.repliesWith k.status + if k = .of r then 1 else 0 := by
    rw [repliesWith, ← made, replies_reply (paired.asked (n, q) asked), List.countP_append,
      List.countP_singleton, repliesWith]
    simp only [decide_eq_true_eq, status]
  have left :
      w'.owed k = (w.scrapes.filter (·.1 ≠ n)).countP fun e ↦ w.agent.counted? e.1 = some k := by
    rw [owed, ← made]
    refine List.countP_congr fun e he ↦ ?_
    have other : e.1 ≠ n := of_decide_eq_true (List.mem_filter.mp he).2
    rw [Server.reply, Agent.counted?_drop other]
  have before : w.owed k = w'.owed k + if k = .of r then 1 else 0 := by
    rw [left, owed, Keyed.countP_eq_add paired.distinct asked,
      Agent.counted?_of_collected there collected]
    simp [eq_comm]
  rw [read, h k, replied, before]
  congr 2
  omega

/-- **Every move keeps the tally.** -/
theorem Tallied.move (h : Tallied metrics w) (paired : Paired w) (numbered : Agent.Numbered w.agent)
    (inv : Scheduler.Invariant s.scheduler w.agent.scheduler) (e : Server.move s m w = some w') :
    Tallied metrics w' := by
  cases paired.effect_of_move e with
  | asks q => exact h.takeIn numbered inv.numbered q
  | tells q other r => exact h.of_same (fun _ ↦ rfl) (replies_answer other r) rfl fun _ ↦ rfl
  | shutsDown => exact h.of_same (fun _ ↦ rfl) rfl rfl fun _ ↦ rfl
  | elapses => exact h.of_same (fun _ ↦ rfl) rfl rfl fun _ ↦ rfl
  | schedules t v turn => exact h.scheduled paired (Scheduler.countTurn_of_step inv turn)
  | settles c r there running collects returned =>
    refine h.of_same (fun k ↦ ?_) rfl rfl
      (Agent.counted?_finishCall there running collects returned)
    show k.read (w.agent.finishCall s c r).scheduler.metrics = _
    rw [Agent.scheduler_finishCall s w.agent running, (Scheduler.drop_drops _ _).metrics]
  | replies n q c r asked there collected => exact h.reply paired asked there collected

theorem tallied_of_trail {root : Nat} {l : List (Passage Server Move)}
    (run : Trail (Server.move s) (start s metrics root) l w) : Tallied metrics w := by
  induction run with
  | start => exact fun _ ↦ (UInt64.add_zero _).symm
  | move run m e ih =>
    exact ih.move (paired_of_trail run) (numbered_of_trail run) (invariant_of_trail run) e

end Moves

end Server

end MetricsAgent
