import MetricsAgent.Proofs.Push.Effect

/-!
# No envelope and no batch is lost

What the exports put into a pipeline is in the queue, in the batch that is underway, or in a batch
that came to its end; and the metrics agree with how the batches ended.

* `Pipeline.Ledger` says so for a moment at which the sender stands anywhere,
* `Pipeline.Ledger.effect` says that a turn of the sender keeps it,
* `Pipeline.Ledger.beside` says that what happens beside the sender keeps it,
* `Pipeline.pipeline_conserves` is what follows for all runs.

The ledger has the accepted and the evicted envelopes on the one side and the drained batches and
the queue on the other, and relates them by `Fifo.PassThrough`: the order in which envelopes came in
is the order in which they go out.  The batch that is underway is the last of the drained ones, and
every other one has its outcome.  Between two ticks no batch is underway, and then all of them have
one.

The counters of batches and envelopes are told from the outcomes (`Pipeline.Tallies`), and the
counter of retries from the moves that begin a delay.  They are machine words, so equations about
them are equations modulo the size of a word.
-/

set_option autoImplicit false

namespace MetricsAgent

open TickOutcome

namespace Pipeline

variable {σ : Type}

/-- A drained batch and the way its tick ended: all of it was sent, all of it has failed, or it was
abandoned. -/
def Ends (batch : List Envelope) (o : TickOutcome) : Prop :=
  o = .sent batch.length ∨ o = .failed batch.length ∨ o = .cancelled

theorem ends_of_settles {batch : List Envelope} {m m' : SelfMetrics} {o : TickOutcome}
    (h : Sender.Settles batch m o m') : Ends batch o := by
  cases h with
  | sent => exact .inl rfl
  | failed => exact .inr (.inl rfl)
  | cancelled => exact .inr (.inr rfl)

theorem tallies_of_settles {batch : List Envelope} {m₀ m m' : SelfMetrics} {os : List TickOutcome}
    {o : TickOutcome} (h : Tallies m₀ os m) (hs : Sender.Settles batch m o m') :
    Tallies m₀ (os ++ [o]) m' := by
  cases hs with
  | sent d => exact h.succeed batch.length d
  | failed d => exact h.fail batch.length d rfl
  | cancelled => exact h.cancel

theorem settled?_of_settles {batch : List Envelope} {m m' : SelfMetrics} {o : TickOutcome}
    (h : Sender.Settles batch m o m') : (PushEvent.ticked o).settled? = some o := by
  cases h <;> rfl

/-- A batch that is abandoned leaves the metrics alone. -/
theorem size_of_settles {batch : List Envelope} {m m' : SelfMetrics} {o : TickOutcome}
    (h : Sender.Settles batch m o m') : o.size?.isSome = true ∨ m' = m := by
  cases h with
  | sent | failed => exact .inl rfl
  | cancelled => exact .inr rfl

/-! ## The ledger

Two lemmas cover most of the cases: one in which nothing happens to envelopes and batches, and one
in which an envelope is offered. -/

/-- What the history, the queue and the metrics have to do with each other when the sender stands at
`φ`, where `mode` is the mode of the queue and `m₀` are the metrics at the start. -/
structure Ledger (s : SenderSetup σ) (mode : FullMode) (m₀ : SelfMetrics) (φ : Sender.Phase)
    (p : PushState σ) : Prop where
  queueMode : p.channel.queue.mode = mode
  order : Fifo.PassThrough p.accepted p.evicted p.drained.flatten p.channel.queue.items
  evictions : p.evicted = [] ∨ mode = .dropOldest
  sizes : ∀ batch ∈ p.drained, 1 ≤ batch.length ∧ batch.length ≤ s.maxBatchSize
  /-- The drained batches have come to their ends, but for the one that is underway. -/
  ends : ∃ closed, p.drained = closed ++ φ.batch?.toList ∧ List.Forall₂ Ends closed p.settled
  tallies : Tallies m₀ p.settled p.channel.metrics

namespace Ledger

variable {s : SenderSetup σ} {mode : FullMode} {m₀ : SelfMetrics} {φ φ' : Sender.Phase}
  {p p' : PushState σ}

theorem start {c : Channel Envelope} (client : σ) (queueMode : c.queue.mode = mode)
    (items : c.queue.items = []) :
    Ledger s mode c.metrics .stopped (Pipeline.start c client).shared where
  queueMode := queueMode
  order := by
    change Fifo.PassThrough [] [] [] c.queue.items
    rw [items]
    exact .nil
  evictions := .inl rfl
  sizes := fun _ h ↦ nomatch h
  ends := ⟨[], rfl, .nil⟩
  tallies := .start c.metrics

/-- Nothing happens to envelopes and batches. -/
theorem quiet (h : Ledger s mode m₀ φ p) (batch : φ'.batch? = φ.batch?)
    (queue : p'.channel.queue = p.channel.queue)
    (figures : p'.channel.metrics.sendFigures = p.channel.metrics.sendFigures)
    (tells : p.Tells p' []) : Ledger s mode m₀ φ' p' := by
  have ha : p'.accepted = p.accepted := tells.accepted.trans (List.append_nil _)
  have he : p'.evicted = p.evicted := tells.evicted.trans (List.append_nil _)
  have hd : p'.drained = p.drained := tells.drained.trans (List.append_nil _)
  have hs : p'.settled = p.settled := tells.settled.trans (List.append_nil _)
  exact
    { queueMode := by rw [queue, h.queueMode]
      order := by rw [ha, he, hd, queue]; exact h.order
      evictions := by rw [he]; exact h.evictions
      sizes := by rw [hd]; exact h.sizes
      ends := by rw [hd, hs, batch]; exact h.ends
      tallies := by rw [hs]; exact h.tallies.of_sendFigures figures }

/-- **A turn of the sender keeps the ledger.** -/
theorem effect (h : Ledger s mode m₀ φ p) (e : Sender.Effect s φ p φ' p') :
    Ledger s mode m₀ φ' p' := by
  cases e with
  | goes batch queue figures retries tells => exact h.quiet batch queue figures tells
  -- What is drained leaves the front of the queue and becomes the one batch without an end.
  | drains job batch next size queue items figures retries tells =>
    have ha : p'.accepted = p.accepted := tells.accepted.trans (List.append_nil _)
    have he : p'.evicted = p.evicted := tells.evicted.trans (List.append_nil _)
    have hd : p'.drained = p.drained ++ [job.batch] := tells.drained
    have hs : p'.settled = p.settled := tells.settled.trans (List.append_nil _)
    obtain ⟨closed, hclosed, hends⟩ := h.ends
    rw [batch, Option.toList_none, List.append_nil] at hclosed
    subst next
    exact
      { queueMode := by rw [queue]; exact h.queueMode
        order := by
          have horder := h.order
          rw [items] at horder
          rw [ha, he, hd, List.flatten_append, List.flatten_singleton]
          exact horder.takeAll
        evictions := by rw [he]; exact h.evictions
        sizes := by
          intro b hb
          rw [hd] at hb
          rcases List.mem_append.mp hb with hb | hb
          · exact h.sizes b hb
          · rw [List.mem_singleton.mp hb]
            exact size
        ends := ⟨closed, by rw [hd, hclosed]; rfl, by rw [hs]; exact hends⟩
        tallies := by rw [hs]; exact h.tallies.of_sendFigures figures }
  -- The batch without an end is the last one drained, so its end comes behind all the others.
  | settles batch o before next queue ends retries tells =>
    have ha : p'.accepted = p.accepted := tells.accepted.trans (List.append_nil _)
    have he : p'.evicted = p.evicted := tells.evicted.trans (List.append_nil _)
    have hd : p'.drained = p.drained := tells.drained.trans (List.append_nil _)
    have hs : p'.settled = p.settled ++ [o] := by
      rw [tells.settled, List.filterMap_cons, settled?_of_settles ends, List.filterMap_nil]
    obtain ⟨closed, hclosed, hends⟩ := h.ends
    rw [before, Option.toList_some] at hclosed
    subst next
    exact
      { queueMode := by rw [queue, h.queueMode]
        order := by rw [ha, he, hd, queue]; exact h.order
        evictions := by rw [he]; exact h.evictions
        sizes := by rw [hd]; exact h.sizes
        ends := by
          refine ⟨closed ++ [batch], by rw [hd, hclosed]; exact (List.append_nil _).symm, ?_⟩
          rw [hs]
          exact List.rel_append hends (.cons (ends_of_settles ends) .nil)
        tallies := by rw [hs]; exact tallies_of_settles h.tallies ends }

/-- An export is through with an envelope. -/
theorem offer (h : Ledger s mode m₀ φ p) (e : Envelope) {pushed : Pushed Envelope}
    {c : Channel Envelope} (hc : p.channel.Follows (.offered e pushed) c) :
    Ledger s mode m₀ φ ((offerEvents e pushed).foldl PushState.note { p with channel := c }) := by
  obtain ⟨hchannel, -⟩ := PushState.foldl_note (offerEvents e pushed) { p with channel := c }
  have tells : p.Tells ((offerEvents e pushed).foldl PushState.note { p with channel := c })
      (offerEvents e pushed) :=
    ⟨[], by rw [PushState.events_foldl_note, List.append_nil]; rfl, by simp⟩
  -- The state is only known by its channel and by what it tells from here on.
  generalize (offerEvents e pushed).foldl PushState.note { p with channel := c } = p' at *
  have ha : p'.accepted = p.accepted ++ (Channel.Effect.offered e pushed).accepted?.toList := by
    rw [tells.accepted]; cases pushed <;> rfl
  have he : p'.evicted = p.evicted ++ (Channel.Effect.offered e pushed).evicted?.toList := by
    rw [tells.evicted]; cases pushed <;> rfl
  have hd : p'.drained = p.drained := by
    rw [tells.drained]; cases pushed <;> exact List.append_nil _
  have hs : p'.settled = p.settled := by
    rw [tells.settled]; cases pushed <;> exact List.append_nil _
  refine
    { queueMode := by rw [hchannel, hc.mode]; exact h.queueMode
      order := ?_
      evictions := ?_
      sizes := by rw [hd]; exact h.sizes
      ends := by rw [hd, hs]; exact h.ends
      tallies := by rw [hs, hchannel]; exact h.tallies.of_sendFigures hc.sendFigures }
  · have hp := hc.passThrough h.order
    have none_taken : (Channel.Effect.offered e pushed).taken?.toList = [] := rfl
    rw [none_taken, List.append_nil] at hp
    rw [ha, he, hd, hchannel]
    exact hp
  · rw [he]
    cases pushed with
    | evicted old => exact .inr (h.queueMode.symm.trans (hc.evicted?_eq rfl).1)
    | stored | refused =>
      rcases h.evictions with hev | hmode
      · rw [hev]; exact .inl rfl
      · exact .inr hmode

/-- **What happens beside the turns of the sender keeps the ledger.** -/
theorem beside (h : Ledger s mode m₀ φ p) (e : Beside φ p φ' p') : Ledger s mode m₀ φ' p' := by
  cases e with
  | begin hφ hψ =>
    refine h.quiet ?_ rfl rfl ⟨[], by simp, by simp⟩
    have hbefore : φ.batch? = none := by cases φ <;> first | rfl | simp [Sender.Phase.isEnd] at hφ
    rw [hbefore]
    rcases hψ with rfl | rfl <;> rfl
  | offer e pushed c hc => exact h.offer e hc
  | wait c same =>
    exact h.quiet rfl same.queue (congrArg _ same.metrics) ⟨[], by simp [PushState.events], by simp⟩
  | elapse ms => exact h.quiet rfl rfl rfl ⟨[], by simp [PushState.events], by simp⟩

end Ledger

/-! ## What a move does to the metrics

The counter of retries and the figures about batches change in a turn of the sender only, and there
at one place each. -/

/-- Whether a move is the beginning of a delay after a transient failure. -/
def beginsDelay (s : SenderSetup σ) (t : Passage (Pipeline σ) Move) : Bool :=
  match senderTurn? t with
  | some (φ, φ') => Sender.backsOff s φ φ'
  | none => false

/-- Whether a move is the end of a batch that was sent or has failed. -/
def endsSend (t : Passage (Pipeline σ) Move) : Bool :=
  match senderTurn? t with
  | some (_, .ticked o) => o.size?.isSome
  | _ => false

theorem retries_of_effect {s : SenderSetup σ} {φ φ' : Sender.Phase} {p p' : PushState σ}
    (h : Sender.Effect s φ p φ' p') : p'.channel.metrics.retries =
      p.channel.metrics.retries + if Sender.backsOff s φ φ' then 1 else 0 := by
  cases h with
  | goes batch queue figures retries => exact retries
  | drains job batch next size queue items figures retries =>
    rw [next, retries]; exact (UInt64.add_zero _).symm
  | settles batch o before next queue ends retries =>
    rw [next, retries]; exact (UInt64.add_zero _).symm

theorem sendFigures_of_effect {s : SenderSetup σ} {φ φ' : Sender.Phase} {p p' : PushState σ}
    (h : Sender.Effect s φ p φ' p') :
    p'.channel.metrics.sendFigures = p.channel.metrics.sendFigures ∨
      ∃ o, φ' = .ticked o ∧ o.size?.isSome = true := by
  cases h with
  | goes batch queue figures => exact .inl figures
  | drains job batch next size queue items figures => exact .inl figures
  | settles batch o before next queue ends =>
    rcases size_of_settles ends with hsize | hsame
    · exact .inr ⟨o, next, hsize⟩
    · exact .inl (by rw [hsame])

theorem metrics_of_beside {φ φ' : Sender.Phase} {p p' : PushState σ} (h : Beside φ p φ' p') :
    p'.channel.metrics.retries = p.channel.metrics.retries ∧
      p'.channel.metrics.sendFigures = p.channel.metrics.sendFigures := by
  cases h with
  | begin | elapse => exact ⟨rfl, rfl⟩
  | offer e pushed c hc =>
    rw [(PushState.foldl_note _ _).1]
    exact ⟨hc.retries, hc.sendFigures⟩
  | wait c same => exact ⟨congrArg _ same.metrics, congrArg _ same.metrics⟩

/-- A move counts as a retry when it begins a delay after a transient failure, and leaves the
figures about batches alone unless it is the end of a batch that was sent or has failed. -/
theorem move_metrics {s : SenderSetup σ} {m : Move} {w w' : Pipeline σ} {φ : Sender.Phase}
    (h : w.At φ) (e : move s m w = some w') :
    w'.shared.channel.metrics.retries =
        w.shared.channel.metrics.retries + (if beginsDelay s ⟨w, m, w'⟩ then 1 else 0) ∧
      (w'.shared.channel.metrics.sendFigures = w.shared.channel.metrics.sendFigures ∨
        endsSend ⟨w, m, w'⟩ = true) := by
  obtain ⟨φ', -, ⟨⟨once, fired, hstep⟩, turn⟩ | ⟨hbeside, turn⟩⟩ := turn_or_beside h e
  · have heffect := Sender.step_effect hstep
    refine ⟨by simp only [beginsDelay, turn]; exact retries_of_effect heffect, ?_⟩
    rcases sendFigures_of_effect heffect with same | ⟨o, rfl, ho⟩
    · exact .inl same
    · exact .inr (by simp only [endsSend, turn]; exact ho)
  · obtain ⟨hretries, hfigures⟩ := metrics_of_beside hbeside
    refine ⟨?_, .inl hfigures⟩
    simp only [beginsDelay, turn]
    exact hretries.trans (UInt64.add_zero _).symm

/-! ## Runs

An account holds the ledger with the place at which the sender stands, since the next move depends
on it. -/

/-- What an account of a run knows: where the sender stands, its ledger, and the number of
retries. -/
structure Account (s : SenderSetup σ) (mode : FullMode) (m₀ : SelfMetrics)
    (l : List (Passage (Pipeline σ) Move)) (w : Pipeline σ) : Prop where
  ledger : ∃ φ, w.At φ ∧ Ledger s mode m₀ φ w.shared
  retries : w.shared.channel.metrics.retries = m₀.retries + (l.countP (beginsDelay s)).toUInt64
  figures : ∀ t ∈ l, t.after.shared.channel.metrics.sendFigures =
    t.before.shared.channel.metrics.sendFigures ∨ endsSend t = true

theorem account_of_trail {s : SenderSetup σ} {c : Channel Envelope} {client : σ}
    {l : List (Passage (Pipeline σ) Move)} {w : Pipeline σ} (items : c.queue.items = [])
    (run : Trail (move s) (start c client) l w) : Account s c.queue.mode c.metrics l w := by
  induction run with
  | start =>
    exact ⟨⟨_, at_start c client, .start client rfl items⟩, (UInt64.add_zero _).symm, by simp⟩
  | move _ m e ih =>
    obtain ⟨φ, hat, hledger⟩ := ih.ledger
    obtain ⟨hretries, hfigures⟩ := move_metrics hat e
    refine ⟨?_, ?_, ?_⟩
    · obtain ⟨φ', hat', ⟨⟨once, fired, hstep⟩, -⟩ | ⟨hbeside, -⟩⟩ := turn_or_beside hat e
      · exact ⟨φ', hat', hledger.effect (Sender.step_effect hstep)⟩
      · exact ⟨φ', hat', hledger.beside hbeside⟩
    · rw [hretries, ih.retries, List.countP_append, List.countP_singleton, Counter.toUInt64_add,
        UInt64.add_assoc]
      split <;> rfl
    · intro t ht
      rcases List.mem_append.mp ht with ht | ht
      · exact ih.figures t ht
      · rw [List.mem_singleton.mp ht]
        exact hfigures

/-- When no sender has a batch, none is underway. -/
theorem At.batch?_eq_none {w : Pipeline σ} {φ : Sender.Phase} (h : w.At φ)
    (between : ∀ x ∈ w.loops, x.phase.batch? = none) : φ.batch? = none := by
  by_cases quiet : w.isQuiet
  · have hend := h.quiet quiet
    cases φ <;> first | rfl | simp [Sender.Phase.isEnd] at hend
  · simp only [isQuiet, Classical.not_forall, Bool.not_eq_true] at quiet
    obtain ⟨x, hx, hover⟩ := quiet
    rw [← h.phase x hx hover]
    exact between x hx

/-- What has become of the envelopes and batches of a run, and what the metrics tell, where `m₀` are
the metrics at the start. -/
structure Conserves (s : SenderSetup σ) (mode : FullMode) (m₀ : SelfMetrics)
    (l : List (Passage (Pipeline σ) Move)) (w : Pipeline σ) : Prop where
  /-- The accepted envelopes without the evicted ones are in the drained batches and in the
  queue. -/
  order : Fifo.Survive w.shared.accepted w.shared.evicted
    (w.shared.drained.flatten ++ w.shared.channel.queue.items)
  evictions : w.shared.evicted = [] ∨ mode = .dropOldest
  sizes : ∀ batch ∈ w.shared.drained, 1 ≤ batch.length ∧ batch.length ≤ s.maxBatchSize
  /-- Between two ticks, each drained batch has come to its end. -/
  ends : (∀ x ∈ w.loops, x.phase.batch? = none) →
    List.Forall₂ Ends w.shared.drained w.shared.settled
  /-- The metrics agree with how the batches ended. -/
  tallies : Tallies m₀ w.shared.settled w.shared.channel.metrics
  /-- The delays that were begun after transient failures are counted. -/
  retries : w.shared.channel.metrics.retries = m₀.retries + (l.countP (beginsDelay s)).toUInt64
  /-- Only the end of a batch that was sent or has failed changes the figures about batches. -/
  figures : ∀ t ∈ l, t.after.shared.channel.metrics.sendFigures =
    t.before.shared.channel.metrics.sendFigures ∨ endsSend t = true

/-- **A pipeline loses no envelope and no batch**, whatever the order in which exports and ticks
begin and have their turns, time passes and tokens fire. -/
theorem pipeline_conserves (s : SenderSetup σ) (client : σ) {capacity : Nat}
    (positive : 0 < capacity) (mode : FullMode) (m₀ : SelfMetrics) :
    ∃ c, Channel.new capacity mode m₀ = .ok c ∧
      ∀ {l : List (Passage (Pipeline σ) Move)} {w : Pipeline σ},
        Trail (move s) (start c client) l w → Conserves s mode m₀ l w := by
  have created : Channel.new capacity mode m₀ =
      .ok (⟨⟨capacity, mode, [], positive⟩, 0, .new, .new, m₀⟩ : Channel Envelope) := by
    simp only [Channel.new, BoundedQueue.new?, positive, dif_pos]
  refine ⟨_, created, fun {l w} run ↦ ?_⟩
  have account := account_of_trail rfl run
  obtain ⟨φ, hat, hledger⟩ := account.ledger
  exact
    { order := hledger.order.survivors
      evictions := hledger.evictions
      sizes := hledger.sizes
      ends := by
        intro between
        obtain ⟨closed, hclosed, hends⟩ := hledger.ends
        rw [hat.batch?_eq_none between, Option.toList_none, List.append_nil] at hclosed
        rw [hclosed]
        exact hends
      tallies := hledger.tallies
      retries := account.retries
      figures := account.figures }

/-- Of two envelopes one is evicted; the other is sent after its first flush has failed. -/
theorem pipeline_conserves_retried :
    ∃ c, Channel.new 1 .dropOldest .new = .ok c ∧
      ∃ (l : List (Passage (Pipeline ScriptedClient) Move)) (w : Pipeline ScriptedClient),
        Trail (move (retryingOnce ScriptedClient.client))
          (start c ⟨[], [⟨0, .error (.timeout "late")⟩]⟩) l w ∧
        (w.shared.evicted.length = 1 ∧ w.shared.settled = [.sent 1] ∧
          l.countP (beginsDelay (retryingOnce ScriptedClient.client)) = 1) ∧
        Conserves (retryingOnce ScriptedClient.client) .dropOldest .new l w := by
  obtain ⟨c, hc, h⟩ := pipeline_conserves (retryingOnce ScriptedClient.client)
    ⟨[], [⟨0, .error (.timeout "late")⟩]⟩ Nat.one_pos .dropOldest .new
  obtain rfl : (⟨⟨1, .dropOldest, [], Nat.one_pos⟩, 0, .new, .new, .new⟩ : Channel Envelope) = c :=
    Except.ok.inj hc
  have run : Trail (move (retryingOnce ScriptedClient.client))
      (start ⟨⟨1, .dropOldest, [], Nat.one_pos⟩, 0, .new, .new, .new⟩
        ⟨[], [⟨0, .error (.timeout "late")⟩]⟩) _ _ :=
    Trail.of_follow
      [.beginExport 1 [.gauge "load" 1, .gauge "load" 2], .turn (.exporting 1),
        .turn (.exporting 1), .beginTick 2 2, .turn (.sending 2), .turn (.sending 2),
        .turn (.sending 2), .turn (.sending 2), .turn (.sending 2), .turn (.sending 2),
        .turn (.sending 2), .turn (.sending 2)] rfl
  exact ⟨_, rfl, _, _, run, ⟨rfl, rfl, rfl⟩, h run⟩

end Pipeline

end MetricsAgent
