import MetricsAgent.Channel.Traffic
import MetricsAgent.Proofs.Channel.Effect
import MetricsAgent.Proofs.Channel.Order
import MetricsAgent.Proofs.Counter
import MetricsAgent.Proofs.Keyed
import MetricsAgent.Proofs.Trail

/-!
# A channel is a bounded queue, first in, first out

Any number of producers and consumers share a channel, and their stretches, arrivals and
cancellations come in any order.  Their callers see only the replies of the calls: an item was put
in or it was not, an item was taken out.  The main statement, `channel_refines_bounded_queue`,
compares these replies with a queue that has nothing to wait for: what was taken and what is still
queued are the accepted items, in the order in which they were accepted, without the evicted ones.

`RefinesQueue` says more than that: the queue is never longer than its capacity, observers see its
length, the counter of dropped items has grown by the refused and the evicted ones, an item is
evicted only by one that is accepted into a full queue, and a call that was cancelled has left no
trace.

The proof goes from the turn of a task (`TurnEnds`) to the effect of a move on the channel
(`move_follows`), and from there along the trail.
-/

set_option autoImplicit false

namespace MetricsAgent

namespace Traffic

variable {α : Type}

/-! ## Moves

What can happen next, as data, so that a run is a trail of moves. -/

instance (w : Traffic α) (id : Nat) : Decidable (w.isFresh id) :=
  inferInstanceAs (Decidable (∀ t ∈ w.tasks, t.id ≠ id))

/-- What can happen next to a channel and its tasks. -/
inductive Move (α : Type) where
  /-- A producer arrives that waits for space. -/
  | produce (id token : Nat) (x : α)
  /-- A consumer arrives that waits for an item. -/
  | consume (id token : Nat)
  /-- Someone who does not wait offers an item. -/
  | offer (x : α)
  /-- Someone who does not wait asks for an item. -/
  | poll
  | cancel (token : Nat)
  /-- A task has its turn. -/
  | turn (id : Nat)

/-- Make a move, if it is possible. -/
def move (m : Move α) (w : Traffic α) : Option (Traffic α) :=
  match m with
  | .produce id token x => if w.isFresh id then some (w.spawnProducer id token x) else none
  | .consume id token => if w.isFresh id then some (w.spawnConsumer id token) else none
  | .offer x => some (w.offer x).2
  | .poll => some w.poll.2
  | .cancel token => some (w.cancel token)
  | .turn id => w.step id

/-- The reachable states are those at the end of a trail. -/
theorem reachable_iff_exists_trail {c : Channel α} {w : Traffic α} :
    Reachable c w ↔ ∃ l, Trail move (start c) l w := by
  constructor
  · intro h
    induction h with
    | start => exact ⟨[], .start⟩
    | produce _ id token x fresh ih =>
      obtain ⟨l, h⟩ := ih
      exact ⟨_, h.move (.produce id token x) (if_pos fresh)⟩
    | consume _ id token fresh ih =>
      obtain ⟨l, h⟩ := ih
      exact ⟨_, h.move (.consume id token) (if_pos fresh)⟩
    | offer _ x ih => obtain ⟨l, h⟩ := ih; exact ⟨_, h.move (.offer x) rfl⟩
    | poll _ ih => obtain ⟨l, h⟩ := ih; exact ⟨_, h.move .poll rfl⟩
    | cancel _ token ih => obtain ⟨l, h⟩ := ih; exact ⟨_, h.move (.cancel token) rfl⟩
    | step _ id e ih => obtain ⟨l, h⟩ := ih; exact ⟨_, h.move (.turn id) e⟩
  · rintro ⟨l, h⟩
    refine h.invariant .start fun {v v'} m hv e ↦ ?_
    cases m with
    | produce id token x =>
      simp only [move, Option.ite_none_right_eq_some, Option.some_inj] at e
      obtain ⟨fresh, rfl⟩ := e
      exact .produce hv id token x fresh
    | consume id token =>
      simp only [move, Option.ite_none_right_eq_some, Option.some_inj] at e
      obtain ⟨fresh, rfl⟩ := e
      exact .consume hv id token fresh
    | offer x => cases e; exact .offer hv x
    | poll => cases e; exact .poll hv
    | cancel token => cases e; exact .cancel hv token
    | turn id => exact .step hv id e

/-! ## Replies

A reply is given in the move in which a call comes to its end.  What replies say is collected along
the trail, and no caller can see anything else. -/

/-- What the call of a producer or consumer tells its caller at its end. -/
inductive Reply (α : Type) where
  | enqueued (x : α) (accepted : Bool)
  | dequeued (x : α)

/-- Where the task with a number stands. -/
def phase? (w : Traffic α) (id : Nat) : Option (Phase α) :=
  (w.tasks.find? (·.id = id)).map (·.phase)

/-- The reply of a call that went from one phase to another. -/
def Phase.reply? : Phase α → Phase α → Option (Reply α)
  | .arriving x, .ended (.enqueued b) | .producing x, .ended (.enqueued b) => some (.enqueued x b)
  | .asking, .ended (.dequeued x) | .consuming, .ended (.dequeued x) => some (.dequeued x)
  | _, _ => none

/-- The reply that is given in a move. -/
def reply? (t : Passage (Traffic α) (Move α)) : Option (Reply α) :=
  match t.move with
  | .offer x => some (.enqueued x (t.before.offer x).1)
  | .poll => t.before.poll.1.map .dequeued
  | .turn id =>
    (t.before.phase? id).bind fun p ↦ (t.after.phase? id).bind fun q ↦ p.reply? q
  | _ => none

/-- The item that a reply says is accepted. -/
def Reply.accepted? : Reply α → Option α
  | .enqueued x true => some x
  | _ => none

/-- The item that a reply says is refused. -/
def Reply.refused? : Reply α → Option α
  | .enqueued x false => some x
  | _ => none

/-- The item that a reply hands over. -/
def Reply.taken? : Reply α → Option α
  | .dequeued x => some x
  | _ => none

/-- The items whose calls said that they are accepted, in that order. -/
def accepted (l : List (Passage (Traffic α) (Move α))) : List α :=
  l.filterMap fun t ↦ (reply? t).bind Reply.accepted?

/-- The items whose calls said that they are not accepted. -/
def refused (l : List (Passage (Traffic α) (Move α))) : List α :=
  l.filterMap fun t ↦ (reply? t).bind Reply.refused?

/-- The items that calls handed over, in that order. -/
def taken (l : List (Passage (Traffic α) (Move α))) : List α :=
  l.filterMap fun t ↦ (reply? t).bind Reply.taken?

/-- The evicted items, in that order. -/
def evicted (w : Traffic α) : List α :=
  w.history.filterMap fun
    | .evicted x => some x
    | _ => none

/-! ## The turn of a task

A call that is at its end has no more turns, so it has one reply. -/

/-- A move of one task to another phase. -/
theorem phase?_setPhase (w : Traffic α) (id id' : Nat) (p : Phase α) :
    (w.setPhase id' p).phase? id = (w.tasks.find? (·.id = id)).map fun t ↦
      if t.id = id' then p else t.phase := by
  simp only [phase?, setPhase]
  rw [Keyed.find?_map fun t ↦ by split <;> rfl, Option.map_map]
  congr 1
  funext t
  by_cases h : t.id = id' <;> simp [h]

theorem phase?_setPhase_self {w : Traffic α} {id : Nat} {t : Task α}
    (h : w.tasks.find? (·.id = id) = some t) (p : Phase α) :
    (w.setPhase id p).phase? id = some p := by
  rw [phase?_setPhase, h, Option.map_some, if_pos (Keyed.key_of_find? h)]

theorem phase?_setPhase_of_ne (w : Traffic α) {id id' : Nat} (h : id' ≠ id) (p : Phase α) :
    (w.setPhase id' p).phase? id = w.phase? id := by
  rw [phase?_setPhase, phase?]
  cases ht : w.tasks.find? (·.id = id) with
  | none => rfl
  | some t =>
    have hid := Keyed.key_of_find? ht
    rw [Option.map_some, Option.map_some, if_neg fun e ↦ h (e.symm.trans hid)]

/-- How the turn of a task can end. -/
inductive TurnEnds (w : Traffic α) (t : Task α) : Traffic α → Prop where
  /-- A producer is through. -/
  | offered (x : α) (p : Pushed α) (c : Channel α)
    (phase : t.phase = .arriving x ∨ t.phase = .producing x)
    (h : w.channel.Follows (.offered x p) c) :
    TurnEnds w t ({ w with channel := c, history := w.history ++ offerEvents x p }.setPhase t.id
      (.ended (.enqueued p.accepted)))
  /-- A consumer is through. -/
  | taken (x : α) (c : Channel α) (phase : t.phase = .asking ∨ t.phase = .consuming)
    (h : w.channel.Follows (.taken x) c) :
    TurnEnds w t ({ w with channel := c, history := w.history ++ [Event.taken x] }.setPhase t.id
      (.ended (.dequeued x)))
  /-- The task waits, or it was cancelled. -/
  | idle (p : Phase α) (c : Channel α) (h : w.channel.Same c)
    (phase : ∀ o, p = .ended o → o = .cancelled) :
    TurnEnds w t ({ w with channel := c }.setPhase t.id p)

theorem afterEnqueue_ends {w : Traffic α} {t : Task α} {x : α} {turn : Channel.Turn α (Pushed α)}
    (h : turn.offers w.channel x) (phase : t.phase = .arriving x ∨ t.phase = .producing x) :
    TurnEnds w t (w.afterEnqueue t.id x turn) := by
  cases turn with
  | done p c => exact .offered x p c phase h
  | parked c => exact .idle (.producing x) c h (by simp)

theorem afterDequeue_ends {w : Traffic α} {t : Task α} {turn : Channel.Turn α α}
    (h : turn.takes w.channel) (phase : t.phase = .asking ∨ t.phase = .consuming) :
    TurnEnds w t (w.afterDequeue t.id turn) := by
  cases turn with
  | done x c => exact .taken x c phase h
  | parked c => exact .idle .consuming c h (by simp)

theorem stepTask_ends {w w' : Traffic α} {t : Task α} (h : w.stepTask t = some w') :
    TurnEnds w t w' := by
  cases phase : t.phase with
  | arriving x =>
    simp only [stepTask, phase, Option.some_inj] at h
    subst h
    exact afterEnqueue_ends (Channel.enqueueTurn_offers _ _ _) (.inl phase)
  -- A call that still waits has no turn, so only its cancellation and its passing remain.
  | producing x =>
    simp only [stepTask, phase] at h
    split at h
    · cases h
    · rename_i c hc
      cases h
      exact .idle (.ended .cancelled) c (Channel.resumeEnqueue_cancelled hc) (by simp)
    · rename_i turn ht
      cases h
      exact afterEnqueue_ends (Channel.resumeEnqueue_turn ht) (.inr phase)
  | asking =>
    simp only [stepTask, phase, Option.some_inj] at h
    subst h
    exact afterDequeue_ends (Channel.dequeueTurn_takes _ _) (.inl phase)
  | consuming =>
    simp only [stepTask, phase] at h
    split at h
    · cases h
    · rename_i c hc
      cases h
      exact .idle (.ended .cancelled) c (Channel.resumeDequeue_cancelled hc) (by simp)
    · rename_i turn ht
      cases h
      exact afterDequeue_ends (Channel.resumeDequeue_turn ht) (.inr phase)
  | ended o => simp [stepTask, phase] at h

/-- A call that is at its end has no more turns, and nothing changes how it ended. -/
theorem phase?_ended {m : Move α} {w w' : Traffic α} (e : move m w = some w') {id : Nat}
    {o : Outcome α} (h : w.phase? id = some (.ended o)) : w'.phase? id = some (.ended o) := by
  cases m with
  | produce id' token x =>
    simp only [move, Option.ite_none_right_eq_some, Option.some_inj] at e
    obtain ⟨-, rfl⟩ := e
    obtain ⟨t, ht, hp⟩ := Option.map_eq_some_iff.mp h
    simp [phase?, spawnProducer, List.find?_append, ht, hp]
  | consume id' token =>
    simp only [move, Option.ite_none_right_eq_some, Option.some_inj] at e
    obtain ⟨-, rfl⟩ := e
    obtain ⟨t, ht, hp⟩ := Option.map_eq_some_iff.mp h
    simp [phase?, spawnConsumer, List.find?_append, ht, hp]
  | offer x => cases e; exact h
  | poll =>
    cases e
    cases hd : w.channel.tryDequeue? <;> simpa [poll, hd, phase?] using h
  | cancel token => cases e; exact h
  | turn id' =>
    obtain ⟨t, ht, hs⟩ := Option.bind_eq_some_iff.mp e
    have hid' : t.id = id' := by simpa using List.find?_some ht
    subst hid'
    by_cases hid : t.id = id
    · subst hid
      have hphase : t.phase = .ended o := by simpa [phase?, ht] using h
      simp [stepTask, hphase] at hs
    · cases stepTask_ends hs <;> rw [phase?_setPhase_of_ne _ hid] <;> exact h

/-! ## The effect of a move

Each move has one effect on the channel and gives the reply that goes with it. -/

/-- The reply that goes with an effect. -/
def replyOf? : Channel.Effect α → Option (Reply α)
  | .nothing => none
  | .offered x p => some (.enqueued x p.accepted)
  | .taken x => some (.dequeued x)

theorem replyOf?_accepted? (e : Channel.Effect α) :
    (replyOf? e).bind Reply.accepted? = e.accepted? := by
  rcases e with _ | ⟨x, _ | _ | _⟩ | _ <;> rfl

theorem replyOf?_refused? (e : Channel.Effect α) :
    (replyOf? e).bind Reply.refused? = e.refused? := by
  rcases e with _ | ⟨x, _ | _ | _⟩ | _ <;> rfl

theorem replyOf?_taken? (e : Channel.Effect α) : (replyOf? e).bind Reply.taken? = e.taken? := by
  rcases e with _ | ⟨x, _ | _ | _⟩ | _ <;> rfl

theorem evicted_append (w : Traffic α) (c : Channel α) (l : List (Event α)) :
    evicted { w with channel := c, history := w.history ++ l } =
      w.evicted ++ evicted { w with history := l } := by
  simp [evicted]

theorem evicted_offerEvents (w : Traffic α) (c : Channel α) (x : α) (p : Pushed α) :
    evicted { w with channel := c, history := w.history ++ offerEvents x p } =
      w.evicted ++ (Channel.Effect.offered x p).evicted?.toList := by
  rw [evicted_append]
  cases p <;> rfl

/-- **What a move does to the channel, and what it lets a caller see.** -/
theorem move_follows {m : Move α} {w w' : Traffic α} (e : move m w = some w') :
    ∃ eff, w.channel.Follows eff w'.channel ∧ w'.evicted = w.evicted ++ eff.evicted?.toList ∧
      reply? ⟨w, m, w'⟩ = replyOf? eff := by
  cases m with
  | produce id token x =>
    simp only [move, Option.ite_none_right_eq_some, Option.some_inj] at e
    obtain ⟨-, rfl⟩ := e
    exact ⟨.nothing, .nothing (.refl _), (List.append_nil w.evicted).symm, rfl⟩
  | consume id token =>
    simp only [move, Option.ite_none_right_eq_some, Option.some_inj] at e
    obtain ⟨-, rfl⟩ := e
    exact ⟨.nothing, .nothing (.refl _), (List.append_nil w.evicted).symm, rfl⟩
  | offer x =>
    cases e
    exact ⟨.offered x (w.channel.tryEnqueue x).1, Channel.tryEnqueue_follows w.channel x,
      evicted_offerEvents _ _ _ _, rfl⟩
  | poll =>
    cases e
    cases h : w.channel.tryDequeue? with
    | none =>
      simp only [reply?, poll, h]
      exact ⟨.nothing, .nothing (.refl _), (List.append_nil w.evicted).symm, rfl⟩
    | some q =>
      obtain ⟨x, c⟩ := q
      simp only [reply?, poll, h]
      exact ⟨.taken x, Channel.tryDequeue?_follows h, evicted_append w c [.taken x], rfl⟩
  | cancel token =>
    cases e
    exact ⟨.nothing, .nothing (.refl _), (List.append_nil w.evicted).symm, rfl⟩
  | turn id =>
    obtain ⟨t, ht, h⟩ := Option.bind_eq_some_iff.mp e
    have hid : t.id = id := by simpa using List.find?_some ht
    have hbefore : w.phase? id = some t.phase := by rw [phase?, ht]; rfl
    -- A turn has an effect when the task ends in it, and otherwise it leaves the queue alone.
    subst hid
    cases stepTask_ends h with
    | offered x p c phase hc =>
      have hafter := phase?_setPhase_self
        (w := { w with channel := c, history := w.history ++ offerEvents x p }) ht
        (.ended (.enqueued p.accepted))
      refine ⟨.offered x p, hc, evicted_offerEvents w c x p, ?_⟩
      rcases phase with phase | phase <;>
        simp [reply?, hbefore, hafter, phase, Phase.reply?, replyOf?]
    | taken x c phase hc =>
      have hafter := phase?_setPhase_self
        (w := { w with channel := c, history := w.history ++ [Event.taken x] }) ht
        (.ended (.dequeued x))
      refine ⟨.taken x, hc, evicted_append w c [.taken x], ?_⟩
      rcases phase with phase | phase <;>
        simp [reply?, hbefore, hafter, phase, Phase.reply?, replyOf?]
    | idle p c hc phase =>
      have hafter := phase?_setPhase_self (w := { w with channel := c }) ht p
      refine ⟨.nothing, .nothing hc, (List.append_nil w.evicted).symm, ?_⟩
      simp only [reply?, hbefore, hafter, Option.bind_some, replyOf?]
      cases p with
      | ended o => cases phase o rfl; cases t.phase <;> rfl
      | _ => cases t.phase <;> rfl

/-- A turn after which a call is not at its end, or is cancelled, leaves the items alone. -/
theorem turn_same {id : Nat} {w w' : Traffic α} (e : move (.turn id) w = some w') :
    (w.channel.Same w'.channel ∧ w'.evicted = w.evicted) ∨
      ∃ o, w'.phase? id = some (.ended o) ∧ o ≠ .cancelled := by
  obtain ⟨t, ht, h⟩ := Option.bind_eq_some_iff.mp e
  have hid : t.id = id := by simpa using List.find?_some ht
  subst hid
  cases stepTask_ends h with
  | offered x p c phase hc =>
    exact .inr ⟨_, phase?_setPhase_self
      (w := { w with channel := c, history := w.history ++ offerEvents x p }) ht _, by simp⟩
  | taken x c phase hc =>
    exact .inr ⟨_, phase?_setPhase_self
      (w := { w with channel := c, history := w.history ++ [Event.taken x] }) ht _, by simp⟩
  | idle p c hc phase => exact .inl ⟨hc, rfl⟩

/-! ## Runs

The account of the queue, kept move by move, with the replies in place of the history. -/

/-- What the replies of a run, the evicted items and the state at its end have to do with each
other, where `dropped` is the counter at the start. -/
structure Account (capacity : Nat) (mode : FullMode) (dropped : UInt64)
    (l : List (Passage (Traffic α) (Move α))) (w : Traffic α) : Prop where
  /-- Observers see the length of the queue. -/
  consistent : w.channel.Consistent
  capacity : w.channel.queue.capacity = capacity
  mode : w.channel.queue.mode = mode
  /-- What went into the queue left it at its front. -/
  order : Fifo.PassThrough (accepted l) w.evicted (taken l) w.channel.queue.items
  /-- What was refused and what was evicted is counted. -/
  dropped : w.channel.metrics.dropped = dropped + ((refused l).length + w.evicted.length).toUInt64

theorem account_start {capacity : Nat} {mode : FullMode} {metrics : SelfMetrics} {c : Channel α}
    (created : Channel.new capacity mode metrics = .ok c) (unused : metrics.queueLength = 0) :
    Account capacity mode metrics.dropped [] (start c) := by
  by_cases h : 0 < capacity
  · simp only [Channel.new, BoundedQueue.new?, h, dif_pos, Except.ok.injEq] at created
    subst created
    exact ⟨⟨Nat.zero_le _, rfl, unused⟩, rfl, rfl, .nil, (UInt64.add_zero _).symm⟩
  · simp [Channel.new, BoundedQueue.new?, h] at created

/-- **A move keeps the account.** -/
theorem Account.move {capacity : Nat} {mode : FullMode} {dropped : UInt64}
    {l : List (Passage (Traffic α) (Move α))} {w w' : Traffic α} {m : Move α}
    (h : Account capacity mode dropped l w) (e : Traffic.move m w = some w') :
    Account capacity mode dropped (l ++ [⟨w, m, w'⟩]) w' := by
  obtain ⟨eff, hf, hev, hr⟩ := move_follows e
  have ha : accepted (l ++ [⟨w, m, w'⟩]) = accepted l ++ eff.accepted?.toList := by
    simp only [accepted, List.filterMap_append, List.filterMap_cons, List.filterMap_nil, hr,
      replyOf?_accepted?]
    cases eff.accepted? <;> rfl
  have ht : taken (l ++ [⟨w, m, w'⟩]) = taken l ++ eff.taken?.toList := by
    simp only [taken, List.filterMap_append, List.filterMap_cons, List.filterMap_nil, hr,
      replyOf?_taken?]
    cases eff.taken? <;> rfl
  have href : refused (l ++ [⟨w, m, w'⟩]) = refused l ++ eff.refused?.toList := by
    simp only [refused, List.filterMap_append, List.filterMap_cons, List.filterMap_nil, hr,
      replyOf?_refused?]
    cases eff.refused? <;> rfl
  refine ⟨hf.consistent h.consistent, hf.capacity.trans h.capacity, hf.mode.trans h.mode, ?_, ?_⟩
  · rw [ha, ht, hev]
    exact hf.passThrough h.order
  · -- An effect drops by refusing or by evicting, and the two are counted together.
    rw [hf.dropped, h.dropped, href, hev, List.length_append, List.length_append, UInt64.add_assoc,
      ← Counter.toUInt64_add]
    congr 2
    simp only [Channel.Effect.drops]
    omega

theorem account_of_trail {capacity : Nat} {mode : FullMode} {metrics : SelfMetrics} {c : Channel α}
    {l : List (Passage (Traffic α) (Move α))} {w : Traffic α}
    (created : Channel.new capacity mode metrics = .ok c) (unused : metrics.queueLength = 0)
    (run : Trail move (start c) l w) : Account capacity mode metrics.dropped l w := by
  induction run with
  | start => exact account_start created unused
  | move _ m e ih => exact ih.move e

/-- An accepted item takes the place of the oldest one, in a queue that was full. -/
def EvictsOldest (capacity : Nat) (mode : FullMode) (t : Passage (Traffic α) (Move α)) : Prop :=
  mode = .dropOldest ∧ t.before.channel.queue.items.length = capacity ∧
    ∃ old rest x, reply? t = some (.enqueued x true) ∧
      t.before.channel.queue.items = old :: rest ∧ t.after.channel.queue.items = rest ++ [x] ∧
      t.after.evicted = t.before.evicted ++ [old]

theorem evicts_oldest_of_move {capacity : Nat} {mode : FullMode} {dropped : UInt64}
    {l : List (Passage (Traffic α) (Move α))} {w w' : Traffic α} {m : Move α}
    (h : Account capacity mode dropped l w) (e : move m w = some w') :
    w'.evicted = w.evicted ∨ EvictsOldest capacity mode ⟨w, m, w'⟩ := by
  obtain ⟨eff, hf, hev, hr⟩ := move_follows e
  cases he : eff.evicted? with
  | none => exact .inl (by simpa [he] using hev)
  | some old =>
    obtain ⟨hmode, hfull, x, rest, hx, hbefore, hafter⟩ := hf.evicted?_eq he
    have hlen : w.channel.queue.items.length = capacity := by
      have hb := h.consistent.bounded
      rw [h.capacity] at hb hfull
      exact Nat.le_antisymm hb hfull
    have hreply : reply? ⟨w, m, w'⟩ = some (.enqueued x true) := by
      rw [hr]
      cases eff with
      | offered y p => cases p <;> simp_all [replyOf?, Channel.Effect.accepted?, Pushed.accepted]
      | _ => simp [Channel.Effect.evicted?] at he
    refine .inr ⟨h.mode.symm.trans hmode, hlen, old, rest, x, hreply, hbefore, hafter, ?_⟩
    rw [hev, he]
    rfl

/-- The turns of a call that was cancelled left the items and the counters alone. -/
theorem same_of_cancelled {c : Channel α} {l : List (Passage (Traffic α) (Move α))} {w : Traffic α}
    (run : Trail move (start c) l w) {id : Nat} (h : w.phase? id = some (.ended .cancelled)) :
    ∀ t ∈ l, t.move = .turn id →
      t.before.channel.Same t.after.channel ∧ t.after.evicted = t.before.evicted := by
  -- a turn that did not leave them alone would have ended the call in another way, for good
  have key : ∀ t ∈ l, t.move = .turn id →
      (t.before.channel.Same t.after.channel ∧ t.after.evicted = t.before.evicted) ∨
        ∃ o, w.phase? id = some (.ended o) ∧ o ≠ .cancelled := by
    clear h
    induction run with
    | start => simp
    | move run m e ih =>
      intro t ht hm
      rcases List.mem_append.mp ht with ht | ht
      · rcases ih t ht hm with hsame | ⟨o, ho, hne⟩
        · exact .inl hsame
        · exact .inr ⟨o, phase?_ended e ho, hne⟩
      · rw [List.mem_singleton.mp ht] at hm ⊢
        obtain rfl : m = .turn id := hm
        exact turn_same e
  intro t ht hm
  rcases key t ht hm with hsame | ⟨o, ho, hne⟩
  · exact hsame
  · rw [h, Option.some_inj, Phase.ended.injEq] at ho
    exact absurd ho.symm hne

/-- A run of a channel does what a bounded queue does, where `dropped` is the counter at the
start. -/
structure RefinesQueue (capacity : Nat) (mode : FullMode) (dropped : UInt64)
    (l : List (Passage (Traffic α) (Move α))) (w : Traffic α) : Prop where
  /-- The queue is within its capacity. -/
  bounded : w.channel.queue.items.length ≤ capacity
  /-- Observers see the length of the queue. -/
  length : w.channel.length = w.channel.queue.items.length
  gauge : w.channel.metrics.queueLength = w.channel.queue.items.length.toUInt64
  /-- What was taken, and then what is queued, are the accepted items without the evicted ones. -/
  order : Fifo.Survive (accepted l) w.evicted (taken l ++ w.channel.queue.items)
  /-- Only a full queue that evicts its oldest items evicts, and then it evicts the oldest. -/
  evictions : ∀ t ∈ l, t.after.evicted = t.before.evicted ∨ EvictsOldest capacity mode t
  /-- What was refused and what was evicted is counted. -/
  dropped : w.channel.metrics.dropped = dropped + ((refused l).length + w.evicted.length).toUInt64
  /-- A cancelled call has put nothing into the queue and has changed no counter. -/
  cancelled : ∀ id, w.phase? id = some (.ended .cancelled) → ∀ t ∈ l, t.move = .turn id →
    t.before.channel.Same t.after.channel ∧ t.after.evicted = t.before.evicted

/-- **A channel is a bounded queue, first in, first out**, whatever the order in which producers and
consumers arrive, have their turns and are cancelled. -/
theorem channel_refines_bounded_queue {capacity : Nat} (positive : 0 < capacity) (mode : FullMode)
    {metrics : SelfMetrics} (unused : metrics.queueLength = 0) :
    ∃ c : Channel α, Channel.new capacity mode metrics = .ok c ∧
      ∀ {l : List (Passage (Traffic α) (Move α))} {w : Traffic α}, Trail move (start c) l w →
        RefinesQueue capacity mode metrics.dropped l w := by
  have created : Channel.new capacity mode metrics =
      .ok (⟨⟨capacity, mode, [], positive⟩, 0, .new, .new, metrics⟩ : Channel α) := by
    simp only [Channel.new, BoundedQueue.new?, positive, dif_pos]
  refine ⟨_, created, fun {l w} run ↦ ?_⟩
  have account := account_of_trail created unused run
  have evictions : ∀ t ∈ l, t.after.evicted = t.before.evicted ∨ EvictsOldest capacity mode t := by
    -- Which item is evicted is a statement about each move, so it needs the account before the
    -- move.
    clear account
    induction run with
    | start => simp
    | move run m e ih =>
      intro t ht
      rcases List.mem_append.mp ht with ht | ht
      · exact ih t ht
      · rw [List.mem_singleton.mp ht]
        exact evicts_oldest_of_move (account_of_trail created unused run) e
  exact
    { bounded := account.capacity ▸ account.consistent.bounded
      length := account.consistent.length
      gauge := account.consistent.gauge
      order := account.order.survivors
      evictions := evictions
      dropped := account.dropped
      cancelled := fun _ h ↦ same_of_cancelled run h }

/-- A producer that has to wait is cancelled, while the item before it is taken. -/
theorem channel_refines_bounded_queue_cancelled :
    ∃ c : Channel Nat, Channel.new 1 .block .new = .ok c ∧
      ∃ (l : List (Passage (Traffic Nat) (Move Nat))) (w : Traffic Nat),
        Trail move (start c) l w ∧ w.phase? 1 = some (.ended .cancelled) ∧ taken l = [7] ∧
          RefinesQueue 1 .block 0 l w := by
  have unused : SelfMetrics.new.queueLength = 0 := rfl
  obtain ⟨c, hc, h⟩ := channel_refines_bounded_queue Nat.one_pos .block unused
  obtain rfl : (⟨⟨1, .block, [], Nat.one_pos⟩, 0, .new, .new, .new⟩ : Channel Nat) = c :=
    Except.ok.inj hc
  have run : Trail move (start ⟨⟨1, .block, [], Nat.one_pos⟩, 0, .new, .new, .new⟩) _ _ :=
    Trail.of_follow
      [.produce 0 0 7, .turn 0, .produce 1 1 8, .turn 1, .cancel 1, .turn 1, .poll] rfl
  exact ⟨_, rfl, _, _, run, rfl, rfl, h run⟩

end Traffic

end MetricsAgent
