import MetricsAgent.Channel.Basic
import MetricsAgent.Proofs.Channel.Order

/-!
# What the operations of a channel do

Every stretch of a producer or consumer does one of three things to the queue of a channel: it
leaves the queue alone, it offers an item, or it takes the oldest one.  `Channel.Follows c e c'`
says that `c'` is `c` after the effect `e`, with the length, the gauge and the count of dropped
items that belong to it; who waits for the channel is left open.

There is one lemma for each operation, and what holds of a channel for every effect is proved once,
from `Channel.Follows` alone: `Channel.Follows.consistent` is that the length that observers see
stays that of the queue.

The two developments about channels share this file.  `MetricsAgent.Proofs.Channel.Refinement`
follows the items of a channel of its own, and `MetricsAgent.Proofs.Push.Effect` those of the
channel in a pipeline.
-/

set_option autoImplicit false

namespace MetricsAgent

namespace Channel

variable {α : Type}

/-- What happens to the items of a channel. -/
inductive Effect (α : Type) where
  | nothing
  | offered (x : α) (p : Pushed α)
  | taken (x : α)

/-- Two channels that differ at most in who waits for them. -/
structure Same (c c' : Channel α) : Prop where
  queue : c'.queue = c.queue
  length : c'.length = c.length
  metrics : c'.metrics = c.metrics

theorem Same.refl (c : Channel α) : Same c c := ⟨rfl, rfl, rfl⟩

theorem Same.trans {a b c : Channel α} (h : Same a b) (h' : Same b c) : Same a c :=
  ⟨h'.queue.trans h.queue, h'.length.trans h.length, h'.metrics.trans h.metrics⟩

/-- Put an item at the end, for the oldest one. -/
def evict (c : Channel α) (rest : List α) (x : α) : Channel α :=
  { c with queue := { c.queue with items := rest ++ [x] } }.countDrop

@[simp] theorem setLength_queue (c : Channel α) (n : Nat) : (c.setLength n).queue = c.queue := rfl

@[simp] theorem countDrop_queue (c : Channel α) : c.countDrop.queue = c.queue := rfl

@[simp] theorem evict_items (c : Channel α) (rest : List α) (x : α) :
    (c.evict rest x).queue.items = rest ++ [x] := rfl

@[simp] theorem append_items (q : BoundedQueue α) (x : α) :
    (q.append x).items = q.items ++ [x] := rfl

/-- The channel `c'` is `c` after an effect. -/
inductive Follows (c : Channel α) : Effect α → Channel α → Prop where
  | nothing {c' : Channel α} (h : Same c c') : Follows c .nothing c'
  | stored {c' : Channel α} (x : α) (space : c.queue.isFull = false)
    (h : Same ({ c with queue := c.queue.append x }.setLength (c.length + 1)) c') :
    Follows c (.offered x .stored) c'
  | evicted {c' : Channel α} (x old : α) (rest : List α) (mode : c.queue.mode = .dropOldest)
    (full : c.queue.isFull = true) (items : c.queue.items = old :: rest)
    (h : Same (c.evict rest x) c') : Follows c (.offered x (.evicted old)) c'
  | refused {c' : Channel α} (x : α) (mode : c.queue.mode ≠ .dropOldest)
    (full : c.queue.isFull = true) (h : Same c.countDrop c') : Follows c (.offered x .refused) c'
  | taken {c' : Channel α} (x : α) (rest : List α) (items : c.queue.items = x :: rest)
    (h : Same ({ c with queue := { c.queue with items := rest } }.setLength (c.length - 1)) c') :
    Follows c (.taken x) c'

/-- Who waits before and after an effect does not matter to it. -/
theorem Follows.of_same {c d c' d' : Channel α} {e : Effect α} (h : Follows d e d') (hc : Same c d)
    (hc' : Same d' c') : Follows c e c' := by
  obtain ⟨q, n, i, s, m⟩ := c
  obtain ⟨q', n', i', s', m'⟩ := d
  obtain ⟨rfl, rfl, rfl⟩ : q' = q ∧ n' = n ∧ m' = m := ⟨hc.queue, hc.length, hc.metrics⟩
  cases h with
  | nothing h => exact .nothing ((hc.trans h).trans hc')
  | stored x space h =>
    obtain ⟨hq, hn, hm⟩ := h.trans hc'
    exact .stored x space ⟨hq, hn, hm⟩
  | evicted x old rest mode full items h =>
    obtain ⟨hq, hn, hm⟩ := h.trans hc'
    exact .evicted x old rest mode full items ⟨hq, hn, hm⟩
  | refused x mode full h =>
    obtain ⟨hq, hn, hm⟩ := h.trans hc'
    exact .refused x mode full ⟨hq, hn, hm⟩
  | taken x rest items h =>
    obtain ⟨hq, hn, hm⟩ := h.trans hc'
    exact .taken x rest items ⟨hq, hn, hm⟩

/-! ## One lemma for each operation

Taking a ticket, giving it back and notifying somebody change nothing but who waits
(`Channel.Same`), so an operation has the effect of the push or pop in it, and a turn that ends in
waiting has none. -/

theorem isFull_iff (q : BoundedQueue α) : q.isFull = true ↔ q.capacity ≤ q.items.length := by
  simp [BoundedQueue.isFull]

theorem isFull_of_pushIfSpace?_eq_none {q : BoundedQueue α} {x : α} (h : q.pushIfSpace? x = none) :
    q.isFull = true := by
  cases space : q.isFull with
  | true => rfl
  | false => simp [BoundedQueue.pushIfSpace?, space] at h

theorem tryEnqueue_follows (c : Channel α) (x : α) :
    Follows c (.offered x (c.tryEnqueue x).1) (c.tryEnqueue x).2 := by
  by_cases full : c.queue.isFull = true
  · cases items : c.queue.items with
    | nil =>
      -- a full queue holds at least one item, because a capacity is positive
      have h := (isFull_iff c.queue).mp full
      have := c.queue.capacity_pos
      rw [items, List.length_nil] at h
      omega
    | cons old rest =>
      cases mode : c.queue.mode with
      | dropOldest =>
        have h : c.queue.push x = (.evicted old, { c.queue with items := rest ++ [x] }) := by
          simp [BoundedQueue.push, full, mode, items]
        rw [tryEnqueue, h]
        exact .evicted x old rest mode full items ⟨rfl, rfl, rfl⟩
      | dropNewest | block =>
        have h : c.queue.push x = (.refused, c.queue) := by
          simp [BoundedQueue.push, full, mode]
        rw [tryEnqueue, h]
        exact .refused x (by simp [mode]) full ⟨rfl, rfl, rfl⟩
  · rw [Bool.not_eq_true] at full
    have h : c.queue.push x = (.stored, c.queue.append x) := by simp [BoundedQueue.push, full]
    rw [tryEnqueue, h]
    exact .stored x full ⟨rfl, rfl, rfl⟩

theorem pushIfSpace?_follows {c c' : Channel α} {x : α} (h : c.pushIfSpace? x = some c') :
    Follows c (.offered x .stored) c' := by
  by_cases full : c.queue.isFull = true
  · simp [pushIfSpace?, BoundedQueue.pushIfSpace?, full] at h
  · rw [Bool.not_eq_true] at full
    simp only [pushIfSpace?, BoundedQueue.pushIfSpace?, full, Bool.false_eq_true, if_false,
      Option.map_some, Option.some_inj] at h
    subst h
    exact .stored x full ⟨rfl, rfl, rfl⟩

theorem tryDequeue?_follows {c c' : Channel α} {x : α} (h : c.tryDequeue? = some (x, c')) :
    Follows c (.taken x) c' := by
  cases items : c.queue.items with
  | nil => simp [tryDequeue?, BoundedQueue.pop?, items] at h
  | cons y rest =>
    simp only [tryDequeue?, BoundedQueue.pop?, items, Option.map_some, Option.some_inj,
      Prod.mk.injEq] at h
    obtain ⟨rfl, rfl⟩ := h
    exact .taken y rest items ⟨rfl, rfl, rfl⟩

/-- What a stretch of a producer with the item `x` does, when it is through and when it waits. -/
def Turn.offers (c : Channel α) (x : α) : Turn α (Pushed α) → Prop
  | .done p c' => Follows c (.offered x p) c'
  | .parked c' => Same c c'

/-- What a stretch of a consumer does, when it is through and when it waits. -/
def Turn.takes (c : Channel α) : Turn α α → Prop
  | .done x c' => Follows c (.taken x) c'
  | .parked c' => Same c c'

theorem enqueueTurn_offers (c : Channel α) (ticket : Nat) (x : α) :
    (c.enqueueTurn ticket x).offers c x := by
  rw [enqueueTurn]
  split
  · dsimp only
    split
    · rename_i c' h
      exact (pushIfSpace?_follows h).of_same ⟨rfl, rfl, rfl⟩ ⟨rfl, rfl, rfl⟩
    · exact ⟨rfl, rfl, rfl⟩
  · exact tryEnqueue_follows c x

/-- Whether a stretch of a producer waits is decided by the mode: it waits only for a full queue
that lets producers wait, and such a queue neither evicts nor refuses. -/
def Turn.Heeds (c : Channel α) : Turn α (Pushed α) → Prop
  | .done p _ => c.queue.mode = .block → p = .stored
  | .parked _ => c.queue.mode = .block ∧ c.queue.isFull = true

theorem enqueueTurn_heeds (c : Channel α) (ticket : Nat) (x : α) :
    (c.enqueueTurn ticket x).Heeds c := by
  rw [enqueueTurn]
  split
  · rename_i blocks
    dsimp only
    split
    · exact fun _ ↦ rfl
    · rename_i h
      refine ⟨blocks, isFull_of_pushIfSpace?_eq_none (x := x) ?_⟩
      simpa only [pushIfSpace?, Option.map_eq_none_iff] using h
  · rename_i blocks
    exact fun h ↦ absurd h blocks

theorem dequeueTurn_takes (c : Channel α) (ticket : Nat) : (c.dequeueTurn ticket).takes c := by
  rw [dequeueTurn]
  split
  · rename_i x c' h
    exact (tryDequeue?_follows h).of_same ⟨rfl, rfl, rfl⟩ ⟨rfl, rfl, rfl⟩
  · exact ⟨rfl, rfl, rfl⟩

theorem Turn.offers.of_same {c d : Channel α} {x : α} {t : Turn α (Pushed α)} (h : t.offers d x)
    (hc : Same c d) : t.offers c x := by
  cases t with
  | done p c' => exact Follows.of_same h hc (.refl c')
  | parked c' => exact hc.trans h

theorem Turn.takes.of_same {c d : Channel α} {t : Turn α α} (h : t.takes d) (hc : Same c d) :
    t.takes c := by
  cases t with
  | done x c' => exact Follows.of_same h hc (.refl c')
  | parked c' => exact hc.trans h

theorem resumeEnqueue_cancelled {c c' : Channel α} {ticket : Nat} {fired : Bool} {x : α}
    (h : c.resumeEnqueue ticket fired x = .cancelled c') : Same c c' := by
  rw [resumeEnqueue] at h
  split at h
  · cases h; exact ⟨rfl, rfl, rfl⟩
  · split at h <;> cases h

theorem resumeEnqueue_turn {c : Channel α} {ticket : Nat} {fired : Bool} {x : α}
    {t : Turn α (Pushed α)} (h : c.resumeEnqueue ticket fired x = .turn t) : t.offers c x := by
  rw [resumeEnqueue] at h
  split at h
  · cases h
  · split at h
    · cases h
      exact (enqueueTurn_offers _ ticket x).of_same ⟨rfl, rfl, rfl⟩
    · cases h

/-- A waiting producer goes on when its ticket has fired and its token has not. -/
theorem resumeEnqueue_heeds {c : Channel α} {ticket : Nat} {fired : Bool} {x : α}
    {t : Turn α (Pushed α)} (h : c.resumeEnqueue ticket fired x = .turn t) :
    fired = false ∧ t.Heeds c := by
  rw [resumeEnqueue] at h
  split at h
  · cases h
  · rename_i unfired
    split at h
    · cases h
      exact ⟨Bool.not_eq_true _ ▸ unfired,
        enqueueTurn_heeds { c with space := c.space.consume ticket } ticket x⟩
    · cases h

theorem resumeDequeue_cancelled {c c' : Channel α} {ticket : Nat} {fired : Bool}
    (h : c.resumeDequeue ticket fired = .cancelled c') : Same c c' := by
  rw [resumeDequeue] at h
  split at h
  · cases h; exact ⟨rfl, rfl, rfl⟩
  · split at h <;> cases h

theorem resumeDequeue_turn {c : Channel α} {ticket : Nat} {fired : Bool} {t : Turn α α}
    (h : c.resumeDequeue ticket fired = .turn t) : t.takes c := by
  rw [resumeDequeue] at h
  split at h
  · cases h
  · split at h
    · cases h
      exact (dequeueTurn_takes _ ticket).of_same ⟨rfl, rfl, rfl⟩
    · cases h

/-! ## What holds after every effect

The queue stays within its capacity, and observers see its length. -/

/-- The queue is within its capacity, and observers see its length. -/
structure Consistent (c : Channel α) : Prop where
  bounded : c.queue.items.length ≤ c.queue.capacity
  length : c.length = c.queue.items.length
  gauge : c.metrics.queueLength = c.queue.items.length.toUInt64

theorem Consistent.of_same {c c' : Channel α} (h : c.Consistent) (hc : Same c c') :
    c'.Consistent := by
  obtain ⟨hq, hn, hm⟩ := hc
  exact ⟨by rw [hq]; exact h.bounded, by rw [hq, hn]; exact h.length, by rw [hq, hm]; exact h.gauge⟩

/-- **The length that observers see stays that of the queue.** -/
theorem Follows.consistent {c c' : Channel α} {e : Effect α} (h : Follows c e c')
    (hc : c.Consistent) : c'.Consistent := by
  have hlen := hc.length
  cases h with
  | nothing h => exact hc.of_same h
  -- The length is set to the number of items where one goes in or out, and stays where one replaces
  -- another.
  | stored x space h =>
    have hspace : c.queue.items.length < c.queue.capacity := by
      rw [← Bool.not_eq_true, isFull_iff] at space; omega
    refine Consistent.of_same ⟨?_, ?_, ?_⟩ h
    · simpa [setLength, BoundedQueue.append] using Nat.succ_le_of_lt hspace
    · simpa [setLength, BoundedQueue.append] using hlen
    · simp [setLength, BoundedQueue.append, hlen]
  | evicted x old rest mode full items h =>
    have hb := hc.bounded
    have hg := hc.gauge
    rw [items, List.length_cons] at hb hg hlen
    refine Consistent.of_same ⟨?_, ?_, ?_⟩ h
    · simpa [evict, countDrop] using hb
    · simpa [evict, countDrop] using hlen
    · simpa [evict, countDrop] using hg
  | refused x mode full h =>
    have hd : c.countDrop.Consistent := ⟨hc.bounded, hlen, hc.gauge⟩
    exact hd.of_same h
  | taken x rest items h =>
    have hb := hc.bounded
    rw [items, List.length_cons] at hb hlen
    refine Consistent.of_same ⟨?_, ?_, ?_⟩ h
    · exact Nat.le_of_succ_le hb
    · simp [setLength, hlen]
    · simp [setLength, hlen]

theorem Follows.capacity {c c' : Channel α} {e : Effect α} (h : Follows c e c') :
    c'.queue.capacity = c.queue.capacity := by
  cases h <;> rename_i h <;> rw [h.queue] <;> rfl

theorem Follows.mode {c c' : Channel α} {e : Effect α} (h : Follows c e c') :
    c'.queue.mode = c.queue.mode := by
  cases h <;> rename_i h <;> rw [h.queue] <;> rfl

/-! ## What becomes of the items

Each effect says which items it puts in, keeps out, evicts and hands over.  The account of
`MetricsAgent.Proofs.Channel.Order` is kept by every one of them. -/

namespace Effect

/-- The item that an effect puts into the queue. -/
def accepted? : Effect α → Option α
  | offered _ .refused => none
  | offered x _ => some x
  | _ => none

/-- The item that an effect keeps out of the queue. -/
def refused? : Effect α → Option α
  | offered x .refused => some x
  | _ => none

/-- The item that an effect evicts. -/
def evicted? : Effect α → Option α
  | offered _ (.evicted old) => some old
  | _ => none

/-- The item that an effect hands over. -/
def taken? : Effect α → Option α
  | taken x => some x
  | _ => none

/-- The number of items that an effect refuses or evicts. -/
def drops (e : Effect α) : Nat := e.refused?.toList.length + e.evicted?.toList.length

end Effect

theorem Follows.dropped {c c' : Channel α} {e : Effect α} (h : Follows c e c') :
    c'.metrics.dropped = c.metrics.dropped + e.drops.toUInt64 := by
  cases h <;> rename_i h <;> rw [h.metrics] <;>
    simp [Effect.drops, Effect.refused?, Effect.evicted?, setLength, countDrop, evict]

/-- **An effect keeps the account of the queue.** -/
theorem Follows.passThrough {c c' : Channel α} {e : Effect α} (h : Follows c e c')
    {accepted evicted taken : List α}
    (hp : Fifo.PassThrough accepted evicted taken c.queue.items) :
    Fifo.PassThrough (accepted ++ e.accepted?.toList) (evicted ++ e.evicted?.toList)
      (taken ++ e.taken?.toList) c'.queue.items := by
  cases h with
  | nothing h =>
    rw [h.queue]
    simpa [Effect.accepted?, Effect.evicted?, Effect.taken?] using hp
  | stored x space h =>
    rw [h.queue]
    simpa [Effect.accepted?, Effect.evicted?, Effect.taken?] using hp.accept x
  | evicted x old rest mode full items h =>
    rw [h.queue]
    rw [items] at hp
    simpa [Effect.accepted?, Effect.evicted?, Effect.taken?] using hp.evict.accept x
  | refused x mode full h =>
    rw [h.queue]
    simpa [Effect.accepted?, Effect.evicted?, Effect.taken?] using hp
  | taken x rest items h =>
    rw [h.queue]
    rw [items] at hp
    simpa [Effect.accepted?, Effect.evicted?, Effect.taken?] using hp.take

/-- **Only a full queue that evicts its oldest items evicts, and then it evicts the oldest.** -/
theorem Follows.evicted?_eq {c c' : Channel α} {e : Effect α} (h : Follows c e c') {old : α}
    (he : e.evicted? = some old) :
    c.queue.mode = .dropOldest ∧ c.queue.capacity ≤ c.queue.items.length ∧
      ∃ x rest, e.accepted? = some x ∧ c.queue.items = old :: rest ∧
        c'.queue.items = rest ++ [x] := by
  cases h with
  | nothing h => simp [Effect.evicted?] at he
  | stored x space h => simp [Effect.evicted?] at he
  | evicted x old' rest mode full items h =>
    obtain rfl : old' = old := by simpa [Effect.evicted?] using he
    exact ⟨mode, (isFull_iff c.queue).mp full, x, rest, rfl, items, by rw [h.queue, evict_items]⟩
  | refused x mode full h => simp [Effect.evicted?] at he
  | taken x rest items h => simp [Effect.evicted?] at he

end Channel

end MetricsAgent
