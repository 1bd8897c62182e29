import Mathlib.Data.List.Forall2
import MetricsAgent.Proofs.Counter
import MetricsAgent.Proofs.Push.Course

/-!
# What a sender does with its batches

The history of a pipeline tells which envelopes were accepted and evicted, which batches were
drained, and how the ticks with a batch ended.  `Sender.Effect` lists what a turn of the sender adds
to that, with what belongs to it in the queue and in the metrics: nothing, a drained batch, or the
end of one.  `Sender.step_effect` says that every turn is one of these.

This is the one place at which the turns of a sender are taken apart for the sake of batches and
counters.  What is proved from it (that no envelope is lost, that the counters agree with the
outcomes, what a flush posts) does not look into the turns again.

What ends a batch is told by `Sender.Settles`, with the change of the metrics that goes with it: a
batch that was sent or has failed is recorded with its size, and one that is abandoned is not
recorded at all.
-/

set_option autoImplicit false

namespace MetricsAgent

/-! ## What the history tells

The events about envelopes and batches are picked out of the history by four partial functions.  An
event that none of them picks is silent, and the lists do not change with it. -/

namespace PushEvent

/-- The envelope that went into the queue. -/
def accepted? : PushEvent → Option Envelope
  | accepted e => some e
  | _ => none

/-- The envelope that was evicted from the queue. -/
def evicted? : PushEvent → Option Envelope
  | evicted e => some e
  | _ => none

/-- The batch that was taken out of the queue. -/
def drained? : PushEvent → Option (List Envelope)
  | drained batch => some batch
  | _ => none

/-- How a tick ended that had a batch. -/
def settled? : PushEvent → Option TickOutcome
  | ticked .idle => none
  | ticked o => some o
  | _ => none

/-- Whether an event is about no envelopes in the queue and no batch as a whole. -/
def isSilent : PushEvent → Bool
  | accepted _ | evicted _ | drained _ => false
  | ticked o => o = .idle
  | _ => true

theorem of_isSilent {e : PushEvent} (h : e.isSilent = true) :
    e.accepted? = none ∧ e.evicted? = none ∧ e.drained? = none ∧ e.settled? = none := by
  cases e with
  | accepted | evicted | drained => simp [isSilent] at h
  | ticked o =>
    obtain rfl : o = .idle := by simpa [isSilent] using h
    exact ⟨rfl, rfl, rfl, rfl⟩
  | _ => exact ⟨rfl, rfl, rfl, rfl⟩

end PushEvent

namespace PushState

variable {σ : Type}

/-- The accepted envelopes, in order. -/
def accepted (p : PushState σ) : List Envelope := p.events.filterMap PushEvent.accepted?

/-- The evicted envelopes, in order. -/
def evicted (p : PushState σ) : List Envelope := p.events.filterMap PushEvent.evicted?

/-- The drained batches, in order. -/
def drained (p : PushState σ) : List (List Envelope) := p.events.filterMap PushEvent.drained?

/-- How the ticks ended that had a batch, in order. -/
def settled (p : PushState σ) : List TickOutcome := p.events.filterMap PushEvent.settled?

/-- Nothing is said between two states about envelopes and batches but for the events `es` at the
end. -/
def Tells (p p' : PushState σ) (es : List PushEvent) : Prop :=
  ∃ silent, p'.events = p.events ++ silent ++ es ∧ ∀ e ∈ silent, e.isSilent = true

/-- More is said that is not about envelopes and batches. -/
theorem Tells.trans {p q r : PushState σ} {es : List PushEvent} (h : Tells p q [])
    (h' : Tells q r es) : Tells p r es := by
  obtain ⟨l, hl, hs⟩ := h
  obtain ⟨l', hl', hs'⟩ := h'
  refine ⟨l ++ l', by rw [hl', hl]; simp, fun e he ↦ ?_⟩
  rcases List.mem_append.mp he with he | he
  · exact hs e he
  · exact hs' e he

theorem filterMap_eq_nil_of_isSilent {β : Type} {f : PushEvent → Option β} {l : List PushEvent}
    (hf : ∀ e : PushEvent, e.isSilent = true → f e = none) (hl : ∀ e ∈ l, e.isSilent = true) :
    l.filterMap f = [] :=
  List.filterMap_eq_nil_iff.mpr fun e he ↦ hf e (hl e he)

theorem Tells.filterMap {p p' : PushState σ} {es : List PushEvent} (h : Tells p p' es) {β : Type}
    {f : PushEvent → Option β} (hf : ∀ e : PushEvent, e.isSilent = true → f e = none) :
    p'.events.filterMap f = p.events.filterMap f ++ es.filterMap f := by
  obtain ⟨silent, he, hs⟩ := h
  rw [he, List.filterMap_append, List.filterMap_append, filterMap_eq_nil_of_isSilent hf hs,
    List.append_nil]

variable {p p' : PushState σ} {es : List PushEvent}

theorem Tells.accepted (h : Tells p p' es) :
    p'.accepted = p.accepted ++ es.filterMap PushEvent.accepted? :=
  h.filterMap fun _ he ↦ (PushEvent.of_isSilent he).1

theorem Tells.evicted (h : Tells p p' es) :
    p'.evicted = p.evicted ++ es.filterMap PushEvent.evicted? :=
  h.filterMap fun _ he ↦ (PushEvent.of_isSilent he).2.1

theorem Tells.drained (h : Tells p p' es) :
    p'.drained = p.drained ++ es.filterMap PushEvent.drained? :=
  h.filterMap fun _ he ↦ (PushEvent.of_isSilent he).2.2.1

theorem Tells.settled (h : Tells p p' es) :
    p'.settled = p.settled ++ es.filterMap PushEvent.settled? :=
  h.filterMap fun _ he ↦ (PushEvent.of_isSilent he).2.2.2

end PushState

/-! ## What the metrics tell

The metrics about batches are a function of the outcomes, in order, since the size of the latest
batch is among them. -/

/-- The metrics about batches that were sent or have failed. -/
structure SendFigures where
  sent : UInt64
  exportOk : UInt64
  exportError : UInt64
  sendFailures : UInt64
  lastBatchSize : UInt64
  duration : LatencyHistogram

/-- The figures of a sender. -/
def SelfMetrics.sendFigures (m : SelfMetrics) : SendFigures :=
  ⟨m.sent, m.exportOk, m.exportError, m.sendFailures, m.lastBatchSize, m.exportDuration⟩

theorem Channel.Follows.sendFigures {α : Type} {c c' : Channel α} {e : Channel.Effect α}
    (h : c.Follows e c') : c'.metrics.sendFigures = c.metrics.sendFigures := by
  cases h <;> rename_i h <;> rw [h.metrics] <;> rfl

theorem Channel.Follows.retries {α : Type} {c c' : Channel α} {e : Channel.Effect α}
    (h : c.Follows e c') : c'.metrics.retries = c.metrics.retries := by
  cases h <;> rename_i h <;> rw [h.metrics] <;> rfl

namespace TickOutcome

/-- The size of a batch that was sent. -/
def sent? : TickOutcome → Option Nat
  | sent n => some n
  | _ => none

/-- The size of a batch that has failed. -/
def failed? : TickOutcome → Option Nat
  | failed n => some n
  | _ => none

/-- The size of a batch that was sent or has failed. -/
def size? : TickOutcome → Option Nat
  | sent n | failed n => some n
  | _ => none

/-- The sizes of the batches that were sent, together. -/
def sentTotal : List TickOutcome → Nat
  | [] => 0
  | o :: os => o.sent?.getD 0 + sentTotal os

theorem sentTotal_append (os : List TickOutcome) (o : TickOutcome) :
    sentTotal (os ++ [o]) = sentTotal os + o.sent?.getD 0 := by
  induction os with
  | nil => exact Nat.add_comm _ _
  | cons p os ih => rw [List.cons_append, sentTotal, sentTotal, ih, Nat.add_assoc]

/-- The number of batches that were sent. -/
def sentCount (os : List TickOutcome) : Nat := os.countP (·.sent?.isSome)

/-- The number of batches that have failed. -/
def failedCount (os : List TickOutcome) : Nat := os.countP (·.failed?.isSome)

/-- The size of the latest batch that was sent or has failed. -/
def lastSize? (os : List TickOutcome) : Option Nat := (os.filterMap size?).getLast?

theorem lastSize?_append (os : List TickOutcome) (o : TickOutcome) :
    lastSize? (os ++ [o]) = o.size?.or (lastSize? os) := by
  cases h : o.size? <;> simp [lastSize?, List.filterMap_append, h]

theorem sentCount_append (os : List TickOutcome) (o : TickOutcome) :
    sentCount (os ++ [o]) = sentCount os + if o.sent?.isSome then 1 else 0 := by
  simp [sentCount, List.countP_singleton]

theorem failedCount_append (os : List TickOutcome) (o : TickOutcome) :
    failedCount (os ++ [o]) = failedCount os + if o.failed?.isSome then 1 else 0 := by
  simp [failedCount, List.countP_singleton]

end TickOutcome

open TickOutcome

/-- The metrics `m` are the metrics `m₀` after ticks that ended with `os`. -/
structure Tallies (m₀ : SelfMetrics) (os : List TickOutcome) (m : SelfMetrics) : Prop where
  sent : m.sent = m₀.sent + (sentTotal os).toUInt64
  exportOk : m.exportOk = m₀.exportOk + (sentCount os).toUInt64
  exportError : m.exportError = m₀.exportError + (failedCount os).toUInt64
  sendFailures : m.sendFailures = m₀.sendFailures + (failedCount os).toUInt64
  exportDuration : m.exportDuration.count =
    m₀.exportDuration.count + (sentCount os + failedCount os).toUInt64
  lastBatchSize : m.lastBatchSize = ((lastSize? os).map (·.toUInt64)).getD m₀.lastBatchSize

namespace Tallies

variable {m₀ m m' : SelfMetrics} {os : List TickOutcome}

theorem start (m : SelfMetrics) : Tallies m [] m := by
  constructor <;> simp [sentTotal, sentCount, failedCount, lastSize?]

theorem of_sendFigures (h : Tallies m₀ os m) (e : m'.sendFigures = m.sendFigures) :
    Tallies m₀ os m' := by
  simp only [SelfMetrics.sendFigures, SendFigures.mk.injEq] at e
  obtain ⟨hs, ho, he, hf, hl, hd⟩ := e
  exact ⟨hs ▸ h.sent, ho ▸ h.exportOk, he ▸ h.exportError, hf ▸ h.sendFailures,
    hd ▸ h.exportDuration, hl ▸ h.lastBatchSize⟩

/-- A batch was sent. -/
theorem succeed (h : Tallies m₀ os m) (n : Nat) (d : Duration) :
    Tallies m₀ (os ++ [.sent n]) (m.recordExport .ok n d) where
  sent := by rw [sentTotal_append]; exact Counter.add h.sent n
  exportOk := by rw [sentCount_append]; exact Counter.succ h.exportOk
  exportError := by rw [failedCount_append]; exact h.exportError
  sendFailures := by rw [failedCount_append]; exact h.sendFailures
  exportDuration := by
    rw [sentCount_append, failedCount_append, Nat.add_right_comm]
    exact Counter.succ h.exportDuration
  lastBatchSize := by rw [lastSize?_append]; rfl

/-- A batch has failed. -/
theorem fail (h : Tallies m₀ os m) (n : Nat) (d : Duration)
    (e : m' = { m.recordExport .error n d with
      sendFailures := (m.recordExport .error n d).sendFailures + 1 }) :
    Tallies m₀ (os ++ [.failed n]) m' where
  sent := by rw [sentTotal_append, e]; exact h.sent
  exportOk := by rw [sentCount_append, e]; exact h.exportOk
  exportError := by rw [failedCount_append, e]; exact Counter.succ h.exportError
  sendFailures := by rw [failedCount_append, e]; exact Counter.succ h.sendFailures
  exportDuration := by
    rw [sentCount_append, failedCount_append, e]
    exact Counter.succ h.exportDuration
  lastBatchSize := by rw [lastSize?_append, e]; rfl

/-- A batch was abandoned. -/
theorem cancel (h : Tallies m₀ os m) : Tallies m₀ (os ++ [.cancelled]) m where
  sent := by rw [sentTotal_append]; exact h.sent
  exportOk := by rw [sentCount_append]; exact h.exportOk
  exportError := by rw [failedCount_append]; exact h.exportError
  sendFailures := by rw [failedCount_append]; exact h.sendFailures
  exportDuration := by rw [sentCount_append, failedCount_append]; exact h.exportDuration
  lastBatchSize := by rw [lastSize?_append]; exact h.lastBatchSize

end Tallies

/-! ## What a turn of the sender does

A turn is related to the phases before and after it, because the batch that is underway belongs to
the phase. -/

namespace Sender

/-- The batch that is underway. -/
def Phase.batch? : Phase → Option (List Envelope)
  | .deciding job | .submitting job .. | .flushing job .. | .backingOff job _ => some job.batch
  | _ => none

/-- The error with which the call in progress ends. -/
def Phase.failure? : Phase → Option ExportError
  | .submitting _ _ _ _ (.error e) | .flushing _ _ (.error e) => some e
  | _ => none

/-- Whether a turn is the beginning of a delay after a transient failure. -/
def backsOff {σ : Type} (s : SenderSetup σ) (φ φ' : Phase) : Bool :=
  match φ', φ.failure? with
  | .backingOff .., some e => s.isTransient e
  | _, _ => false

/-- How a batch ends, and what becomes of the metrics. -/
inductive Settles (batch : List Envelope) (m : SelfMetrics) : TickOutcome → SelfMetrics → Prop where
  | sent (d : Duration) : Settles batch m (.sent batch.length) (m.recordExport .ok batch.length d)
  | failed (d : Duration) : Settles batch m (.failed batch.length)
    { m.recordExport .error batch.length d with
      sendFailures := (m.recordExport .error batch.length d).sendFailures + 1 }
  | cancelled : Settles batch m .cancelled m

variable {σ : Type}

/-- What a turn of the sender does. -/
inductive Effect (s : SenderSetup σ) (φ : Phase) (p : PushState σ) (φ' : Phase) (p' : PushState σ) :
    Prop where
  /-- The same batch is underway as before. -/
  | goes (batch : φ'.batch? = φ.batch?) (queue : p'.channel.queue = p.channel.queue)
    (figures : p'.channel.metrics.sendFigures = p.channel.metrics.sendFigures)
    (retries : p'.channel.metrics.retries =
      p.channel.metrics.retries + if backsOff s φ φ' then 1 else 0)
    (tells : p.Tells p' [])
  /-- A batch is drained. -/
  | drains (job : Job) (batch : φ.batch? = none) (next : φ' = .deciding job)
    (size : 1 ≤ job.batch.length ∧ job.batch.length ≤ s.maxBatchSize)
    (queue : p'.channel.queue = { p.channel.queue with items := p'.channel.queue.items })
    (items : p.channel.queue.items = job.batch ++ p'.channel.queue.items)
    (figures : p'.channel.metrics.sendFigures = p.channel.metrics.sendFigures)
    (retries : p'.channel.metrics.retries = p.channel.metrics.retries)
    (tells : p.Tells p' [.drained job.batch])
  /-- The batch that was underway comes to its end. -/
  | settles (batch : List Envelope) (o : TickOutcome) (before : φ.batch? = some batch)
    (next : φ' = .ticked o) (queue : p'.channel.queue = p.channel.queue)
    (ends : Settles batch p.channel.metrics o p'.channel.metrics)
    (retries : p'.channel.metrics.retries = p.channel.metrics.retries)
    (tells : p.Tells p' [.ticked o])

theorem eq_of_some {r : Phase × PushState σ} {φ : Phase} {p : PushState σ}
    (h : some r = some (φ, p)) : φ = r.1 ∧ p = r.2 := by
  rw [Option.some.inj h]
  exact ⟨rfl, rfl⟩

/-- Draining takes envelopes off the front of the queue, and changes nothing else of it. -/
theorem drain_spec (n : Nat) (c : Channel Envelope) :
    c.queue.items = (drain n c).1 ++ (drain n c).2.queue.items ∧ (drain n c).1.length ≤ n ∧
      (drain n c).2.queue = { c.queue with items := (drain n c).2.queue.items } ∧
      (drain n c).2.metrics.sendFigures = c.metrics.sendFigures ∧
      (drain n c).2.metrics.retries = c.metrics.retries := by
  induction n generalizing c with
  | zero => simp [drain]
  | succ n ih =>
    cases h : c.tryDequeue? with
    | none => simp [drain, h]
    | some q =>
      obtain ⟨e, d⟩ := q
      simp only [drain, h]
      have hf := Channel.tryDequeue?_follows h
      obtain ⟨hq, hl, hm, hs, hr⟩ := ih d
      cases hf with
      | taken e rest items same =>
        refine ⟨?_, Nat.succ_le_succ hl, ?_, hs.trans ?_, hr.trans ?_⟩
        · rw [items, List.cons_append, ← hq, same.queue]
          rfl
        · rw [hm, same.queue]
          rfl
        · exact (Channel.Follows.taken e rest items same).sendFigures
        · exact (Channel.Follows.taken e rest items same).retries

/-! ## One lemma for each stretch

A stretch of the sender is made of a few functions, and each has a lemma of its own, from the
innermost to the outermost. -/

section Stretches

variable {s : SenderSetup σ} {φ : Phase} {p q : PushState σ} {job : Job}

theorem beginCall_effect (tells : p.Tells q []) (channel : q.channel = p.channel)
    (batch : φ.batch? = some job.batch) (rest : List Envelope) :
    Effect s φ p (beginCall s job rest q).1 (beginCall s job rest q).2 := by
  have h : p.Tells (beginCall s job rest q).2 [] :=
    tells.trans ⟨[], by cases rest <;> simp [beginCall, beginFlush] <;> rfl, by simp⟩
  cases rest with
  | nil =>
    exact .goes batch.symm (by rw [← channel]; rfl) (by rw [← channel]; rfl)
      (by rw [← channel]; exact (UInt64.add_zero _).symm) h
  | cons e rest =>
    exact .goes batch.symm (by rw [← channel]; rfl) (by rw [← channel]; rfl)
      (by rw [← channel]; exact (UInt64.add_zero _).symm) h

theorem abandon_effect (batch : φ.batch? = some job.batch) :
    Effect s φ p (abandon job p).1 (abandon job p).2 :=
  .settles job.batch .cancelled batch rfl rfl .cancelled rfl
    ⟨[.became .stopped], by simp [abandon, endTick], by simp [PushEvent.isSilent]⟩

theorem succeed_effect (tells : p.Tells q []) (channel : q.channel = p.channel)
    (batch : φ.batch? = some job.batch) : Effect s φ p (succeed job q).1 (succeed job q).2 := by
  refine .settles job.batch (.sent job.batch.length) batch rfl ?_ ?_ ?_ (tells.trans ?_)
  · rw [← channel]; rfl
  · rw [← channel]; exact .sent _
  · rw [← channel]; rfl
  · exact ⟨[.became .idle], by simp [succeed, endTick], by simp [PushEvent.isSilent]⟩

theorem fail_effect (tells : p.Tells q []) (channel : q.channel = p.channel)
    (batch : φ.batch? = some job.batch) : Effect s φ p (fail job q).1 (fail job q).2 := by
  refine .settles job.batch (.failed job.batch.length) batch rfl ?_ ?_ ?_ (tells.trans ?_)
  · rw [← channel]; rfl
  · rw [← channel]; exact .failed _
  · rw [← channel]; rfl
  · exact ⟨[.became .idle], by simp [fail, endTick], by simp [PushEvent.isSilent]⟩

theorem afterFailure_effect (tells : p.Tells q []) (channel : q.channel = p.channel)
    (batch : φ.batch? = some job.batch) {e : ExportError} (failure : φ.failure? = some e) :
    Effect s φ p (afterFailure s job e q).1 (afterFailure s job e q).2 := by
  cases decision : s.retry.decision job.retries (s.isTransient e) with
  | fatal | exhausted =>
    rw [afterFailure, decision]
    exact fail_effect tells channel batch
  | retry =>
    rw [afterFailure, decision]
    have transient : s.isTransient e = true := by
      cases h : s.isTransient e with
      | true => rfl
      | false => simp [RetryPolicy.decision, h] at decision
    refine .goes batch.symm ?_ ?_ ?_ (tells.trans ?_)
    · rw [← channel]; rfl
    · rw [← channel]; rfl
    · simp only [backsOff, failure, transient, if_true, ← channel]
      rfl
    · exact ⟨[.became .retryWait, .backoff (s.retry.backoff q.asked (job.retries + 1))], by simp,
        by simp [PushEvent.isSilent]⟩

theorem draining_effect {once fired : Bool} {φ' : Phase} {p' : PushState σ}
    (h : step s once fired .draining p = some (φ', p')) : Effect s .draining p φ' p' := by
  have spec := drain_spec s.maxBatchSize p.channel
  cases hd : drain s.maxBatchSize p.channel with
  | mk batch c =>
    rw [hd] at spec
    obtain ⟨items, size, queue, figures, retries⟩ := spec
    simp only [step, PushState.channel_become, hd] at h
    cases batch with
    | nil =>
      cases h
      -- An empty drain leaves the queue as it is: nothing stood before what remains.
      refine .goes rfl ?_ figures (retries.trans (UInt64.add_zero _).symm)
        ⟨[.became .draining, .became .idle],
          by simp [PushState.events, PushState.become, PushState.note],
          by simp [PushEvent.isSilent]⟩
      rw [List.nil_append] at items
      exact queue.trans (by rw [← items])
    | cons e batch =>
      cases h
      exact .drains _ rfl rfl ⟨Nat.succ_pos _, size⟩ queue items figures retries
        ⟨[.became .draining], by simp [PushState.events, PushState.become, PushState.note],
          by simp [PushEvent.isSilent]⟩

/-- **What a turn of the sender does.** -/
theorem step_effect {once fired : Bool} {φ' : Phase} {p' : PushState σ}
    (h : step s once fired φ p = some (φ', p')) : Effect s φ p φ' p' := by
  have none_added (m : SelfMetrics) : m.retries = m.retries + if false then 1 else 0 :=
    (UInt64.add_zero _).symm
  cases φ with
  | looping =>
    cases fired <;> simp only [step, Option.some_inj, Prod.mk.injEq, if_true, Bool.false_eq_true,
      if_false] at h <;> obtain ⟨rfl, rfl⟩ := h
    · exact .goes rfl rfl rfl (none_added _) ⟨[], by simp, by simp⟩
    · exact .goes rfl rfl rfl (none_added _)
        ⟨[.became .stopped], by simp, by simp [PushEvent.isSilent]⟩
  | draining => exact draining_effect h
  | napping t =>
    simp only [step, Option.ite_none_right_eq_some, Option.some_inj, endTick, Prod.mk.injEq] at h
    obtain ⟨-, rfl, rfl⟩ := h
    exact .goes rfl rfl rfl (none_added _) ⟨[.ticked .idle], by simp, by simp [PushEvent.isSilent]⟩
  | deciding job =>
    simp only [step] at h
    split at h
    · obtain ⟨rfl, rfl⟩ := eq_of_some h
      exact abandon_effect rfl
    · have tells : p.Tells ((p.become .sending).note .attempt) [] :=
        ⟨[.became .sending, .attempt], by simp, by simp [PushEvent.isSilent]⟩
      obtain ⟨rfl, rfl⟩ := eq_of_some h
      exact beginCall_effect tells rfl rfl job.batch
  | submitting job e rest t result =>
    simp only [step, Option.ite_none_left_eq_some] at h
    obtain ⟨-, h⟩ := h
    have tells : p.Tells (p.note (.submitted e result)) [] :=
      ⟨[.submitted e result], by simp, by simp [PushEvent.isSilent]⟩
    cases result with
    | ok =>
      obtain ⟨rfl, rfl⟩ := eq_of_some h
      exact beginCall_effect tells rfl rfl rest
    | error err =>
      obtain ⟨rfl, rfl⟩ := eq_of_some h
      exact afterFailure_effect tells rfl rfl rfl
  | flushing job t result =>
    simp only [step, Option.ite_none_left_eq_some] at h
    obtain ⟨-, h⟩ := h
    have tells : p.Tells (p.note (.flushed result)) [] :=
      ⟨[.flushed result], by simp, by simp [PushEvent.isSilent]⟩
    cases result with
    | ok =>
      obtain ⟨rfl, rfl⟩ := eq_of_some h
      exact succeed_effect tells rfl rfl
    | error err =>
      obtain ⟨rfl, rfl⟩ := eq_of_some h
      exact afterFailure_effect tells rfl rfl rfl
  | backingOff job t =>
    simp only [step] at h
    split at h
    · obtain ⟨rfl, rfl⟩ := eq_of_some h
      exact abandon_effect rfl
    · simp only [Option.ite_none_right_eq_some, Option.some_inj, Prod.mk.injEq] at h
      obtain ⟨-, rfl, rfl⟩ := h
      exact .goes rfl rfl rfl (none_added _) ⟨[], by simp, by simp⟩
  | ticked o =>
    cases once <;> simp [step] at h
    obtain ⟨rfl, rfl⟩ := h
    exact .goes rfl rfl rfl (none_added _) ⟨[], by simp, by simp⟩
  | stopped => simp [step] at h

end Stretches

end Sender

end MetricsAgent
