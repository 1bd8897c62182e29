import MetricsAgent.Proofs.Push.Shutdown

/-!
# What a running sender tells

The history of a pipeline tells what state a sender shows from when on, which calls it makes and
what it takes out of the queue.  `Sender.Stretch` lists what is told between two points at which a
running sender may have to wait, one constructor for each way to go on, and `Sender.step_stretch`
says that there is no other.  The state that is shown is always the last one that was told of.

`Stretch` differs from `Sender.Effect` in what it keeps of a stretch: here it is all events, in
order, and there the queue and the metrics.  Shutting down and the states are about events, and the
ledger of envelopes is about the queue.

An event fits those before it (`PushEvent.Fits`) when a call is told of in a state of its own, a
read in another, and a delay directly after a failure.  `PushEvent.InOrder` says this of all events
of a history.  Since it only looks at what came before, it can be proved for a stretch and then
carried along a run.
-/

set_option autoImplicit false

namespace MetricsAgent

/-! ## The history

Most events store no state.  The lemmas with `became?` are the two cases of one more event at the
end. -/

namespace PushEvent

/-- The state that is shown from now on. -/
def became? : PushEvent → Option SenderState
  | became x => some x
  | _ => none

/-- Whether something is told of an export. -/
def isOffer : PushEvent → Bool
  | accepted _ | evicted _ | refused _ => true
  | _ => false

/-- Whether a call has failed. -/
def isFailure : PushEvent → Bool
  | submitted _ (.error _) | flushed (.error _) => true
  | _ => false

/-- The states that are stored, in order. -/
def stores (es : List PushEvent) : List SenderState := es.filterMap became?

@[simp] theorem stores_append (es fs : List PushEvent) :
    stores (es ++ fs) = stores es ++ stores fs :=
  List.filterMap_append

theorem stores_cons_of_became?_eq_none {e : PushEvent} (h : e.became? = none)
    (es : List PushEvent) : stores (e :: es) = stores es :=
  List.filterMap_cons_none h

/-- The state that is shown in the end, if it was `x` at first. -/
def shown (x : SenderState) (es : List PushEvent) : SenderState := (stores es).getLastD x

theorem shown_append (x : SenderState) (es fs : List PushEvent) :
    shown x (es ++ fs) = shown (shown x es) fs := by
  simp [shown, List.getLastD_eq_getLast?, List.getLast?_append, Option.getD_or]

theorem shown_concat_became (x y : SenderState) (es : List PushEvent) :
    shown x (es ++ [.became y]) = y :=
  shown_append x es _

theorem shown_concat_of_became?_eq_none (x : SenderState) (es : List PushEvent) {e : PushEvent}
    (h : e.became? = none) : shown x (es ++ [e]) = shown x es := by
  simp [shown, stores, h]

/-- What an event asks of those before it: calls are made in a state of their own, and so are reads
of the queue, and a delay directly follows a failure. -/
def Fits (before : List PushEvent) : PushEvent → Prop
  | attempt | submitted .. | flushed _ => shown .idle before = .sending
  | drained _ => shown .idle before = .draining
  | became .retryWait => ∃ e, before.getLast? = some e ∧ e.isFailure = true
  | _ => True

/-- Every event fits those before it. -/
def InOrder (es : List PushEvent) : Prop :=
  ∀ before e after, es = before ++ e :: after → Fits before e

theorem InOrder.nil : InOrder [] := fun _ _ _ h ↦ by simp at h

theorem InOrder.concat {es : List PushEvent} {e : PushEvent} (h : InOrder es) (fits : Fits es e) :
    InOrder (es ++ [e]) := by
  intro before f after split
  rcases List.eq_nil_or_concat after with rfl | ⟨after, g, rfl⟩
  · obtain ⟨rfl, ⟨⟩⟩ := List.append_inj' split rfl
    exact fits
  · rw [List.concat_eq_append, ← List.cons_append, ← List.append_assoc] at split
    exact h before f after (List.append_inj_left' split rfl)

/-- What is told of exports fits everywhere. -/
theorem InOrder.append_offers {es fs : List PushEvent} (h : InOrder es)
    (offers : ∀ e ∈ fs, e.isOffer = true) : InOrder (es ++ fs) := by
  induction fs generalizing es with
  | nil => rwa [List.append_nil]
  | cons e fs ih =>
    have fits : Fits es e := by
      have offer := offers e List.mem_cons_self
      cases e with
      | accepted | evicted | refused => trivial
      | _ => cases offer
    rw [List.append_cons]
    exact ih (h.concat fits) fun f hf ↦ offers f (List.mem_cons_of_mem e hf)

theorem stores_of_offers {es : List PushEvent} (offers : ∀ e ∈ es, e.isOffer = true) :
    stores es = [] := by
  refine List.filterMap_eq_nil_iff.mpr fun e he ↦ ?_
  have offer := offers e he
  cases e <;> first | rfl | cases offer

end PushEvent

open PushEvent

/-! ## Stretches of a running sender

The token is a parameter of a stretch, and some of the constructors are possible only when it has
fired, or only when it has not. -/

namespace Sender

variable {σ : Type} {s : SenderSetup σ}

/-- What a running sender tells in a stretch, whose token has fired or not. -/
inductive Stretch (s : SenderSetup σ) (fired : Bool) (p : PushState σ) :
    Phase → List PushEvent → Phase → Prop where
  | halt (on : fired = true) : Stretch s fired p .looping [.became .stopped] .stopped
  | tick (off : fired = false) : Stretch s fired p .looping [] .draining
  /-- The read of the queue has found nothing. -/
  | empty (nothing : (drain s.maxBatchSize p.channel).1 = []) (until_ : Nat) :
    Stretch s fired p .draining [.became .draining, .became .idle] (.napping until_)
  | read (job : Job) (fresh : job.retries = 0) :
    Stretch s fired p .draining [.became .draining, .drained job.batch] (.deciding job)
  | wake (until_ : Nat) : Stretch s fired p (.napping until_) [.ticked .idle] (.ticked .idle)
  /-- The batch is abandoned before an attempt or in a delay. -/
  | abandon {φ : Phase} (job : Job) (before : φ = .deciding job ∨ ∃ t, φ = .backingOff job t)
    (on : fired = true) :
    Stretch s fired p φ [.became .stopped, .ticked .cancelled] (.ticked .cancelled)
  | attempt {φ : Phase} (job : Job) (off : fired = false) (call : φ.inCall = true) :
    Stretch s fired p (.deciding job) [.became .sending, .attempt] φ
  /-- A submission has succeeded, and the next call begins. -/
  | submitted {φ : Phase} (job : Job) (e : Envelope) (rest : List Envelope) (until_ : Nat)
    (call : φ.inCall = true) :
    Stretch s fired p (.submitting job e rest until_ (.ok ())) [.submitted e (.ok ())] φ
  | sent (job : Job) (until_ : Nat) :
    Stretch s fired p (.flushing job until_ (.ok ()))
      [.flushed (.ok ()), .became .idle, .ticked (.sent job.batch.length)]
      (.ticked (.sent job.batch.length))
  | failed {φ : Phase} {report : PushEvent} (job : Job) (err : ExportError)
    (fails : φ.Fails job err report)
    (final : s.retry.decision job.retries (s.isTransient err) ≠ .retry) :
    Stretch s fired p φ [report, .became .idle, .ticked (.failed job.batch.length)]
      (.ticked (.failed job.batch.length))
  | delayed {φ : Phase} {report : PushEvent} (job : Job) (err : ExportError)
    (fails : φ.Fails job err report)
    (again : s.retry.decision job.retries (s.isTransient err) = .retry) (b : Backoff)
    (until_ : Nat) : Stretch s fired p φ [report, .became .retryWait, .backoff b]
      (.backingOff { job with retries := job.retries + 1 } until_)
  | resume (job : Job) (until_ : Nat) :
    Stretch s fired p (.backingOff job until_) [] (.deciding job)
  | next (o : TickOutcome) : Stretch s fired p (.ticked o) [] .looping

/-- What is told between two states. The state that is shown is the last one that is told of. -/
structure Notes (p p' : PushState σ) (told : List PushEvent) : Prop where
  events : p'.events = p.events ++ told
  state : p'.state = shown p.state told

namespace Notes

variable {p q : PushState σ} {told : List PushEvent}

theorem nil (p : PushState σ) : Notes p p [] := ⟨(List.append_nil _).symm, rfl⟩

theorem note (h : Notes p q told) {e : PushEvent} (quiet : e.became? = none) :
    Notes p (q.note e) (told ++ [e]) where
  events := by rw [PushState.events_note, h.events, List.append_assoc]
  state := by rw [shown_concat_of_became?_eq_none _ _ quiet, ← h.state]; rfl

theorem become (h : Notes p q told) (x : SenderState) :
    Notes p (q.become x) (told ++ [.became x]) where
  events := by rw [PushState.events_become, h.events, List.append_assoc]
  state := by rw [shown_concat_became]; rfl

theorem count (h : Notes p q told) (f : SelfMetrics → SelfMetrics) : Notes p (q.count f) told :=
  ⟨h.events, h.state⟩

theorem beginCall (h : Notes p q told) (s : SenderSetup σ) (job : Job) (rest : List Envelope) :
    Notes p (beginCall s job rest q).2 told := by
  cases rest <;> exact ⟨h.events, h.state⟩

theorem endTick (h : Notes p q told) (o : TickOutcome) :
    Notes p (endTick q o).2 (told ++ [.ticked o]) :=
  h.note rfl

end Notes

theorem inCall_beginCall (s : SenderSetup σ) (job : Job) (rest : List Envelope) (p : PushState σ) :
    (beginCall s job rest p).1.inCall = true := by
  cases rest <;> rfl

theorem notes_abandon (job : Job) (p : PushState σ) :
    Notes p (abandon job p).2 [.became .stopped, .ticked .cancelled] :=
  (((Notes.nil p).count _).become .stopped).endTick .cancelled

theorem Phase.Fails.isFailure {φ : Phase} {job : Job} {err : ExportError} {report : PushEvent}
    (fails : φ.Fails job err report) : report.isFailure = true := by
  cases fails <;> rfl

theorem Phase.Fails.became?_eq_none {φ : Phase} {job : Job} {err : ExportError} {report : PushEvent}
    (fails : φ.Fails job err report) : report.became? = none := by
  cases fails <;> rfl

/-- An attempt has failed. -/
theorem afterFailure_stretch {fired : Bool} {φ : Phase} {p : PushState σ} {job : Job}
    {err : ExportError} {report : PushEvent} (fails : φ.Fails job err report) :
    ∃ told, Stretch s fired p φ told (afterFailure s job err (p.note report)).1 ∧
      Notes p (afterFailure s job err (p.note report)).2 told := by
  have reported : Notes p (p.note report) [report] := (Notes.nil p).note fails.became?_eq_none
  cases decision : s.retry.decision job.retries (s.isTransient err) with
  | fatal | exhausted =>
    rw [afterFailure, decision]
    exact ⟨_, .failed job err fails (by simp [decision]),
      ((reported.count _).become .idle).endTick _⟩
  | retry =>
    rw [afterFailure, decision]
    exact ⟨_, .delayed job err fails decision _ _, ((reported.count _).become .retryWait).note rfl⟩

/-- **What a running sender does in a stretch.** -/
theorem step_stretch {fired : Bool} {φ φ' : Phase} {p p' : PushState σ}
    (h : step s false fired φ p = some (φ', p')) :
    ∃ told, Stretch s fired p φ told φ' ∧ Notes p p' told := by
  cases φ with
  | looping =>
    cases fired <;> cases h
    · exact ⟨_, .tick rfl, .nil p⟩
    · exact ⟨_, .halt rfl, (Notes.nil p).become .stopped⟩
  | draining =>
    have drained : Notes p { p.become .draining with channel := (drain s.maxBatchSize p.channel).2 }
        [.became .draining] := ⟨((Notes.nil p).become .draining).events, rfl⟩
    by_cases nothing : (drain s.maxBatchSize p.channel).1.isEmpty = true
    · obtain ⟨rfl, rfl⟩ := eq_of_some ((if_pos nothing).symm.trans h)
      exact ⟨_, .empty (List.isEmpty_iff.mp nothing) _, drained.become .idle⟩
    · obtain ⟨rfl, rfl⟩ := eq_of_some ((if_neg nothing).symm.trans h)
      exact ⟨_, .read _ rfl, drained.note rfl⟩
  | napping t =>
    simp only [step, Option.ite_none_right_eq_some] at h
    cases h.2
    exact ⟨_, .wake t, (Notes.nil p).endTick .idle⟩
  | deciding job =>
    simp only [step] at h
    split at h <;> obtain ⟨rfl, rfl⟩ := eq_of_some h
    · exact ⟨_, .abandon job (.inl rfl) ‹_›, notes_abandon job p⟩
    · exact ⟨_, .attempt job (Bool.eq_false_iff.mpr ‹_›) (inCall_beginCall ..),
        (((Notes.nil p).become .sending).note rfl).beginCall s job job.batch⟩
  | submitting job e rest t result =>
    simp only [step, Option.ite_none_left_eq_some] at h
    cases result with
    | ok =>
      obtain ⟨rfl, rfl⟩ := eq_of_some h.2
      exact ⟨_, .submitted job e rest t (inCall_beginCall ..),
        ((Notes.nil p).note rfl).beginCall s job rest⟩
    | error err =>
      obtain ⟨rfl, rfl⟩ := eq_of_some h.2
      exact afterFailure_stretch (.submission e rest t)
  | flushing job t result =>
    simp only [step, Option.ite_none_left_eq_some] at h
    cases result with
    | ok =>
      obtain ⟨rfl, rfl⟩ := eq_of_some h.2
      exact ⟨_, .sent job t, ((((Notes.nil p).note rfl).count _).become .idle).endTick _⟩
    | error err =>
      obtain ⟨rfl, rfl⟩ := eq_of_some h.2
      exact afterFailure_stretch (.flush t)
  | backingOff job t =>
    simp only [step] at h
    split at h
    · obtain ⟨rfl, rfl⟩ := eq_of_some h
      exact ⟨_, .abandon job (.inr ⟨t, rfl⟩) ‹_›, notes_abandon job p⟩
    · simp only [Option.ite_none_right_eq_some] at h
      cases h.2
      exact ⟨_, .resume job t, .nil p⟩
  | ticked o =>
    cases h
    exact ⟨_, .next o, .nil p⟩
  | stopped => cases h

/-- Only a read takes something out of the queue. -/
theorem queue_step {fired : Bool} {φ φ' : Phase} {p p' : PushState σ}
    (h : step s false fired φ p = some (φ', p')) (busy : φ ≠ .draining) :
    p'.channel.queue = p.channel.queue := by
  cases step_effect h with
  | goes batch queue => exact queue
  | settles batch o before next queue => exact queue
  | drains job batch next =>
    obtain ⟨told, stretch, -⟩ := step_stretch h
    subst next
    cases stretch with
    | read => exact absurd rfl busy
    | resume => cases batch
    | attempt _ _ call | submitted _ _ _ _ call => cases call

end Sender

end MetricsAgent
