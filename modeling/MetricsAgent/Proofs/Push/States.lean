import Mathlib.Data.List.Destutter
import MetricsAgent.Proofs.Push.Http
import MetricsAgent.Proofs.Push.Pacing
import MetricsAgent.Proofs.Push.Stretch

/-!
# The states that a sender shows

Observers see what a sender is doing as one of five states.  The states are stored at several
places: at the beginning of a read of the queue and after a read that found nothing, at the
beginning of an attempt, after a failure that is followed by a delay, when a batch is through, and
when the sender stops.  Which store comes next depends on how the attempts end and on when the token
fires.

* `SenderState.Next` lists the changes of the state that are possible.
* `Sender.Phase.Shows` is the state that a sender shows where it may have to wait.
* `Sender.Occasion` gives the reason for each change.
* `Pipeline.Displays` is the invariant of a run.
* `Pipeline.sender_keeps_to_states` is what follows for all runs.

A state may be stored again while it is shown, and this is no change.  The states that are shown one
after the other are those that were stored, without repetitions (`Pipeline.display`).  Where
neighbours among the stored states are equal or may follow each other, those among the shown states
may follow each other, and so it is enough to look at the stores one by one.
-/

set_option autoImplicit false

namespace MetricsAgent

/-! ## The states, one after the other

That repetitions are left out is `List.destutter` of Mathlib. -/

/-- The changes of the state that a sender shows. -/
inductive SenderState.Next : SenderState → SenderState → Prop where
  | read : Next .idle .draining
  /-- The read has found nothing. -/
  | empty : Next .draining .idle
  | begin : Next .draining .sending
  /-- The token has fired before the first attempt. -/
  | unsent : Next .draining .stopped
  /-- The batch is sent, or has failed for good. -/
  | settled : Next .sending .idle
  | delayed : Next .sending .retryWait
  | again : Next .retryWait .sending
  | abandoned : Next .retryWait .stopped
  | halt : Next .idle .stopped

section Destutter

variable {α : Type} [DecidableEq α]

theorem exists_destutter'_eq_cons (x : α) (l : List α) : ∃ t, l.destutter' (· ≠ ·) x = x :: t := by
  induction l with
  | nil => exact ⟨[], rfl⟩
  | cons y l ih =>
    by_cases same : x = y
    · rwa [List.destutter'_cons_neg _ (not_not.mpr same)]
    · exact ⟨_, List.destutter'_cons_pos _ same⟩

/-- Where neighbours are equal or related, they are related when repetitions are left out. -/
theorem isChain_destutter_of_or {R : α → α → Prop} {x : α} {l : List α}
    (h : (x :: l).IsChain fun x y ↦ x = y ∨ R x y) : ((x :: l).destutter (· ≠ ·)).IsChain R := by
  rw [List.destutter_cons']
  induction l generalizing x with
  | nil => exact .singleton x
  | cons y l ih =>
    obtain ⟨step, rest⟩ := List.isChain_cons_cons.mp h
    by_cases same : x = y
    · subst same
      rw [List.destutter'_cons_neg _ (not_not.mpr rfl)]
      exact ih rest
    · -- `y` is kept, and so it is the neighbour of `x`.
      obtain ⟨t, kept⟩ := exists_destutter'_eq_cons y l
      have chain := ih rest
      rw [List.destutter'_cons_pos _ same]
      rw [kept] at chain ⊢
      exact .cons_cons (step.resolve_left same) chain

end Destutter

open PushEvent

namespace Sender

variable {σ : Type} {s : SenderSetup σ}

/-! ## The state at the end of a stretch

A phase alone does not tell the state: a sender between two ticks may show that it is idle or, with
its token fired, that it has stopped. -/

/-- The states that a running sender may show when it is at a phase, where its token has fired or
not. A sender that has abandoned its batch shows that it has stopped before it has. -/
def Phase.Shows (fired : Bool) (x : SenderState) : Phase → Prop
  | .looping | .ticked _ => x = .idle ∨ x = .stopped ∧ fired = true
  | .draining | .napping _ => x = .idle
  | .deciding job => x = if job.retries = 0 then .draining else .retryWait
  | .submitting .. | .flushing .. => x = .sending
  | .backingOff job _ => x = .retryWait ∧ job.retries ≠ 0
  | .stopped => x = .stopped

theorem Phase.Shows.of_fired {fired fired' : Bool} {x : SenderState} {φ : Phase}
    (h : φ.Shows fired x) (later : fired = true → fired' = true) : φ.Shows fired' x := by
  cases φ with
  | looping | ticked => exact h.imp_right (And.imp_right later)
  | _ => exact h

theorem Phase.shows_of_inCall {fired : Bool} {x : SenderState} {φ : Phase}
    (call : φ.inCall = true) : φ.Shows fired x ↔ x = .sending := by
  cases φ with
  | submitting | flushing => exact .rfl
  | _ => cases call

/-- A call in progress is part of an attempt. -/
theorem Phase.Fails.eq_sending {fired : Bool} {x : SenderState} {φ : Phase} {job : Job}
    {err : ExportError} {report : PushEvent} (fails : φ.Fails job err report)
    (h : φ.Shows fired x) : x = .sending := by
  cases fails <;> exact h

theorem Phase.Fails.fits {fired : Bool} {φ : Phase} {job : Job} {err : ExportError}
    {report : PushEvent} (fails : φ.Fails job err report) {es : List PushEvent}
    (h : φ.Shows fired (shown .idle es)) : Fits es report := by
  cases fails <;> exact h

/-- Why a sender changes the state that it shows, when it is at a phase and its token has fired or
not. -/
inductive Occasion (s : SenderSetup σ) (fired : Bool) (p : PushState σ) :
    Phase → SenderState → SenderState → Prop where
  | read : Occasion s fired p .draining .idle .draining
  /-- Nothing has been drained. The queue is empty, if a batch may hold anything at all. -/
  | empty (nothing : (drain s.maxBatchSize p.channel).1 = [])
    (queue : s.maxBatchSize ≠ 0 → p.channel.queue.items = []) :
    Occasion s fired p .draining .draining .idle
  | begin (job : Job) (first : job.retries = 0) (off : fired = false) :
    Occasion s fired p (.deciding job) .draining .sending
  /-- The token has fired before the first attempt. -/
  | unsent (job : Job) (first : job.retries = 0) (on : fired = true) :
    Occasion s fired p (.deciding job) .draining .stopped
  /-- The last call of the attempt has succeeded. -/
  | sent (job : Job) (until_ : Nat) :
    Occasion s fired p (.flushing job until_ (.ok ())) .sending .idle
  /-- A call has failed, and the failure is not transient or there are no retries left. -/
  | failed {φ : Phase} {report : PushEvent} (job : Job) (err : ExportError)
    (fails : φ.Fails job err report)
    (final : s.isTransient err = true → s.retry.maxAttempts ≤ job.retries) :
    Occasion s fired p φ .sending .idle
  /-- A call has failed, the failure is transient and there are retries left. -/
  | delayed {φ : Phase} {report : PushEvent} (job : Job) (err : ExportError)
    (fails : φ.Fails job err report)
    (transient : s.isTransient err = true) (budget : job.retries < s.retry.maxAttempts) :
    Occasion s fired p φ .sending .retryWait
  | again (job : Job) (later : job.retries ≠ 0) (off : fired = false) :
    Occasion s fired p (.deciding job) .retryWait .sending
  | abandoned {φ : Phase} (job : Job) (later : job.retries ≠ 0)
    (before : φ = .deciding job ∨ ∃ t, φ = .backingOff job t) (on : fired = true) :
    Occasion s fired p φ .retryWait .stopped
  | halt (on : fired = true) : Occasion s fired p .looping .idle .stopped

theorem Occasion.next {fired : Bool} {p : PushState σ} {φ : Phase} {x y : SenderState}
    (h : Occasion s fired p φ x y) : x.Next y := by
  cases h <;> constructor

end Sender

/-- What is transient is tried again as long as there are retries left. -/
theorem RetryPolicy.decision_eq_retry_iff {r : RetryPolicy} {n : Nat} {transient : Bool} :
    r.decision n transient = .retry ↔ transient = true ∧ n < r.maxAttempts := by
  by_cases spent : r.maxAttempts ≤ n
  · have none_left : ¬n < r.maxAttempts := Nat.not_lt.mpr spent
    cases transient <;> simp [decision, spent, none_left]
  · have left : n < r.maxAttempts := Nat.lt_of_not_le spent
    cases transient <;> simp [decision, spent, left]

namespace Sender

variable {σ : Type} {s : SenderSetup σ} {fired : Bool} {p : PushState σ} {φ φ' : Phase}
  {told : List PushEvent}

/-- Where a stretch leads, the state is the one that belongs there. -/
theorem Stretch.shows (h : Stretch s fired p φ told φ') {x : SenderState}
    (before : φ.Shows fired x) : φ'.Shows fired (shown x told) := by
  cases h with
  | halt on => exact rfl
  | tick off =>
    rcases before with idle | ⟨-, on⟩
    · exact idle
    · cases off.symm.trans on
  | empty nothing t => exact rfl
  | read job fresh => exact (if_pos fresh).symm
  | wake t => exact .inl before
  | abandon job _ on => exact .inr ⟨rfl, on⟩
  | attempt job off call => exact (Phase.shows_of_inCall call).mpr rfl
  | submitted job e rest t call => exact (Phase.shows_of_inCall call).mpr before
  | sent job t => exact .inl rfl
  | failed job err fails final =>
    refine .inl ?_
    rw [shown, stores_cons_of_became?_eq_none fails.became?_eq_none]
    rfl
  | delayed job err fails again b t =>
    refine ⟨?_, Nat.succ_ne_zero _⟩
    rw [shown, stores_cons_of_became?_eq_none fails.became?_eq_none]
    rfl
  | resume job t => exact before.1.trans (if_neg before.2).symm
  | next o => exact before

/-- What is told in a stretch fits what has happened before. -/
theorem Stretch.inOrder (h : Stretch s fired p φ told φ') {es : List PushEvent}
    (inOrder : InOrder es) (before : φ.Shows fired (shown .idle es)) : InOrder (es ++ told) := by
  cases h with
  | halt on | wake t => exact .concat inOrder trivial
  | tick off | resume job t | next o => exact (List.append_nil es).symm ▸ inOrder
  | empty nothing t | abandon job _ on =>
    rw [List.append_cons]
    exact .concat (.concat inOrder trivial) trivial
  | read job fresh | attempt job off call =>
    rw [List.append_cons]
    exact .concat (.concat inOrder trivial) (shown_concat_became ..)
  | submitted job e rest t call => exact .concat inOrder before
  | sent job t =>
    rw [List.append_cons, List.append_cons]
    exact .concat (.concat (.concat inOrder before) trivial) trivial
  | failed job err fails final =>
    have reported := inOrder.concat (fails.fits before)
    rw [List.append_cons, List.append_cons]
    exact .concat (.concat reported trivial) trivial
  | @delayed _ report job err fails again b t =>
    have reported := inOrder.concat (fails.fits before)
    rw [List.append_cons, List.append_cons]
    exact .concat (.concat reported ⟨report, List.getLast?_concat, fails.isFailure⟩) trivial

/-- Every change of the state in a stretch has its occasion. -/
theorem Stretch.occasions (h : Stretch s fired p φ told φ') {x : SenderState}
    (before : φ.Shows fired x) :
    (x :: stores told).IsChain fun x y ↦ x = y ∨ Occasion s fired p φ x y := by
  cases h with
  | halt on =>
    rcases before with rfl | ⟨rfl, -⟩
    · exact .cons_cons (.inr (.halt on)) (.singleton _)
    · exact .cons_cons (.inl rfl) (.singleton _)
  | tick off | wake t | submitted job e rest t call | resume job t | next o => exact .singleton _
  | empty nothing t =>
    obtain rfl : x = .idle := before
    have queue (room : s.maxBatchSize ≠ 0) := (drain_eq_nil_iff room p.channel).mp nothing
    exact .cons_cons (.inr .read) (.cons_cons (.inr (.empty nothing queue)) (.singleton _))
  | read job fresh =>
    obtain rfl : x = .idle := before
    exact .cons_cons (.inr .read) (.singleton _)
  | abandon job place on =>
    -- A batch is abandoned before its first attempt or after one that has failed, where the state
    -- differs.
    refine .cons_cons (.inr ?_) (.singleton _)
    by_cases first : job.retries = 0
    · rcases place with rfl | ⟨t, rfl⟩
      · obtain rfl : x = .draining := before.trans (if_pos first)
        exact .unsent job first on
      · exact absurd first before.2
    · have waits : x = .retryWait := by
        rcases place with rfl | ⟨t, rfl⟩
        · exact before.trans (if_neg first)
        · exact before.1
      subst waits
      exact .abandoned job first place on
  | attempt job off call =>
    refine .cons_cons (.inr ?_) (.singleton _)
    by_cases first : job.retries = 0
    · obtain rfl : x = .draining := before.trans (if_pos first)
      exact .begin job first off
    · obtain rfl : x = .retryWait := before.trans (if_neg first)
      exact .again job first off
  | sent job t =>
    obtain rfl : x = .sending := before
    exact .cons_cons (.inr (.sent job t)) (.singleton _)
  | failed job err fails final =>
    obtain rfl := fails.eq_sending before
    rw [stores_cons_of_became?_eq_none fails.became?_eq_none]
    refine .cons_cons (.inr (.failed job err fails fun transient ↦ ?_)) (.singleton _)
    exact Nat.le_of_not_lt fun budget ↦
      final (RetryPolicy.decision_eq_retry_iff.mpr ⟨transient, budget⟩)
  | delayed job err fails again b t =>
    obtain rfl := fails.eq_sending before
    rw [stores_cons_of_became?_eq_none fails.became?_eq_none]
    obtain ⟨transient, budget⟩ := RetryPolicy.decision_eq_retry_iff.mp again
    exact .cons_cons (.inr (.delayed job err fails transient budget)) (.singleton _)

/-- A read of the queue begins with the state that belongs to it. -/
theorem Stretch.reads (h : Stretch s fired p .draining told φ') :
    ∃ rest, told = .became .draining :: rest := by
  cases h with
  | empty | read => exact ⟨_, rfl⟩
  | abandon job place => rcases place with same | ⟨t, same⟩ <;> cases same
  | failed _ _ fails | delayed _ _ fails => cases fails

/-- What a stretch of a sender has to do with the state that it shows. -/
structure Keeps (s : SenderSetup σ) (fired : Bool) (φ φ' : Phase) (p p' : PushState σ)
    (told : List PushEvent) : Prop where
  /-- Each change of the state has its occasion. -/
  occasions : (p.state :: stores told).IsChain fun x y ↦ x = y ∨ Occasion s fired p φ x y
  /-- The client is called for one thing at most, -/
  asks : Asks s φ p φ' p'
  /-- and the state is the one that belongs to calls. -/
  calling : φ'.inCall = true → p'.state = .sending
  /-- The queue is read after the state is stored that belongs to reads, -/
  reads : φ = .draining → ∃ rest, told = .became .draining :: rest
  /-- and in no other stretch. -/
  queue : φ ≠ .draining → p'.channel.queue = p.channel.queue

theorem Stretch.keeps {p' : PushState σ} (h : Stretch s fired p φ told φ') (notes : Notes p p' told)
    (e : step s false fired φ p = some (φ', p')) (before : φ.Shows fired p.state) :
    Keeps s fired φ φ' p p' told where
  occasions := h.occasions before
  asks := step_asks e
  calling call := (Phase.shows_of_inCall call).mp (notes.state ▸ h.shows before)
  reads start := by
    subst start
    exact h.reads
  queue := queue_step e

end Sender

namespace PushState

variable {σ : Type}

/-- The states that were shown one after the other, from the first one on. -/
def display (p : PushState σ) : List SenderState :=
  (SenderState.idle :: stores p.events).destutter (· ≠ ·)

end PushState

namespace Pipeline

variable {σ : Type} {s : SenderSetup σ} {w w' : Pipeline σ} {m : Move} {id token : Nat}
  {φ : Sender.Phase}

/-! ## Beside the sender

Exports tell of what went in and what was evicted, and store no state. -/

/-- Whether a sender begins. -/
def Move.begins : Move → Bool
  | .beginTick .. | .startSender .. => true
  | _ => false

/-- Whether no sender begins. -/
def beginsNone (l : List (Passage (Pipeline σ) Move)) : Bool := l.all fun t ↦ !t.move.begins

theorem told_of_beside {φ' : Sender.Phase} {p p' : PushState σ} (h : Beside φ p φ' p') :
    p'.client = p.client ∧ ∃ es, p'.events = p.events ++ es ∧ ∀ e ∈ es, e.isOffer = true := by
  cases h with
  | offer e pushed c =>
    refine ⟨(PushState.foldl_note _ _).2, _, PushState.events_foldl_note _ _, ?_⟩
    cases pushed <;> simp [offerEvents, isOffer]
  | _ => exact ⟨rfl, [], (List.append_nil _).symm, by simp⟩

/-- Nothing happens but to exports, tokens and the time. -/
structure Aside (w w' : Pipeline σ) : Prop where
  loops : w'.loops = w.loops
  fired : w.fired ⊆ w'.fired
  state : w'.shared.state = w.shared.state
  client : w'.shared.client = w.shared.client
  told : ∃ es, w'.shared.events = w.shared.events ++ es ∧ ∀ e ∈ es, e.isOffer = true

theorem Aside.of_events_eq (loops : w'.loops = w.loops) (fired : w.fired ⊆ w'.fired)
    (state : w'.shared.state = w.shared.state) (client : w'.shared.client = w.shared.client)
    (same : w'.shared.events = w.shared.events) : w.Aside w' :=
  ⟨loops, fired, state, client, [], by rw [same, List.append_nil], by simp⟩

theorem aside_of_move (hm : ∀ i, m ≠ .turn (.sending i)) (starts : m.begins = false)
    (e : move s m w = some w') : w.Aside w' := by
  cases m with
  | beginExport id batch =>
    simp only [move, Option.ite_none_right_eq_some, Option.some_inj] at e
    obtain ⟨-, rfl⟩ := e
    exact .of_events_eq rfl (List.Subset.refl _) rfl rfl rfl
  | beginTick | startSender => cases starts
  | cancel token =>
    cases e
    exact .of_events_eq rfl (List.subset_cons_self ..) rfl rfl rfl
  | elapse ms =>
    cases e
    exact .of_events_eq rfl (List.Subset.refl _) rfl rfl rfl
  | turn t =>
    cases t with
    | exporting id =>
      obtain ⟨x, -, hx⟩ := Option.bind_eq_some_iff.mp e
      obtain ⟨beside, loops⟩ := stepExport_beside .stopped hx
      obtain ⟨client, told⟩ := told_of_beside beside
      exact ⟨loops, (fired_stepExport hx).symm ▸ List.Subset.refl _,
        state_of_beside beside, client, told⟩
    | sending id => exact absurd rfl (hm id)

/-- As long as there is no sender, the state is the first one, and nothing is told but of
exports. -/
theorem offers_of_trail {c : Channel Envelope} {client : σ} {l : List (Passage (Pipeline σ) Move)}
    (run : Trail (move s) (start c client) l w) (new : w.loops = []) :
    w.shared.state = .idle ∧ ∀ e ∈ w.shared.events, e.isOffer = true := by
  refine run.invariant (P := fun w ↦ w.loops = [] → w.shared.state = .idle ∧
    ∀ e ∈ w.shared.events, e.isOffer = true)
      (fun _ ↦ ⟨rfl, by simp [start, PushState.events]⟩) ?_ new
  intro w w' m before e new
  by_cases sending : ∃ i, m = .turn (.sending i)
  · obtain ⟨i, rfl⟩ := sending
    obtain ⟨x, found, turned⟩ := Option.bind_eq_some_iff.mp e
    obtain ⟨r, -, rfl⟩ := Option.map_eq_some_iff.mp turned
    have none_there : w.loops = [] := List.map_eq_nil_iff.mp new
    rw [none_there] at found
    cases found
  · cases starts : m.begins with
    | true =>
      cases m with
      | beginTick id token | startSender id token =>
        simp only [move, Option.ite_none_right_eq_some, Option.some_inj] at e
        obtain ⟨-, -, rfl⟩ := e
        exact absurd new (List.append_ne_nil_of_right_ne_nil _ (List.cons_ne_nil _ _))
      | _ => cases starts
    | false =>
      obtain ⟨loops, -, state, -, es, told, offers⟩ :=
        aside_of_move (not_exists.mp sending) starts e
      obtain ⟨idle, before⟩ := before (loops.symm.trans new)
      refine ⟨state.trans idle, fun e he ↦ ?_⟩
      rw [told] at he
      exact (List.mem_append.mp he).elim (before e) (offers e)

/-! ## The run of a sender

The sender is the only one of its pipeline, since another one would store its own states. -/

/-- The only sender there has been is at a phase, and all that was told and is shown fits that. -/
structure Displays (id token : Nat) (w : Pipeline σ) (φ : Sender.Phase) : Prop where
  loops : w.loops = [⟨id, token, false, φ⟩]
  shows : φ.Shows (w.isFired token) w.shared.state
  shown : w.shared.state = shown .idle w.shared.events
  inOrder : InOrder w.shared.events
  changes : (SenderState.idle :: stores w.shared.events).IsChain fun x y ↦ x = y ∨ x.Next y

theorem Displays.phase? (h : w.Displays id token φ) : w.phase? id = some φ := by
  simp [Pipeline.phase?, h.loops]

theorem eq_startSender (e : move s (.startSender id token) w = some w') :
    w' = w.startSender id token := by
  simp only [move, Option.ite_none_right_eq_some, Option.some_inj] at e
  exact e.2.2.symm

theorem displays_startSender (first : w.shared.state = .idle)
    (offers : ∀ e ∈ w.shared.events, e.isOffer = true) (new : w.loops = []) :
    (w.startSender id token).Displays id token .looping := by
  have nothing := stores_of_offers offers
  refine ⟨?_, .inl first, ?_, (InOrder.nil).append_offers offers, ?_⟩
  · rw [startSender, new, List.nil_append]
  · exact first.trans (by rw [shown, startSender, nothing]; rfl)
  · rw [startSender, nothing]
    exact .singleton _

/-- The states that are stored go on from the one that is shown. -/
theorem Displays.changes_append (h : w.Displays id token φ) {told : List PushEvent}
    (more : (w.shared.state :: stores told).IsChain fun x y ↦ x = y ∨ x.Next y) :
    (SenderState.idle :: stores (w.shared.events ++ told)).IsChain fun x y ↦ x = y ∨ x.Next y := by
  rw [stores_append, ← List.cons_append]
  refine h.changes.append more.tail fun x hx y hy ↦ ?_
  have last : x = w.shared.state := by
    rw [h.shown, PushEvent.shown, List.getLastD_eq_getLast?]
    rw [List.getLast?_cons] at hx
    exact (Option.some.inj hx).symm
  cases stored : stores told with
  | nil => rw [stored] at hy; cases hy
  | cons z l =>
    rw [stored] at hy more
    obtain rfl : z = y := Option.some.inj hy
    exact last ▸ (List.isChain_cons_cons.mp more).1

/-- A turn of the sender. -/
theorem Displays.turn (h : w.Displays id token φ) {φ' : Sender.Phase} {p : PushState σ}
    (e : Sender.step s false (w.isFired token) φ w.shared = some (φ', p))
    (after : { w with shared := p }.putLoop ⟨id, token, false, φ'⟩ = w') :
    w'.Displays id token φ' ∧ ∃ es, w'.shared.events = w.shared.events ++ es ∧
      Sender.Keeps s (w.isFired token) φ φ' w.shared w'.shared es := by
  subst after
  obtain ⟨es, stretch, notes⟩ := Sender.step_stretch e
  have keeps := stretch.keeps notes e h.shows
  have next := keeps.occasions.imp fun x y ↦ Or.imp_right Sender.Occasion.next
  refine ⟨⟨by simp [putLoop, h.loops], ?_, ?_, ?_, ?_⟩, es, notes.events, keeps⟩
  · show φ'.Shows (w.isFired token) p.state
    rw [notes.state]
    exact stretch.shows h.shows
  · show p.state = PushEvent.shown .idle p.events
    rw [notes.state, notes.events, PushEvent.shown_append, ← h.shown]
  · show InOrder p.events
    rw [notes.events]
    exact stretch.inOrder h.inOrder (h.shown ▸ h.shows)
  · show (SenderState.idle :: stores p.events).IsChain _
    rw [notes.events]
    exact h.changes_append next

/-- A move beside the sender. -/
theorem Displays.aside (h : w.Displays id token φ) (aside : w.Aside w') :
    w'.Displays id token φ := by
  obtain ⟨loops, fired, state, -, es, told, offers⟩ := aside
  have nothing := stores_of_offers offers
  refine ⟨loops.trans h.loops, ?_, ?_, ?_, ?_⟩
  · rw [state]
    exact h.shows.of_fired (isFired_mono fired)
  · rw [state, told, PushEvent.shown_append, PushEvent.shown, nothing, ← h.shown]
    rfl
  · rw [told]
    exact h.inOrder.append_offers offers
  · rw [told, stores_append, nothing, List.append_nil]
    exact h.changes

/-- What a move has to do with the state that the sender shows. -/
inductive Conforms (s : SenderSetup σ) (id token : Nat) (t : Passage (Pipeline σ) Move) : Prop where
  | turn (φ φ' : Sender.Phase) (move : t.move = .turn (.sending id))
    (before : t.before.phase? id = some φ)
    (after : t.after.phase? id = some φ')
    (keeps : Sender.Keeps s (t.before.isFired token) φ φ' t.before.shared t.after.shared (told t))
  /-- All other moves leave the state and the client alone. -/
  | aside (move : t.move.isTurnOf id = false) (aside : t.before.Aside t.after)

theorem Displays.move (h : w.Displays id token φ) (starts : m.begins = false)
    (e : move s m w = some w') :
    (∃ φ', w'.Displays id token φ') ∧ Conforms s id token ⟨w, m, w'⟩ := by
  by_cases sending : ∃ i, m = .turn (.sending i)
  · obtain ⟨i, rfl⟩ := sending
    obtain ⟨x, found, turned⟩ := Option.bind_eq_some_iff.mp e
    obtain ⟨⟨φ', p⟩, stepped, rfl⟩ := Option.map_eq_some_iff.mp turned
    obtain rfl : x.id = i := Keyed.key_of_find? found
    have mem := List.mem_of_find?_eq_some found
    rw [h.loops] at mem
    obtain rfl := List.mem_singleton.mp mem
    obtain ⟨displays, es, noted, keeps⟩ := h.turn stepped rfl
    refine ⟨⟨φ', displays⟩, .turn φ φ' rfl h.phase? displays.phase? ?_⟩
    rw [told_eq noted]
    exact keeps
  · have aside := aside_of_move (not_exists.mp sending) starts e
    exact ⟨⟨φ, h.aside aside⟩, .aside (isTurnOf_eq_false (not_exists.mp sending) id) aside⟩

/-- **The invariant of a run**, with what its moves do. -/
theorem displays_of_trail {a : Pipeline σ} {l : List (Passage (Pipeline σ) Move)}
    (started : a.Displays id token φ) (run : Trail (Pipeline.move s) a l w)
    (alone : beginsNone l = true) :
    (∃ φ', w.Displays id token φ') ∧ ∀ t ∈ l, Conforms s id token t := by
  induction run with
  | start => exact ⟨⟨φ, started⟩, by simp⟩
  | move _ m e ih =>
    simp only [beginsNone, List.all_append, Bool.and_eq_true, List.all_cons,
      List.all_nil, Bool.and_true, Bool.not_eq_true'] at alone
    obtain ⟨⟨φ', displays⟩, conform⟩ := ih alone.1
    obtain ⟨next, conforms⟩ := displays.move alone.2 e
    refine ⟨next, fun t ht ↦ ?_⟩
    rcases List.mem_append.mp ht with ht | ht
    · exact conform t ht
    · exact List.mem_singleton.mp ht ▸ conforms

/-- A sender keeps to its states from its start at `a` to `w`, by the moves `l`. -/
structure KeepsToStates (s : SenderSetup σ) (id token : Nat) (a : Pipeline σ)
    (l : List (Passage (Pipeline σ) Move)) (w : Pipeline σ) : Prop where
  /-- The state is idle at first, and none has been stored. -/
  starts : a.shared.state = .idle ∧ stores a.shared.events = []
  /-- The states that are shown follow each other as they may. -/
  follows : w.shared.display.IsChain SenderState.Next
  /-- What is shown is what was stored last. -/
  shown : w.shared.state = shown .idle w.shared.events
  /-- No other state is shown after that of a sender that has stopped. -/
  final : ∀ before after, w.shared.display = before ++ .stopped :: after → after = []
  /-- Calls, reads and delays are told of where they belong. -/
  inOrder : InOrder w.shared.events
  /-- While a call is in progress, the state is the one that belongs to calls. -/
  calling : ∀ φ, w.phase? id = some φ → φ.inCall = true → w.shared.state = .sending
  /-- The changes of the state have their occasions, the client is called in turns of the sender
  only, and these leave the queue alone but for reads. -/
  moves : ∀ t ∈ l, Conforms s id token t

/-- **A sender keeps to its states**, whatever is exported and comes of its calls, and whenever its
token fires: it is the first one of its pipeline, and no other begins in the meantime. -/
theorem sender_keeps_to_states {c : Channel Envelope} {client : σ} {b a : Pipeline σ}
    {l₀ l : List (Passage (Pipeline σ) Move)} (before : Trail (move s) (start c client) l₀ b)
    (new : b.loops = []) (begun : move s (.startSender id token) b = some a)
    (run : Trail (move s) a l w) (alone : beginsNone l = true) :
    KeepsToStates s id token a l w := by
  obtain ⟨first, offers⟩ := offers_of_trail before new
  obtain rfl := eq_startSender begun
  have started : (b.startSender id token).Displays id token .looping :=
    displays_startSender first offers new
  obtain ⟨⟨φ, displays⟩, conform⟩ := displays_of_trail started run alone
  have follows : w.shared.display.IsChain SenderState.Next :=
    isChain_destutter_of_or displays.changes
  refine ⟨⟨first, stores_of_offers offers⟩, follows, displays.shown, fun before after shown ↦ ?_,
    displays.inOrder, ?_, conform⟩
  · rw [shown] at follows
    cases after with
    | nil => rfl
    | cons x after => cases (List.isChain_cons_cons.mp follows.right_of_append).1
  · intro φ' phase call
    obtain rfl : φ = φ' := Option.some.inj (displays.phase?.symm.trans phase)
    exact (Sender.Phase.shows_of_inCall call).mp displays.shows

/-- A sender whose first attempt fails, during which something is exported, and whose token fires
after the second one. -/
theorem sender_keeps_to_states_retried :
    ∃ (a w : Pipeline ScriptedClient) (l : List (Passage (Pipeline ScriptedClient) Move)),
      move (retryingOnce ScriptedClient.client) (.startSender 2 7) oneQueued = some a ∧
      Trail (move (retryingOnce ScriptedClient.client)) a l w ∧ beginsNone l = true ∧
      w.shared.display = [.idle, .draining, .sending, .retryWait, .sending, .idle, .stopped] ∧
      KeepsToStates (retryingOnce ScriptedClient.client) 2 7 a l w := by
  have run : Trail (move (retryingOnce ScriptedClient.client)) (oneQueued.startSender 2 7) _ _ :=
    Trail.of_follow [.turn (.sending 2), .turn (.sending 2), .turn (.sending 2), .turn (.sending 2),
      .beginExport 3 [.gauge "b" 1], .turn (.exporting 3), .elapse 10, .turn (.sending 2),
      .turn (.sending 2), .turn (.sending 2), .turn (.sending 2), .turn (.sending 2), .cancel 7,
      .turn (.sending 2), .turn (.sending 2)] rfl
  exact ⟨_, _, _, rfl, run, rfl, rfl,
    sender_keeps_to_states (b := oneQueued) .start rfl rfl run rfl⟩

end Pipeline

end MetricsAgent
