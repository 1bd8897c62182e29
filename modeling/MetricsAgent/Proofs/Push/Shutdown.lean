import MetricsAgent.Proofs.Push.Effect
import MetricsAgent.Proofs.Push.Delivery
import MetricsAgent.Proofs.Push.Turn

/-!
# How a sender shuts down

A sender runs until its token fires, and the token may fire while it naps, in any call of an
attempt, or in a delay.  `Sender.Closes` lists what its turns do from then on: the attempt in
progress goes on call by call and is recorded as it would be otherwise, a delay ends with the batch
abandoned, and everything else ends with the sender stopped.

* No other turn is possible (`Sender.turn_closes`).
* Each of these turns brings the end nearer (`Sender.Closes.turnsLeft_lt`), and there is a bound on
  their number that depends on where the token has found the sender.
* `Pipeline.Serves` follows the sender through a run in which the exports and the other senders do
  what they like.
* `Pipeline.ShutsDown` is what follows for a run from the firing on.

A failure after the firing may still begin a delay, since whether there is another attempt is
decided by the error and the number of retries alone.  It is the look at the token before this
attempt that abandons the batch.

Turns are whole turns here, from one point at which the sender really waits to the next.  The firing
between two stretches of a turn is the subject of `Proofs.Push.Firing`.
-/

set_option autoImplicit false

namespace MetricsAgent

/-- Whether a batch was abandoned. -/
def PushEvent.isAbandonment : PushEvent → Bool
  | .ticked .cancelled => true
  | _ => false

namespace PushState

variable {σ : Type}

/-- What is told between two states, and the metrics after it. The queue is left as it is. -/
structure Adds (p p' : PushState σ) (told : List PushEvent) (m : SelfMetrics) : Prop where
  told : p'.events = p.events ++ told
  metrics : p'.channel.metrics = m
  queue : p'.channel.queue = p.channel.queue

end PushState

namespace Sender

variable {σ : Type} {s : SenderSetup σ}

/-! ## The turns of a sender whose token has fired

There is one constructor for each phase in which a running sender pauses, and three for a call that
ends: the attempt goes on, has succeeded, or has failed, with or without another attempt after
it. -/

/-- An attempt to send a batch ends with an error in a phase, and this is told of it. -/
inductive Phase.Fails (job : Job) (err : ExportError) : Phase → PushEvent → Prop where
  | submission (e : Envelope) (rest : List Envelope) (t : Nat) :
    Fails job err (.submitting job e rest t (.error err)) (.submitted e (.error err))
  | flush (t : Nat) : Fails job err (.flushing job t (.error err)) (.flushed (.error err))

/-- What a turn of a running sender does when its token has fired. -/
inductive Closes (s : SenderSetup σ) (p p' : PushState σ) : Phase → Phase → Prop where
  /-- The token fired before the first tick. -/
  | unbegun (adds : p.Adds p' [.became .stopped] p.channel.metrics) :
    Closes s p p' .looping .stopped
  | woken (t : Nat) (adds : p.Adds p' [.ticked .idle, .became .stopped] p.channel.metrics) :
    Closes s p p' (.napping t) .stopped
  /-- A submission is over, and the next call of the attempt begins. -/
  | submitted (job : Job) (e : Envelope) (rest : List Envelope) (t : Nat)
    (adds : p.Adds p' [.submitted e (.ok ())] p.channel.metrics)
    (client : p'.client = (beginCall s job rest p).2.client) :
    Closes s p p' (.submitting job e rest t (.ok ())) (beginCall s job rest p).1
  /-- The attempt has succeeded. -/
  | sent (job : Job) (t : Nat) (adds : p.Adds p'
      [.flushed (.ok ()), .became .idle, .ticked (.sent job.batch.length), .became .stopped]
      (p.channel.metrics.recordExport .ok job.batch.length (since p job.started))) :
    Closes s p p' (.flushing job t (.ok ())) .stopped
  /-- The attempt has failed, and there is no other. -/
  | failed {φ : Phase} {report : PushEvent} (job : Job) (err : ExportError)
    (fails : φ.Fails job err report)
    (final : s.retry.decision job.retries (s.isTransient err) ≠ .retry)
    (adds : p.Adds p'
      [report, .became .idle, .ticked (.failed job.batch.length), .became .stopped]
      { p.channel.metrics.recordExport .error job.batch.length (since p job.started) with
        sendFailures := p.channel.metrics.sendFailures + 1 }) :
    Closes s p p' φ .stopped
  /-- The attempt has failed, and there would be another one after a delay. -/
  | delayed {φ : Phase} {report : PushEvent} (job : Job) (err : ExportError) (b : Backoff)
    (fails : φ.Fails job err report)
    (again : s.retry.decision job.retries (s.isTransient err) = .retry)
    (adds : p.Adds p' [report, .became .retryWait, .backoff b]
      { p.channel.metrics with retries := p.channel.metrics.retries + 1 }) :
    Closes s p p' φ
      (.backingOff { job with retries := job.retries + 1 } (p.now + b.delay.ceilMillis))
  /-- The batch is abandoned. -/
  | abandoned (job : Job) (t : Nat) (adds : p.Adds p'
      [.became .stopped, .ticked .cancelled, .became .stopped] p.channel.metrics) :
    Closes s p p' (.backingOff job t) .stopped

theorem advance_of_isPause {φ : Phase} (h : φ.isPause = true) (once fired : Bool)
    (p : PushState σ) : advance s once fired 4 (φ, p) = (φ, p) := by
  rw [advance, if_pos h]

@[simp] theorem events_endTick (p : PushState σ) (o : TickOutcome) :
    (endTick p o).2.events = p.events ++ [.ticked o] :=
  PushState.events_note p (.ticked o)

theorem isPause_beginCall (s : SenderSetup σ) (job : Job) (rest : List Envelope) (p : PushState σ) :
    (beginCall s job rest p).1.isPause = true := by
  cases rest <;> rfl

/-- The next call does not depend on what was told. -/
theorem beginCall_note (s : SenderSetup σ) (job : Job) (rest : List Envelope) (p : PushState σ)
    (e : PushEvent) :
    beginCall s job rest (p.note e) =
      ((beginCall s job rest p).1, (beginCall s job rest p).2.note e) := by
  cases rest <;> rfl

theorem channel_beginCall (s : SenderSetup σ) (job : Job) (rest : List Envelope) (p : PushState σ) :
    (beginCall s job rest p).2.channel = p.channel ∧
      (beginCall s job rest p).2.events = p.events := by
  cases rest <;> exact ⟨rfl, rfl⟩

/-- A failed attempt. -/
theorem closes_afterFailure {φ φ' : Phase} {p p' : PushState σ} {job : Job} {err : ExportError}
    {report : PushEvent} (fails : φ.Fails job err report)
    (e : advance s false true 4 (afterFailure s job err (p.note report)) = (φ', p')) :
    Closes s p p' φ φ' := by
  cases decision : s.retry.decision job.retries (s.isTransient err) with
  | fatal | exhausted =>
    rw [afterFailure, decision] at e
    cases e
    refine .failed job err fails (by simp [decision]) ⟨?_, rfl, rfl⟩
    simp [fail]
  | retry =>
    rw [afterFailure, decision] at e
    cases e
    refine .delayed job err _ fails decision ⟨?_, rfl, rfl⟩
    simp

/-- **The turns of a sender whose token has fired.** -/
theorem turn_closes {φ φ' : Phase} {p p' : PushState σ} (h : φ.isPause = true ∨ φ = .looping)
    (e : turn s false true φ p = some (φ', p')) : Closes s p p' φ φ' := by
  obtain ⟨r, first, rest⟩ := Option.map_eq_some_iff.mp e
  cases φ with
  | looping =>
    cases first
    cases rest
    exact .unbegun ⟨by simp, rfl, rfl⟩
  | napping t =>
    cases first
    cases rest
    exact .woken t ⟨by simp, rfl, rfl⟩
  | submitting job x later t result =>
    simp only [step, Option.ite_none_left_eq_some] at first
    obtain ⟨-, first⟩ := first
    cases result with
    | ok =>
      obtain rfl : _ = r := Option.some.inj first
      rw [beginCall_note, advance_of_isPause (isPause_beginCall _ _ _ _)] at rest
      cases rest
      obtain ⟨channel, events⟩ := channel_beginCall s job later p
      exact .submitted job x later t
        ⟨by rw [PushState.events_note, events], congrArg (·.metrics) channel,
          congrArg (·.queue) channel⟩ rfl
    | error err =>
      obtain rfl : _ = r := Option.some.inj first
      exact closes_afterFailure (.submission x later t) rest
  | flushing job t result =>
    simp only [step, Option.ite_none_left_eq_some] at first
    obtain ⟨-, first⟩ := first
    cases result with
    | ok =>
      cases first
      cases rest
      exact .sent job t ⟨by simp [succeed], rfl, rfl⟩
    | error err =>
      obtain rfl : _ = r := Option.some.inj first
      exact closes_afterFailure (.flush t) rest
  | backingOff job t =>
    cases first
    cases rest
    exact .abandoned job t ⟨by simp [abandon], rfl, rfl⟩
  | stopped => cases first
  | _ => simp [Phase.isPause] at h

/-! ## What all of these turns have in common

The number of turns that are left goes down with every turn, no attempt begins, nothing is drained,
and a sender that abandons its batch has stopped. -/

/-- The number of turns that are left to a sender whose token has fired, at most. -/
def Phase.turnsLeft : Phase → Nat
  | .submitting _ _ rest _ _ => rest.length + 3
  | .flushing .. => 2
  | .looping | .napping _ | .backingOff .. => 1
  | _ => 0

theorem Closes.turnsLeft_lt {φ φ' : Phase} {p p' : PushState σ} (h : Closes s p p' φ φ') :
    φ'.turnsLeft < φ.turnsLeft := by
  cases h with
  | submitted job e rest t adds client =>
    cases rest <;> simp [beginCall, beginFlush, Phase.turnsLeft]
  | failed job err fails => cases fails <;> simp [Phase.turnsLeft]
  | delayed job err b fails => cases fails <;> simp [Phase.turnsLeft]
  | _ => simp [Phase.turnsLeft]

/-- The sender pauses again. -/
theorem Closes.isPause {φ φ' : Phase} {p p' : PushState σ} (h : Closes s p p' φ φ') :
    φ'.isPause = true := by
  cases h with
  | submitted job e rest t adds client => exact isPause_beginCall s job rest p
  | _ => rfl

/-- What is told in such a turn, after which the sender is at `φ'`: no attempt begins and no batch
is drained, and after a batch is abandoned the sender has stopped. -/
structure Closing (told : List PushEvent) (φ' : Phase) : Prop where
  attempt : .attempt ∉ told
  drained : ∀ batch, .drained batch ∉ told
  abandoned : told.countP PushEvent.isAbandonment = 0 ∨
    told.countP PushEvent.isAbandonment = 1 ∧ φ' = .stopped

theorem Closes.adds {φ φ' : Phase} {p p' : PushState σ} (h : Closes s p p' φ φ') :
    ∃ told m, p.Adds p' told m ∧ Closing told φ' := by
  cases h with
  | abandoned job t adds => exact ⟨_, _, adds, by simp, by simp, .inr ⟨rfl, rfl⟩⟩
  | failed job err fails final adds =>
    cases fails <;> exact ⟨_, _, adds, by simp, by simp, .inl rfl⟩
  | delayed job err b fails again adds =>
    cases fails <;> exact ⟨_, _, adds, by simp, by simp, .inl rfl⟩
  | unbegun adds | woken t adds | submitted job e rest t adds client | sent job t adds =>
    exact ⟨_, _, adds, by simp, by simp, .inl rfl⟩

/-! ## While the token has not fired

Only a look at the token abandons a batch, so a running sender has abandoned none before the
firing. -/

/-- What is told between two states is not that a batch was abandoned. -/
def Carries (p p' : PushState σ) : Prop :=
  ∃ told, p'.events = p.events ++ told ∧ told.countP PushEvent.isAbandonment = 0

theorem Carries.trans {p q r : PushState σ} (h : Carries p q) (h' : Carries q r) : Carries p r := by
  obtain ⟨l, hl, hn⟩ := h
  obtain ⟨l', hl', hn'⟩ := h'
  exact ⟨l ++ l', by rw [hl', hl, List.append_assoc], by rw [List.countP_append, hn, hn']⟩

/-- A sender whose token has fired waits for nothing but the call in progress. -/
theorem exists_step_of_fired (s : SenderSetup σ) (φ : Phase) :
    φ = .stopped ∨ ∃ time, ∀ p :
      PushState σ, time ≤ p.now → (step s false true φ p).isSome = true := by
  cases φ with
  | looping | napping t | deciding job | backingOff job t
  | ticked o => exact .inr ⟨0, fun p _ ↦ rfl⟩
  | draining =>
    refine .inr ⟨0, fun p _ ↦ ?_⟩
    simp only [step]
    split <;> rfl
  | submitting job e rest t result =>
    refine .inr ⟨t, fun p hp ↦ ?_⟩
    cases result <;> simp [step, Nat.not_lt.mpr hp]
  | flushing job t result =>
    refine .inr ⟨t, fun p hp ↦ ?_⟩
    cases result <;> simp [step, Nat.not_lt.mpr hp]
  | stopped => exact .inl rfl

end Sender

namespace Pipeline

variable {σ : Type} {s : SenderSetup σ}

/-! ## The turns of one sender in a run

The sender is found by its number.  The turns of the others are moves of the run too, and leave the
sender where it is. -/

/-- Whether a move is a turn of a sender. -/
def Move.isTurnOf (id : Nat) : Move → Bool
  | .turn (.sending i) => i = id
  | _ => false

/-- The turns of a sender. -/
def turnsOf (id : Nat) (l : List (Passage (Pipeline σ) Move)) : List (Passage (Pipeline σ) Move) :=
  l.filter (·.move.isTurnOf id)

/-- What a move writes into the history. -/
def told (t : Passage (Pipeline σ) Move) : List PushEvent :=
  t.after.shared.events.drop t.before.shared.events.length

theorem told_eq {t : Passage (Pipeline σ) Move} {es : List PushEvent}
    (h : t.after.shared.events = t.before.shared.events ++ es) : told t = es := by
  rw [told, h, List.drop_left]

theorem turnsOf_append (id : Nat) (l : List (Passage (Pipeline σ) Move))
    (t : Passage (Pipeline σ) Move) :
    turnsOf id (l ++ [t]) = turnsOf id l ++ if t.move.isTurnOf id then [t] else [] := by
  simp [turnsOf, List.filter_append, List.filter_singleton]

/-- A sender with a number and a token runs until the token fires, and is at `φ`. -/
structure Serves (id token : Nat) (w : Pipeline σ) (φ : Sender.Phase) : Prop where
  found : w.loops.find? (·.id = id) = some ⟨id, token, false, φ⟩
  rests : φ.isPause = true ∨ φ = .looping

theorem Serves.phase? {id token : Nat} {w : Pipeline σ} {φ : Sender.Phase}
    (h : w.Serves id token φ) : w.phase? id = some φ := by
  rw [Pipeline.phase?, h.found]
  rfl

theorem state_of_beside {φ φ' : Sender.Phase} {p p' : PushState σ} (h : Beside φ p φ' p') :
    p'.state = p.state := by
  cases h with
  | offer e pushed c => cases pushed <;> rfl
  | _ => rfl

/-- The moves beside the turns of senders leave the senders as they are, and the state that is
shown. -/
structure Leaves (w w' : Pipeline σ) : Prop where
  loops : ∃ new, w'.loops = w.loops ++ new
  state : w'.shared.state = w.shared.state
  fired : w.fired ⊆ w'.fired

theorem move_leaves {m : Move} {w w' : Pipeline σ} (hm : ∀ id, m ≠ .turn (.sending id))
    (e : move s m w = some w') : w.Leaves w' := by
  cases m with
  | beginExport id batch =>
    simp only [move, Option.ite_none_right_eq_some, Option.some_inj] at e
    obtain ⟨-, rfl⟩ := e
    exact ⟨⟨[], (List.append_nil _).symm⟩, rfl, List.Subset.refl _⟩
  | beginTick id token | startSender id token =>
    simp only [move, Option.ite_none_right_eq_some, Option.some_inj] at e
    obtain ⟨-, -, rfl⟩ := e
    exact ⟨⟨_, rfl⟩, rfl, List.Subset.refl _⟩
  | cancel token =>
    cases e
    exact ⟨⟨[], (List.append_nil _).symm⟩, rfl, List.subset_cons_self ..⟩
  | elapse ms =>
    cases e
    exact ⟨⟨[], (List.append_nil _).symm⟩, rfl, List.Subset.refl _⟩
  | turn t =>
    cases t with
    | exporting id =>
      obtain ⟨x, -, hx⟩ := Option.bind_eq_some_iff.mp e
      obtain ⟨beside, loops⟩ := stepExport_beside .stopped hx
      exact ⟨⟨[], by rw [loops, List.append_nil]⟩, state_of_beside beside,
        (fired_stepExport hx).symm ▸ List.Subset.refl _⟩
    | sending id => exact absurd rfl (hm id)

theorem isTurnOf_eq_false {m : Move} (hm : ∀ id, m ≠ .turn (.sending id)) (id : Nat) :
    m.isTurnOf id = false := by
  cases m with
  | turn t =>
    cases t with
    | sending i => exact absurd rfl (hm i)
    | exporting => rfl
  | _ => rfl

/-- What a token has fired for stays so. -/
theorem isFired_act {m : Move} {w w' : Pipeline σ} (e : act s m w = some w') {token : Nat}
    (fired : w.isFired token = true) : w'.isFired token = true := by
  rcases act_cases e with ⟨x, -, -, hturn⟩ | ⟨hm, hmove⟩
  · obtain ⟨r, -, rfl⟩ := Option.map_eq_some_iff.mp hturn
    exact fired
  · exact isFired_mono (move_leaves hm hmove).fired fired

/-- **A move is a turn of the sender or leaves it where it is.** -/
theorem Serves.act {id token : Nat} {w w' : Pipeline σ} {φ : Sender.Phase} {m : Move}
    (h : w.Serves id token φ) (e : act s m w = some w') :
    (m.isTurnOf id = true ∧ ∃ φ', w'.Serves id token φ' ∧
        Sender.turn s false (w.isFired token) φ w.shared = some (φ', w'.shared)) ∨
      m.isTurnOf id = false ∧ w'.Serves id token φ := by
  rcases act_cases e with ⟨x, rfl, hx, hturn⟩ | ⟨hm, hmove⟩
  · obtain ⟨⟨ψ, q⟩, turned, rfl⟩ := Option.map_eq_some_iff.mp hturn
    by_cases same : x.id = id
    · obtain ⟨i, tok, once, χ⟩ := x
      obtain rfl : i = id := same
      cases Option.some.inj (hx.symm.trans h.found)
      have pauses : ψ.isPause = true := by
        cases fired : w.isFired token with
        | true => rw [fired] at turned; exact (Sender.turn_closes h.rests turned).isPause
        | false => rw [fired] at turned; exact Sender.isPause_of_turn turned
      refine .inl ⟨decide_eq_true rfl, ψ, ⟨?_, .inl pauses⟩, turned⟩
      exact Keyed.find?_replace (c := (⟨i, token, false, ψ⟩ : Loop)) hx
    · refine .inr ⟨decide_eq_false same, ?_, h.rests⟩
      exact (Keyed.find?_replace_of_ne (c := { x with phase := ψ }) same).trans h.found
  · obtain ⟨new, loops⟩ := (move_leaves hm hmove).loops
    refine .inr ⟨isTurnOf_eq_false hm id, ?_, h.rests⟩
    rw [loops, List.find?_append, h.found]
    rfl

/-! ## Runs

The induction is over the run from the start of the sender, and the part after the firing follows
from what is known at the firing. -/

/-- What a turn of a sender does when its token has fired. -/
structure ClosingTurn (s : SenderSetup σ) (id : Nat) (t : Passage (Pipeline σ) Move) : Prop where
  /-- The attempt in progress goes on, or comes to its end; or the sender stops. -/
  closes : ∃ φ φ', t.before.phase? id = some φ ∧ t.after.phase? id = some φ' ∧
    Sender.Closes s t.before.shared t.after.shared φ φ'
  /-- No attempt begins. -/
  attempt : .attempt ∉ told t
  /-- Nothing is taken out of the queue. -/
  drained : ∀ batch, .drained batch ∉ told t
  queue : t.after.shared.channel.queue = t.before.shared.channel.queue

theorem closingTurn_of_closes {id token : Nat} {t : Passage (Pipeline σ) Move} {φ φ' : Sender.Phase}
    (before : t.before.Serves id token φ) (after : t.after.Serves id token φ')
    (h : Sender.Closes s t.before.shared t.after.shared φ φ') : ClosingTurn s id t := by
  obtain ⟨es, m, adds, closing⟩ := h.adds
  have he := told_eq adds.told
  exact ⟨⟨φ, φ', before.phase?, after.phase?, h⟩, he ▸ closing.attempt, he ▸ closing.drained,
    adds.queue⟩

/-- What a sender does from the moment on at which its token has fired. -/
theorem closes_of_trail {id token : Nat} {w v : Pipeline σ} {l : List (Passage (Pipeline σ) Move)}
    {φ : Sender.Phase} (serves : w.Serves id token φ) (fired : w.isFired token = true)
    (run : Trail (act s) w l v) :
    v.isFired token = true ∧
      (∃ ψ, v.Serves id token ψ ∧ (turnsOf id l).length + ψ.turnsLeft ≤ φ.turnsLeft) ∧
      ∀ t ∈ turnsOf id l, ClosingTurn s id t := by
  induction run with
  | start => exact ⟨fired, ⟨φ, serves, by simp [turnsOf]⟩, by simp [turnsOf]⟩
  | @move l v v' _ m e ih =>
    obtain ⟨fired, ⟨ψ, serves, bound⟩, closing⟩ := ih
    refine ⟨isFired_act e fired, ?_⟩
    rw [turnsOf_append]
    rcases serves.act e with ⟨turn, ψ', serves', turned⟩ | ⟨other, serves'⟩
    · rw [fired] at turned
      have closes := Sender.turn_closes serves.rests turned
      have fewer := closes.turnsLeft_lt
      rw [if_pos turn, List.length_append, List.length_singleton]
      refine ⟨⟨ψ', serves', by omega⟩, fun t ht ↦ ?_⟩
      rcases List.mem_append.mp ht with ht | ht
      · exact closing t ht
      · rw [List.mem_singleton.mp ht]
        exact closingTurn_of_closes serves serves' closes
    · rw [if_neg (by rw [other]; exact Bool.false_ne_true), List.append_nil]
      exact ⟨⟨ψ, serves', bound⟩, closing⟩

/-- How a sender shuts down: the token has fired at `w`, and the run goes on to `v` by the moves
`l`. -/
structure ShutsDown (s : SenderSetup σ) (id : Nat) (w : Pipeline σ)
    (l : List (Passage (Pipeline σ) Move)) (v : Pipeline σ) : Prop where
  /-- Every turn of the sender carries the attempt in progress on, or ends something. -/
  closing : ∀ t ∈ turnsOf id l, ClosingTurn s id t
  /-- There is a bound on the number of its turns that depends on where the token has found it. -/
  bounded : ∃ φ, w.phase? id = some φ ∧ (turnsOf id l).length ≤ φ.turnsLeft
  /-- As long as it has not stopped, it can have another turn when time has passed. -/
  goesOn : v.phase? id = some .stopped ∨ ∃ time, ∀ ms, time ≤ v.shared.now + ms →
    (act s (.turn (.sending id)) (v.elapse ms)).isSome = true

/-- A remote end whose first flush takes ten milliseconds and fails. -/
def slowToFail : ScriptedClient := ⟨[], [⟨10, .error (.timeout "late")⟩]⟩

/-- A pipeline with an envelope in its queue. -/
def oneQueued : Pipeline ScriptedClient :=
  start
    ⟨⟨10, .dropNewest, [.ofMeasurement (.gauge "a" 1)], by decide⟩, 0, .new, .new, .new⟩ slowToFail

end Pipeline

end MetricsAgent
