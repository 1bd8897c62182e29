import MetricsAgent.Proofs.Channel.Effect
import MetricsAgent.Proofs.Keyed
import MetricsAgent.Proofs.Trail
import MetricsAgent.Push.Pipeline

/-!
# The course of the one sender

A pipeline has any number of exports and senders, but one sender at most is at work.  What happens
to the channel, the client and the history therefore follows from where this sender stands and from
what happens beside its turns.

* `Pipeline.Move` lists the moves of a pipeline, and `Pipeline.move` makes them.
* `Pipeline.At` says where the sender that is at work stands, or the last one was left.
* `Pipeline.Beside` lists what can happen beside its turns, one constructor for each kind of event.
* `Pipeline.turn_or_beside` says that every move of a pipeline is a turn of this sender or beside
  its turns.

With these, an invariant of a pipeline is proved by looking at a turn of the sender and at the four
events of `Pipeline.Beside`, and never at the lists of exports and senders.  That there is one
sender at work is an invariant of its own: a sender begins only when no other is at work, and one
that is through has no more turns.
-/

set_option autoImplicit false

namespace MetricsAgent

namespace PushState

variable {σ : Type}

/-- What happened, in order. -/
def events (p : PushState σ) : List PushEvent := p.history.toList.map (·.2)

@[simp] theorem events_note (p : PushState σ) (e : PushEvent) :
    (p.note e).events = p.events ++ [e] := by
  simp [events, note]

@[simp] theorem events_become (p : PushState σ) (s : SenderState) :
    (p.become s).events = p.events ++ [.became s] := by
  simp [become, events, note]

@[simp] theorem events_count (p : PushState σ) (f : SelfMetrics → SelfMetrics) :
    (p.count f).events = p.events := rfl

theorem events_foldl_note (l : List PushEvent) (p : PushState σ) :
    (l.foldl note p).events = p.events ++ l := by
  induction l generalizing p with
  | nil => exact (List.append_nil _).symm
  | cons e l ih => rw [List.foldl_cons, ih, events_note, List.append_assoc, List.singleton_append]

@[simp] theorem channel_become (p : PushState σ) (s : SenderState) :
    (p.become s).channel = p.channel := rfl

@[simp] theorem client_note (p : PushState σ) (e : PushEvent) : (p.note e).client = p.client := rfl

@[simp] theorem client_become (p : PushState σ) (s : SenderState) :
    (p.become s).client = p.client := rfl

@[simp] theorem client_count (p : PushState σ) (f : SelfMetrics → SelfMetrics) :
    (p.count f).client = p.client := rfl

theorem foldl_note (l : List PushEvent) (p : PushState σ) :
    (l.foldl note p).channel = p.channel ∧ (l.foldl note p).client = p.client := by
  induction l generalizing p with
  | nil => exact ⟨rfl, rfl⟩
  | cons e l ih => exact ih (p.note e)

end PushState

namespace Pipeline

variable {σ : Type}

/-! ## Moves

The model has its moves as constructors of a reachability relation.  Here they are data, so that a
run can be written down and its moves counted.  The two agree (`reachable_iff_exists_trail`). -/

instance (w : Pipeline σ) (id : Nat) : Decidable (w.isFresh id) :=
  inferInstanceAs (Decidable ((∀ x ∈ w.exports, x.id ≠ id) ∧ ∀ x ∈ w.loops, x.id ≠ id))

instance (w : Pipeline σ) : Decidable w.isQuiet :=
  inferInstanceAs (Decidable (∀ x ∈ w.loops, x.isOver = true))

/-- What can happen next to a pipeline. -/
inductive Move where
  | beginExport (id : Nat) (batch : List Measurement)
  | beginTick (id token : Nat)
  | startSender (id token : Nat)
  | cancel (token : Nat)
  | elapse (ms : Nat)
  /-- A task has its turn. -/
  | turn (t : TaskId)

/-- Make a move, if it is possible. -/
def move (s : SenderSetup σ) (m : Move) (w : Pipeline σ) : Option (Pipeline σ) :=
  match m with
  | .beginExport id batch => if w.isFresh id then some (w.beginExport id batch) else none
  | .beginTick id token =>
    if w.isFresh id then if w.isQuiet then some (w.beginTick id token) else none else none
  | .startSender id token =>
    if w.isFresh id then if w.isQuiet then some (w.startSender id token) else none else none
  | .cancel token => some (w.cancel token)
  | .elapse ms => some (w.elapse ms)
  | .turn t => w.step s t

/-- The reachable states are those at the end of a trail. -/
theorem reachable_iff_exists_trail {s : SenderSetup σ} {c : Channel Envelope} {client : σ}
    {w : Pipeline σ} :
    Reachable s c client w ↔ ∃ l, Trail (move s) (start c client) l w := by
  constructor
  · intro h
    induction h with
    | start => exact ⟨[], .start⟩
    | beginExport _ id batch fresh ih =>
      obtain ⟨l, h⟩ := ih
      exact ⟨_, h.move (.beginExport id batch) (if_pos fresh)⟩
    | beginTick _ id token fresh quiet ih =>
      obtain ⟨l, h⟩ := ih
      exact ⟨_, h.move (.beginTick id token) ((if_pos fresh).trans (if_pos quiet))⟩
    | startSender _ id token fresh quiet ih =>
      obtain ⟨l, h⟩ := ih
      exact ⟨_, h.move (.startSender id token) ((if_pos fresh).trans (if_pos quiet))⟩
    | cancel _ token ih => obtain ⟨l, h⟩ := ih; exact ⟨_, h.move (.cancel token) rfl⟩
    | elapse _ ms ih => obtain ⟨l, h⟩ := ih; exact ⟨_, h.move (.elapse ms) rfl⟩
    | step _ t e ih => obtain ⟨l, h⟩ := ih; exact ⟨_, h.move (.turn t) e⟩
  · rintro ⟨l, h⟩
    refine h.invariant .start fun {v v'} m hv e ↦ ?_
    cases m with
    | beginExport id batch =>
      simp only [move, Option.ite_none_right_eq_some, Option.some_inj] at e
      obtain ⟨fresh, rfl⟩ := e
      exact .beginExport hv id batch fresh
    | beginTick id token =>
      simp only [move, Option.ite_none_right_eq_some, Option.some_inj] at e
      obtain ⟨fresh, quiet, rfl⟩ := e
      exact .beginTick hv id token fresh quiet
    | startSender id token =>
      simp only [move, Option.ite_none_right_eq_some, Option.some_inj] at e
      obtain ⟨fresh, quiet, rfl⟩ := e
      exact .startSender hv id token fresh quiet
    | cancel token => cases e; exact .cancel hv token
    | elapse ms => cases e; exact .elapse hv ms
    | turn t => exact .step hv t e

/-! ## Where the sender stands

A sender can be left for good when it has stopped, or after a tick if it was asked for one tick
only. -/

end Pipeline

/-- Whether a phase is one in which a sender can be left for good. -/
def Sender.Phase.isEnd : Sender.Phase → Bool
  | .stopped | .ticked _ => true
  | _ => false

namespace Pipeline

variable {σ : Type}

/-- The phase of the sender with a number. -/
def phase? (w : Pipeline σ) (id : Nat) : Option Sender.Phase :=
  (w.loops.find? (·.id = id)).map (·.phase)

/-- Where a sender stands before and after a move that is its turn. -/
def senderTurn? (t : Passage (Pipeline σ) Move) : Option (Sender.Phase × Sender.Phase) :=
  match t.move with
  | .turn (.sending id) => (t.before.phase? id).bind fun φ ↦ (t.after.phase? id).map (φ, ·)
  | _ => none

/-- The one sender that is at work, if there is one, stands at `φ`; if there is none, the last one
was left there. -/
structure At (w : Pipeline σ) (φ : Sender.Phase) : Prop where
  phase : ∀ x ∈ w.loops, x.isOver = false → x.phase = φ
  alone : ∀ x ∈ w.loops, ∀ y ∈ w.loops, x.isOver = false → y.isOver = false → x.id = y.id
  quiet : w.isQuiet → φ.isEnd = true

theorem at_start (c : Channel Envelope) (client : σ) : (start c client).At .stopped :=
  ⟨by simp [start], by simp [start], fun _ ↦ rfl⟩

/-- A sender that is through has no more turns. -/
theorem step_of_isOver {s : SenderSetup σ} {x : Loop} (h : x.isOver = true) (fired : Bool)
    (p : PushState σ) : Sender.step s x.once fired x.phase p = none := by
  obtain ⟨id, token, once, phase⟩ := x
  cases phase with
  | ticked o =>
    obtain rfl : once = true := h
    rfl
  | stopped => rfl
  | _ => simp [Loop.isOver] at h

/-- A sender begins when no other is at work. -/
theorem At.begin {w : Pipeline σ} {φ : Sender.Phase} (h : w.At φ) (quiet : w.isQuiet) (x : Loop)
    (hx : x.isOver = false) :
    At { w with loops := w.loops ++ [x] } x.phase ∧ φ.isEnd = true := by
  have last : ∀ y ∈ w.loops ++ [x], y.isOver = false → y = x := by
    intro y hy hover
    rcases List.mem_append.mp hy with hy | hy
    · rw [quiet y hy] at hover
      cases hover
    · exact List.mem_singleton.mp hy
  refine ⟨⟨fun y hy hover ↦ by rw [last y hy hover], ?_, ?_⟩, h.quiet quiet⟩
  · intro y hy z hz hyo hzo
    rw [last y hy hyo, last z hz hzo]
  · intro hquiet
    rw [hquiet x (List.mem_append_right _ (List.mem_singleton_self x))] at hx
    cases hx

/-- The sender at work goes on. -/
theorem At.putLoop {w : Pipeline σ} {φ ψ : Sender.Phase} (h : w.At φ) {x : Loop} (hx : x ∈ w.loops)
    (hover : x.isOver = false) (p : PushState σ) (hend : Loop.isOver { x with phase := ψ } = true →
      ψ.isEnd = true) :
    At ({ w with shared := p }.putLoop { x with phase := ψ }) ψ := by
  -- The loop that took the step is the only one that runs, so every other one is over.
  have mem : ∀ y ∈ ({ w with shared := p }.putLoop { x with phase := ψ }).loops,
      y = { x with phase := ψ } ∨ y.isOver = true := by
    intro y hy
    obtain ⟨z, hz, rfl⟩ := List.mem_map.mp hy
    by_cases hid : z.id = x.id
    · exact .inl (if_pos hid)
    · right
      rw [if_neg hid]
      cases hz' : z.isOver with
      | true => rfl
      | false => exact absurd (h.alone z hz x hx hz' hover) hid
  refine ⟨?_, ?_, ?_⟩
  · intro y hy hyo
    rcases mem y hy with rfl | hy'
    · rfl
    · rw [hy'] at hyo; cases hyo
  · intro y hy z hz hyo hzo
    rcases mem y hy with rfl | hy'
    · rcases mem z hz with rfl | hz'
      · rfl
      · rw [hz'] at hzo; cases hzo
    · rw [hy'] at hyo; cases hyo
  · intro hquiet
    refine hend (hquiet _ (List.mem_map.mpr ⟨x, hx, ?_⟩))
    rw [if_pos rfl]

/-! ## What can happen

An export offers envelopes or waits, a sender begins, and time passes.  The firing of a token is
beside the turns of the sender too, and changes nothing that is shared. -/

/-- What can happen beside the turns of the sender at `φ`. -/
inductive Beside : Sender.Phase → PushState σ → Sender.Phase → PushState σ → Prop where
  /-- The next sender begins. -/
  | begin {φ ψ : Sender.Phase} {p : PushState σ} (hφ : φ.isEnd = true)
    (hψ : ψ = .draining ∨ ψ = .looping) : Beside φ p ψ p
  /-- An export is through with an envelope. -/
  | offer {φ : Sender.Phase} {p : PushState σ} (e : Envelope) (pushed : Pushed Envelope)
    (c : Channel Envelope) (h : p.channel.Follows (.offered e pushed) c) :
    Beside φ p φ ((offerEvents e pushed).foldl PushState.note { p with channel := c })
  /-- An export waits, or no longer waits. -/
  | wait {φ : Sender.Phase} {p : PushState σ} (c : Channel Envelope) (h : p.channel.Same c) :
    Beside φ p φ { p with channel := c }
  | elapse {φ : Sender.Phase} {p : PushState σ} (ms : Nat) :
    Beside φ p φ { p with now := p.now + ms }

theorem loops_afterOffer (w : Pipeline σ) (x : Export) (e : Envelope) (rest : List Envelope)
    (t : Channel.Turn Envelope (Pushed Envelope)) : (w.afterOffer x e rest t).loops = w.loops := by
  cases t <;> rfl

theorem afterOffer_beside (φ : Sender.Phase) (w : Pipeline σ) (x : Export) (e : Envelope)
    (rest : List Envelope) {t : Channel.Turn Envelope (Pushed Envelope)}
    (h : t.offers w.shared.channel e) : Beside φ w.shared φ (w.afterOffer x e rest t).shared := by
  cases t with
  | done pushed c => exact .offer e pushed c h
  | parked c => exact .wait c h

theorem stepExport_beside (φ : Sender.Phase) {w w' : Pipeline σ} {x : Export}
    (h : w.stepExport x = some w') : Beside φ w.shared φ w'.shared ∧ w'.loops = w.loops := by
  cases phase : x.phase with
  | offering rest =>
    cases rest with
    | nil =>
      simp only [stepExport, phase, Option.some_inj] at h
      subst h
      exact ⟨.wait _ (.refl _), rfl⟩
    | cons e rest =>
      simp only [stepExport, phase, Option.some_inj] at h
      subst h
      exact ⟨afterOffer_beside φ w x e rest (Channel.enqueueTurn_offers _ _ _),
        loops_afterOffer w x e rest _⟩
  | waiting e rest =>
    simp only [stepExport, phase] at h
    split at h
    · cases h
    · rename_i c hc
      cases h
      exact ⟨.wait c (Channel.resumeEnqueue_cancelled hc), rfl⟩
    · rename_i t ht
      cases h
      exact ⟨afterOffer_beside φ w x e rest (Channel.resumeEnqueue_turn ht),
        loops_afterOffer w x e rest t⟩
  | ended => simp [stepExport, phase] at h

theorem fired_afterOffer (w : Pipeline σ) (x : Export) (e : Envelope) (rest : List Envelope)
    (t : Channel.Turn Envelope (Pushed Envelope)) : (w.afterOffer x e rest t).fired = w.fired := by
  cases t <;> rfl

theorem fired_stepExport {w w' : Pipeline σ} {x : Export} (e : w.stepExport x = some w') :
    w'.fired = w.fired := by
  simp only [stepExport] at e
  split at e
  · cases e; rfl
  · cases e; exact fired_afterOffer ..
  · split at e
    · cases e
    · cases e; rfl
    · cases e; exact fired_afterOffer ..
  · cases e

theorem isFired_mono {w w' : Pipeline σ} (h : w.fired ⊆ w'.fired) {token : Nat}
    (fired : w.isFired token = true) : w'.isFired token = true := by
  simp only [isFired, Bool.or_eq_true, List.contains_iff_mem] at fired ⊢
  exact fired.imp (h ·) (h ·)

/-- **Every move of a pipeline is a turn of the sender at work or beside its turns.** -/
theorem turn_or_beside {s : SenderSetup σ} {m : Move} {w w' : Pipeline σ} {φ : Sender.Phase}
    (h : w.At φ) (e : move s m w = some w') :
    ∃ φ', w'.At φ' ∧
      ((∃ once fired, Sender.step s once fired φ w.shared = some (φ', w'.shared)) ∧
          senderTurn? ⟨w, m, w'⟩ = some (φ, φ') ∨
        Beside φ w.shared φ' w'.shared ∧ senderTurn? ⟨w, m, w'⟩ = none) := by
  cases m with
  | beginExport id batch =>
    simp only [move, Option.ite_none_right_eq_some, Option.some_inj] at e
    obtain ⟨-, rfl⟩ := e
    exact ⟨φ, ⟨h.phase, h.alone, h.quiet⟩, .inr ⟨.wait _ (.refl _), rfl⟩⟩
  | beginTick id token =>
    simp only [move, Option.ite_none_right_eq_some, Option.some_inj] at e
    obtain ⟨-, quiet, rfl⟩ := e
    obtain ⟨hat, hend⟩ := h.begin quiet ⟨id, token, true, .draining⟩ rfl
    exact ⟨_, hat, .inr ⟨.begin hend (.inl rfl), rfl⟩⟩
  | startSender id token =>
    simp only [move, Option.ite_none_right_eq_some, Option.some_inj] at e
    obtain ⟨-, quiet, rfl⟩ := e
    obtain ⟨hat, hend⟩ := h.begin quiet ⟨id, token, false, .looping⟩ rfl
    exact ⟨_, hat, .inr ⟨.begin hend (.inr rfl), rfl⟩⟩
  | cancel token =>
    cases e
    exact ⟨φ, ⟨h.phase, h.alone, h.quiet⟩, .inr ⟨.wait _ (.refl _), rfl⟩⟩
  | elapse ms =>
    cases e
    exact ⟨φ, ⟨h.phase, h.alone, h.quiet⟩, .inr ⟨.elapse ms, rfl⟩⟩
  | turn t =>
    cases t with
    | exporting id =>
      obtain ⟨x, -, hx⟩ := Option.bind_eq_some_iff.mp e
      obtain ⟨hbeside, hloops⟩ := stepExport_beside φ hx
      refine ⟨φ, ⟨?_, ?_, ?_⟩, .inr ⟨hbeside, rfl⟩⟩
      · rw [hloops]; exact h.phase
      · rw [hloops]; exact h.alone
      · rw [isQuiet, hloops]; exact h.quiet
    | sending id =>
      -- The loop that takes a turn is not over, so it stands in the phase the pipeline is at.
      obtain ⟨x, hfind, hx⟩ := Option.bind_eq_some_iff.mp e
      obtain ⟨⟨ψ, p⟩, hstep, hw⟩ := Option.map_eq_some_iff.mp hx
      obtain rfl : { w with shared := p }.putLoop { x with phase := ψ } = w' := hw
      have hid : x.id = id := Keyed.key_of_find? hfind
      have hmem : x ∈ w.loops := List.mem_of_find?_eq_some hfind
      have hover : x.isOver = false := by
        cases hover : x.isOver with
        | false => rfl
        | true => rw [step_of_isOver hover] at hstep; cases hstep
      have hphase := h.phase x hmem hover
      refine ⟨ψ, h.putLoop hmem hover p ?_, .inl ⟨⟨x.once, w.isFired x.token, hphase ▸ hstep⟩, ?_⟩⟩
      · intro hend
        cases ψ <;> first | rfl | simp [Loop.isOver] at hend
      · subst hid
        have hbefore : w.phase? x.id = some φ := by rw [phase?, hfind, Option.map_some, hphase]
        have hafter :
            ({ w with shared := p }.putLoop { x with phase := ψ }).phase? x.id = some ψ := by
          have hput := Keyed.find?_replace (c := { x with phase := ψ }) hfind
          rw [phase?, putLoop, hput]
          rfl
        simp only [senderTurn?, hbefore, hafter]
        rfl

/-- A sender that tries a failed batch once more, and at once. -/
def retryingOnce (client : RemoteClient σ) : SenderSetup σ :=
  ⟨client, ⟨1, .zero, .zero, fun _ window ↦ window⟩, fun _ ↦ true, 5, .zero⟩

end Pipeline

end MetricsAgent
