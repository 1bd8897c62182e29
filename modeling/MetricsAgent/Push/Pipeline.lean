import MetricsAgent.Push.Sender

/-!
# Push pipelines

Exports put measurements into a channel, a sender takes them out.  They share the channel and take
their turns in any order.

* An export offers the envelopes of its batch one by one and counts what became of them
  (`stepExport`).  In the mode in which producers wait it may stand before any of them.
* A sender is a loop that ticks until its token fires, or runs through a single tick; its turns are
  those of `MetricsAgent.Push.Sender`.
* Someone may stop waiting for an export (`dropExport`).  What it has put into the channel stays
  there, and its ticket is given back.
* `Pipeline.Reachable` holds the states that some order of turns, arrivals, cancellations and
  passing time leads to.  Numbers are not used twice and there is one sender at a time; nothing else
  is asked of the order.

Tokens are numbered.  Token zero is that of the pipeline; when it fires, all others count as fired.
An export that waits when the token of the pipeline fires counts the rest of its batch as dropped.
-/

set_option autoImplicit false

namespace MetricsAgent

namespace Pipeline

/-- Where an export stands: the envelopes still to be offered, and whether the first of them
waits. -/
inductive ExportPhase where
  | offering (rest : List Envelope)
  | waiting (first : Envelope) (rest : List Envelope)
  | ended

/-- An export: its number, where it stands, and its summary so far. -/
structure Export where
  id : Nat
  phase : ExportPhase
  summary : ExportSummary

/-- A sender at work: its number, its token, whether it ends with its tick, and where it stands. -/
structure Loop where
  id : Nat
  token : Nat
  once : Bool
  phase : Sender.Phase

end Pipeline

/-- A pipeline: the shared parts, the exports and senders, and the tokens that have fired. -/
structure Pipeline (σ : Type) where
  shared : PushState σ
  exports : List Pipeline.Export
  loops : List Pipeline.Loop
  fired : List Nat

namespace Pipeline

variable {σ : Type}

/-- A pipeline where nothing has happened yet. -/
def start (channel : Channel Envelope) (client : σ) : Pipeline σ :=
  ⟨⟨0, channel, client, .idle, .empty⟩, [], [], []⟩

/-- Whether a token has fired. -/
def isFired (w : Pipeline σ) (token : Nat) : Bool := w.fired.contains token || w.fired.contains 0

/-- Replace an export. -/
def putExport (w : Pipeline σ) (x : Export) : Pipeline σ :=
  { w with exports := w.exports.map fun y ↦ if y.id = x.id then x else y }

/-- Replace a sender. -/
def putLoop (w : Pipeline σ) (x : Loop) : Pipeline σ :=
  { w with loops := w.loops.map fun y ↦ if y.id = x.id then x else y }

/-- What the history says of an offered envelope. -/
def offerEvents (e : Envelope) : Pushed Envelope → List PushEvent
  | .stored => [.accepted e]
  | .evicted old => [.evicted old, .accepted e]
  | .refused => [.refused e]

/-- Count an offered envelope in a summary. -/
def tally (s : ExportSummary) (accepted : Bool) : ExportSummary :=
  if accepted then { s with accepted := s.accepted + 1 } else { s with dropped := s.dropped + 1 }

/-- An export has had its turn with an envelope. -/
def afterOffer (w : Pipeline σ) (x : Export) (e : Envelope) (rest : List Envelope) :
    Channel.Turn Envelope (Pushed Envelope) → Pipeline σ
  | .done pushed c =>
    let shared := (offerEvents e pushed).foldl PushState.note { w.shared with channel := c }
    { w with shared := shared }.putExport
      { x with phase := .offering rest, summary := tally x.summary pushed.accepted }
  | .parked c =>
    { w with shared := { w.shared with channel := c } }.putExport
    { x with phase := .waiting e rest }

/-- The turn of an export. When the token of the pipeline fires while it waits, what is left of the
batch counts as dropped. -/
def stepExport (w : Pipeline σ) (x : Export) : Option (Pipeline σ) :=
  match x.phase with
  | .offering [] => some (w.putExport { x with phase := .ended })
  | .offering (e :: rest) => some (w.afterOffer x e rest (w.shared.channel.enqueueTurn x.id e))
  | .waiting e rest =>
    match w.shared.channel.resumeEnqueue x.id (w.isFired 0) e with
    | .waits => none
    | .cancelled c =>
      let summary := { x.summary with dropped := x.summary.dropped + (rest.length + 1) }
      some ({ w with shared := { w.shared with channel := c } }.putExport
        { x with phase := .ended, summary := summary })
    | .turn t => some (w.afterOffer x e rest t)
  | .ended => none

/-- The turn of a sender. -/
def stepLoop (s : SenderSetup σ) (w : Pipeline σ) (x : Loop) : Option (Pipeline σ) :=
  (Sender.step s x.once (w.isFired x.token) x.phase w.shared).map fun (phase, shared) ↦
    { w with shared := shared }.putLoop { x with phase := phase }

/-- The tasks of a pipeline. -/
inductive TaskId where
  | exporting (id : Nat)
  | sending (id : Nat)
  deriving DecidableEq, Repr

/-- The turn of a task. -/
def step (s : SenderSetup σ) (t : TaskId) (w : Pipeline σ) : Option (Pipeline σ) :=
  match t with
  | .exporting id => (w.exports.find? (·.id = id)).bind w.stepExport
  | .sending id => (w.loops.find? (·.id = id)).bind (w.stepLoop s)

/-- Begin to export a batch. -/
def beginExport (w : Pipeline σ) (id : Nat) (batch : List Measurement) : Pipeline σ :=
  { w with exports := w.exports ++ [⟨id, .offering (batch.map .ofMeasurement), default⟩] }

/-- Begin a single tick. -/
def beginTick (w : Pipeline σ) (id token : Nat) : Pipeline σ :=
  { w with loops := w.loops ++ [⟨id, token, true, .draining⟩] }

/-- Start a sender that ticks until its token fires. -/
def startSender (w : Pipeline σ) (id token : Nat) : Pipeline σ :=
  { w with loops := w.loops ++ [⟨id, token, false, .looping⟩] }

/-- A token fires. -/
def cancel (w : Pipeline σ) (token : Nat) : Pipeline σ := { w with fired := token :: w.fired }

/-- Someone stops waiting for an export, which gives its ticket back. -/
def dropExport (w : Pipeline σ) (id : Nat) : Pipeline σ :=
  let c := w.shared.channel
  { w with
    shared := { w.shared with channel := { c with space := c.space.giveBack id } }
    exports := w.exports.filter (·.id ≠ id) }

/-- Time passes. -/
def elapse (w : Pipeline σ) (ms : Nat) : Pipeline σ :=
  { w with shared := { w.shared with now := w.shared.now + ms } }

/-- Whether a number is not in use. -/
def isFresh (w : Pipeline σ) (id : Nat) : Prop :=
  (∀ x ∈ w.exports, x.id ≠ id) ∧ ∀ x ∈ w.loops, x.id ≠ id

/-- Whether a sender is through: it has stopped, or its only tick is over. -/
def Loop.isOver (x : Loop) : Bool :=
  match x.phase with
  | .stopped => true
  | .ticked _ => x.once
  | _ => false

/-- No sender is at work. -/
def isQuiet (w : Pipeline σ) : Prop := ∀ x ∈ w.loops, x.isOver = true

/-- The states that some order of events leads to. There is one sender at a time. -/
inductive Reachable (s : SenderSetup σ) (c : Channel Envelope) (client : σ) :
    Pipeline σ → Prop where
  | start : Reachable s c client (start c client)
  | beginExport {w : Pipeline σ} (h : Reachable s c client w) (id : Nat) (batch : List Measurement)
    (fresh : w.isFresh id) : Reachable s c client (w.beginExport id batch)
  | beginTick {w : Pipeline σ} (h : Reachable s c client w) (id token : Nat) (fresh : w.isFresh id)
    (quiet : w.isQuiet) : Reachable s c client (w.beginTick id token)
  | startSender {w : Pipeline σ} (h : Reachable s c client w) (id token : Nat)
    (fresh : w.isFresh id)
    (quiet : w.isQuiet) : Reachable s c client (w.startSender id token)
  | cancel {w : Pipeline σ} (h : Reachable s c client w) (token : Nat) :
    Reachable s c client (w.cancel token)
  | elapse {w : Pipeline σ} (h : Reachable s c client w) (ms : Nat) :
    Reachable s c client (w.elapse ms)
  | step {w w' : Pipeline σ} (h : Reachable s c client w) (t : TaskId) (e : w.step s t = some w') :
    Reachable s c client w'

end Pipeline

end MetricsAgent
