import MetricsAgent.Channel.Basic

/-!
# Producers and consumers of a channel

Any number of tasks share a channel.  Each runs from one point where it may have to wait to the
next, and the tasks take their turns in any order.

* `Traffic` is a channel with its tasks, the tokens that have fired, and the history of what was
  accepted, evicted, refused and taken out.
* `Traffic.step` is the turn of one task: it arrives, comes back from waiting, or finds its token
  fired and ends.
* `Traffic.offer` and `Traffic.poll` are the operations that do not wait, done by anyone at any
  time.
* `Traffic.Reachable` holds the states that some order of turns, arrivals, offers and cancellations
  leads to.

A task is known by the number of its ticket, and numbers are not used twice; that is all that an
arrival has to respect.  The history is part of the state because what one wants to know of a
channel is about it: which items were taken, in which order, and what became of the others.
-/

set_option autoImplicit false

namespace MetricsAgent

namespace Traffic

/-- How a task ended. -/
inductive Outcome (α : Type) where
  | enqueued (accepted : Bool)
  | dequeued (x : α)
  | cancelled

/-- Where a task stands. -/
inductive Phase (α : Type) where
  | arriving (x : α)
  | producing (x : α)
  | asking
  | consuming
  | ended (o : Outcome α)

/-- A task: the number of its ticket, its token, and where it stands. -/
structure Task (α : Type) where
  id : Nat
  token : Nat
  phase : Phase α

/-- Something that happened to an item. -/
inductive Event (α : Type) where
  | accepted (x : α)
  | evicted (x : α)
  | refused (x : α)
  | taken (x : α)

end Traffic

/-- A channel with its tasks, the tokens that have fired, and the history. -/
structure Traffic (α : Type) where
  channel : Channel α
  tasks : List (Traffic.Task α)
  fired : List Nat
  history : List (Traffic.Event α)

namespace Traffic

variable {α : Type}

/-- What the history says of an offered item. -/
def offerEvents (x : α) : Pushed α → List (Event α)
  | .stored => [.accepted x]
  | .evicted old => [.evicted old, .accepted x]
  | .refused => [.refused x]

/-- Move a task on. -/
def setPhase (w : Traffic α) (id : Nat) (p : Phase α) : Traffic α :=
  { w with tasks := w.tasks.map fun t ↦ if t.id = id then { t with phase := p } else t }

/-- A producer has had its turn. -/
def afterEnqueue (w : Traffic α) (id : Nat) (x : α) : Channel.Turn α (Pushed α) → Traffic α
  | .done pushed c =>
    { w with channel := c, history := w.history ++ offerEvents x pushed }.setPhase id
      (.ended (.enqueued pushed.accepted))
  | .parked c => { w with channel := c }.setPhase id (.producing x)

/-- A consumer has had its turn. -/
def afterDequeue (w : Traffic α) (id : Nat) : Channel.Turn α α → Traffic α
  | .done x c =>
    { w with channel := c, history := w.history ++ [Event.taken x] }.setPhase id
    (.ended (.dequeued x))
  | .parked c => { w with channel := c }.setPhase id .consuming

/-- The turn of a task; `none` while it has to wait or when it has ended. -/
def stepTask (w : Traffic α) (t : Task α) : Option (Traffic α) :=
  match t.phase with
  | .arriving x => some (w.afterEnqueue t.id x (w.channel.enqueueTurn t.id x))
  | .producing x =>
    match w.channel.resumeEnqueue t.id (w.fired.contains t.token) x with
    | .waits => none
    | .cancelled c => some ({ w with channel := c }.setPhase t.id (.ended .cancelled))
    | .turn turn => some (w.afterEnqueue t.id x turn)
  | .asking => some (w.afterDequeue t.id (w.channel.dequeueTurn t.id))
  | .consuming =>
    match w.channel.resumeDequeue t.id (w.fired.contains t.token) with
    | .waits => none
    | .cancelled c => some ({ w with channel := c }.setPhase t.id (.ended .cancelled))
    | .turn turn => some (w.afterDequeue t.id turn)
  | .ended _ => none

/-- The turn of the task with a number. -/
def step (id : Nat) (w : Traffic α) : Option (Traffic α) :=
  (w.tasks.find? (·.id = id)).bind w.stepTask

/-- A channel without tasks. -/
def start (c : Channel α) : Traffic α := ⟨c, [], [], []⟩

/-- Whether a number is not in use. -/
def isFresh (w : Traffic α) (id : Nat) : Prop := ∀ t ∈ w.tasks, t.id ≠ id

/-- A producer arrives. -/
def spawnProducer (w : Traffic α) (id token : Nat) (x : α) : Traffic α :=
  { w with tasks := w.tasks ++ [⟨id, token, .arriving x⟩] }

/-- A consumer arrives. -/
def spawnConsumer (w : Traffic α) (id token : Nat) : Traffic α :=
  { w with tasks := w.tasks ++ [⟨id, token, .asking⟩] }

/-- An item is offered by someone who does not wait. -/
def offer (w : Traffic α) (x : α) : Bool × Traffic α :=
  let (pushed, c) := w.channel.tryEnqueue x
  (pushed.accepted, { w with channel := c, history := w.history ++ offerEvents x pushed })

/-- An item is asked for by someone who does not wait. -/
def poll (w : Traffic α) : Option α × Traffic α :=
  match w.channel.tryDequeue? with
  | some (x, c) => (some x, { w with channel := c, history := w.history ++ [.taken x] })
  | none => (none, w)

/-- A token fires. -/
def cancel (w : Traffic α) (token : Nat) : Traffic α := { w with fired := token :: w.fired }

/-- The states that some order of arrivals, turns and cancellations leads to. -/
inductive Reachable (c : Channel α) : Traffic α → Prop where
  | start : Reachable c (start c)
  | produce {w : Traffic α} (h : Reachable c w) (id token : Nat) (x : α) (fresh : w.isFresh id) :
    Reachable c (w.spawnProducer id token x)
  | consume {w : Traffic α} (h : Reachable c w) (id token : Nat) (fresh : w.isFresh id) :
    Reachable c (w.spawnConsumer id token)
  | offer {w : Traffic α} (h : Reachable c w) (x : α) : Reachable c (w.offer x).2
  | poll {w : Traffic α} (h : Reachable c w) : Reachable c w.poll.2
  | cancel {w : Traffic α} (h : Reachable c w) (token : Nat) : Reachable c (w.cancel token)
  | step {w w' : Traffic α} (h : Reachable c w) (id : Nat) (e : w.step id = some w') :
    Reachable c w'

end Traffic

end MetricsAgent
