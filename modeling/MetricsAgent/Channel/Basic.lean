import MetricsAgent.Channel.Queue
import MetricsAgent.Channel.Notify
import MetricsAgent.SelfMetrics.Basic

/-!
# Channels

A channel is a bounded queue with two notifications, one that there are items and one that there is
space, and with the metrics that it keeps up to date.  Producers offer items and consumers take the
oldest one; what a producer does at a full queue depends on the mode of the queue.

* `Channel.tryEnqueue` and `Channel.tryDequeue?` do not wait.  In the mode that would wait, an item
  that finds no space is refused.
* `Channel.enqueueTurn` and `Channel.dequeueTurn` are the stretch of a task from its arrival, or
  from its coming back, to the next point where it has to wait: `Turn.parked` is waiting with a
  ticket.
* `Channel.resumeEnqueue` and `Channel.resumeDequeue` are what a waiting task does when it is looked
  at: nothing while neither its ticket nor its token has fired, and giving the ticket back when the
  token has.

The order inside these stretches is what makes the channel right.  A task takes its ticket *before*
it looks at the queue, so that no notification can fall between the look and the wait; and the
number of items that observers see (`Channel.length`) is changed in the same stretch as the queue,
before anybody is told.

What happens between the stretches of different tasks is in `MetricsAgent.Channel.Traffic`, for
tasks that are interrupted only where they wait, and in `MetricsAgent.Proofs.Channel.Threads` for
threads that are interrupted anywhere.
-/

set_option autoImplicit false

namespace MetricsAgent

/-- A bounded queue that tasks can wait for. -/
structure Channel (α : Type) where
  queue : BoundedQueue α
  /-- The length as observers see it. -/
  length : Nat
  items : Notify
  space : Notify
  metrics : SelfMetrics

/-- Why a channel operation failed. -/
inductive ChannelError where
  | cancelled
  | zeroCapacity
  deriving DecidableEq, Repr

/-- The wording of an error. -/
def ChannelError.message : ChannelError → String
  | cancelled => "channel operation cancelled"
  | zeroCapacity => "channel capacity must be positive"

namespace Channel

variable {α : Type}

/-- The capacity where none is given. -/
def defaultCapacity : Nat := 10000

/-- An empty channel. -/
def new (capacity : Nat) (mode : FullMode) (metrics : SelfMetrics) :
    Except ChannelError (Channel α) :=
  match BoundedQueue.new? capacity mode with
  | some queue => .ok ⟨queue, 0, .new, .new, metrics⟩
  | none => .error .zeroCapacity

/-- Show another length to observers. -/
def setLength (c : Channel α) (n : Nat) : Channel α :=
  { c with length := n, metrics := { c.metrics with queueLength := n.toUInt64 } }

/-- Count an item that was refused or evicted. -/
def countDrop (c : Channel α) : Channel α :=
  { c with metrics := { c.metrics with dropped := c.metrics.dropped + 1 } }

/-- Tell a consumer that there is an item. -/
def announceItem (c : Channel α) : Channel α := { c with items := c.items.notifyOne }

/-- Offer an item without waiting. -/
def tryEnqueue (c : Channel α) (x : α) : Pushed α × Channel α :=
  match c.queue.push x with
  | (.stored, queue) => (.stored, ({ c with queue := queue }.setLength (c.length + 1)).announceItem)
  | (.evicted old, queue) => (.evicted old, ({ c with queue := queue }.countDrop).announceItem)
  | (.refused, queue) => (.refused, { c with queue := queue }.countDrop)

/-- Put an item in if there is space. -/
def pushIfSpace? (c : Channel α) (x : α) : Option (Channel α) :=
  (c.queue.pushIfSpace? x).map fun queue ↦
    ({ c with queue := queue }.setLength (c.length + 1)).announceItem

/-- Take the oldest item, and tell every producer that there is space. -/
def tryDequeue? (c : Channel α) : Option (α × Channel α) :=
  c.queue.pop?.map fun (x, queue) ↦
    let c := { c with queue := queue }.setLength (c.length - 1)
    (x, { c with space := c.space.notifyAll })

/-- Where a task stands after a stretch: through with a result, or waiting with its ticket. -/
inductive Turn (α ρ : Type) where
  | done (result : ρ) (channel : Channel α)
  | parked (channel : Channel α)

/-- A producer arrives with an item, or comes back because there may be space. In the modes that do
not wait it is through at once. -/
def enqueueTurn (c : Channel α) (ticket : Nat) (x : α) : Turn α (Pushed α) :=
  if c.queue.mode = .block then
    let c := { c with space := c.space.register ticket }
    match c.pushIfSpace? x with
    | some c => .done .stored { c with space := c.space.giveBack ticket }
    | none => .parked c
  else
    let (pushed, c) := c.tryEnqueue x
    .done pushed c

/-- A consumer arrives, or comes back because there may be an item. -/
def dequeueTurn (c : Channel α) (ticket : Nat) : Turn α α :=
  let c := { c with items := c.items.register ticket }
  match c.tryDequeue? with
  | some (x, c) => .done x { c with items := c.items.giveBack ticket }
  | none => .parked c

/-- What a waiting task does: nothing while neither its ticket nor its token has fired. -/
inductive Resume (α ρ : Type) where
  | waits
  | cancelled (channel : Channel α)
  | turn (t : Turn α ρ)

/-- A waiting producer looks at its token first and then at its ticket. -/
def resumeEnqueue (c : Channel α) (ticket : Nat) (cancelled : Bool) (x : α) : Resume α (Pushed α) :=
  if cancelled then .cancelled { c with space := c.space.giveBack ticket }
  else if c.space.isFired ticket then
    .turn ({ c with space := c.space.consume ticket }.enqueueTurn ticket x)
  else .waits

/-- A waiting consumer looks at its token first and then at its ticket. -/
def resumeDequeue (c : Channel α) (ticket : Nat) (cancelled : Bool) : Resume α α :=
  if cancelled then .cancelled { c with items := c.items.giveBack ticket }
  else if c.items.isFired ticket then
    .turn ({ c with items := c.items.consume ticket }.dequeueTurn ticket)
  else .waits

end Channel

end MetricsAgent
