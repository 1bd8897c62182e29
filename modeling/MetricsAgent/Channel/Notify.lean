/-!
# Notifications

A notification wakes tasks that wait for something.  Each waiting task holds a ticket, and tickets
are served in the order in which they were taken.

* `Notify.notifyAll` fires every ticket there is, and leaves nothing for the tickets to come.
* `Notify.notifyOne` fires the oldest ticket, or leaves a permit that the next ticket uses up at
  once.  There is never more than one permit: two notifications that find nobody count as one.
* `Notify.consume` is a task that goes on with its fired ticket, and `Notify.giveBack` one that does
  not want to wait any more.  A ticket that is given back after `notifyOne` fired it, but before its
  task went on, passes the notification to the next, so that no notification is lost with a task
  that was cancelled.

How a ticket was fired (`Firing`) matters for that last rule only.  A ticket fired by `notifyAll`,
or by a permit when it was taken, is given back without a trace.
-/

set_option autoImplicit false

namespace MetricsAgent

/-- How a ticket was fired. -/
inductive Firing where
  | one
  | all
  /-- It used up a permit when it was taken. -/
  | permit
  deriving DecidableEq, Repr

/-- Tickets are the numbers of the tasks that hold them. -/
structure Notify where
  permit : Bool
  waiting : List Nat
  fired : List (Nat × Firing)
  deriving DecidableEq, Repr

namespace Notify

/-- Nobody waits. -/
def new : Notify := ⟨false, [], []⟩

instance : Inhabited Notify := ⟨new⟩

/-- Take a ticket. -/
def register (n : Notify) (t : Nat) : Notify :=
  if n.permit then { n with permit := false, fired := n.fired ++ [(t, .permit)] }
  else { n with waiting := n.waiting ++ [t] }

/-- Fire the oldest ticket, or leave a permit. -/
def notifyOne (n : Notify) : Notify :=
  match n.waiting with
  | [] => { n with permit := true }
  | t :: rest => { n with waiting := rest, fired := n.fired ++ [(t, .one)] }

/-- Fire all tickets. -/
def notifyAll (n : Notify) : Notify :=
  { n with waiting := [], fired := n.fired ++ n.waiting.map fun t ↦ (t, .all) }

/-- Whether a ticket has been fired. -/
def isFired (n : Notify) (t : Nat) : Bool := n.fired.any (·.1 = t)

/-- The task goes on with its fired ticket. -/
def consume (n : Notify) (t : Nat) : Notify := { n with fired := n.fired.filter (·.1 ≠ t) }

/-- The task gives its ticket back. -/
def giveBack (n : Notify) (t : Nat) : Notify :=
  let rest : Notify :=
    { n with waiting := n.waiting.filter (· ≠ t), fired := n.fired.filter (·.1 ≠ t) }
  if (t, .one) ∈ n.fired then rest.notifyOne else rest

end Notify

end MetricsAgent
