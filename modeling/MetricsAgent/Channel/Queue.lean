import MetricsAgent.Text.Blank

/-!
# Bounded queues

A queue of at most `capacity` items, first in, first out.  The capacity is positive, and the type
says so; `BoundedQueue.new?` answers `none` for zero.

What happens to an item that arrives at a full queue depends on the mode, and `Pushed` tells what it
was.  The queue refuses the item, or evicts the oldest one for it, or — in the mode in which
producers wait — refuses it when it is offered by someone who does not wait.  `BoundedQueue.push` is
that decision, `BoundedQueue.pushIfSpace?` is the attempt of a producer that waits, and
`BoundedQueue.pop?` takes the oldest item.

The modes have names, which are read without regard to letter case (`FullMode.parse?`).  The mode
that refuses has a second one.
-/

set_option autoImplicit false

namespace MetricsAgent

/-- What a full queue does with a new item. -/
inductive FullMode where
  /-- Refuse it. -/
  | dropNewest
  /-- Evict the oldest item for it. -/
  | dropOldest
  /-- Let the producer wait; one that does not wait is refused. -/
  | block
  deriving DecidableEq, Repr, Inhabited

namespace FullMode

/-- The name of a mode. -/
def name : FullMode → String
  | dropNewest => "drop_newest"
  | dropOldest => "drop_oldest"
  | block => "block"

/-- All modes. -/
def all : List FullMode := [dropNewest, dropOldest, block]

/-- The mode that a name stands for, in any case of its letters. Refusing has a second name. -/
def parse? (s : String) : Option FullMode :=
  let s := asciiLower s
  if s = "drop_write" then some dropNewest else all.find? (·.name = s)

end FullMode

/-- A queue of at most `capacity` items, the oldest in front. -/
structure BoundedQueue (α : Type) where
  capacity : Nat
  mode : FullMode
  items : List α
  capacity_pos : 0 < capacity

/-- What became of an item that was offered. -/
inductive Pushed (α : Type) where
  /-- It is in the queue, at the end. -/
  | stored
  /-- It is in the queue, at the end, and the oldest item is not any more. -/
  | evicted (old : α)
  /-- It is not in the queue. -/
  | refused

/-- Whether the offered item is in the queue. -/
def Pushed.accepted {α : Type} : Pushed α → Bool
  | refused => false
  | _ => true

namespace BoundedQueue

variable {α : Type}

/-- A queue without items; `none` for a capacity of zero. -/
def new? (capacity : Nat) (mode : FullMode) : Option (BoundedQueue α) :=
  if h : 0 < capacity then some ⟨capacity, mode, [], h⟩ else none

/-- Whether there is no space. -/
def isFull (q : BoundedQueue α) : Bool := q.capacity ≤ q.items.length

/-- Put an item at the end. -/
def append (q : BoundedQueue α) (x : α) : BoundedQueue α := { q with items := q.items ++ [x] }

/-- Put an item at the end if there is space for it. -/
def pushIfSpace? (q : BoundedQueue α) (x : α) : Option (BoundedQueue α) :=
  if q.isFull then none else some (q.append x)

/-- Offer an item without waiting. -/
def push (q : BoundedQueue α) (x : α) : Pushed α × BoundedQueue α :=
  if q.isFull then
    match q.mode, q.items with
    | .dropOldest, old :: rest => (.evicted old, { q with items := rest ++ [x] })
    | _, _ => (.refused, q)
  else (.stored, q.append x)

/-- Take the oldest item. -/
def pop? (q : BoundedQueue α) : Option (α × BoundedQueue α) :=
  match q.items with
  | [] => none
  | x :: rest => some (x, { q with items := rest })

end BoundedQueue

end MetricsAgent
