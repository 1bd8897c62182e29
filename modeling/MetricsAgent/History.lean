/-!
# Histories

Several parts of the agent keep a record of what they told: the scheduler of what its cycles and
invocations did, the sender of the states it went through, the agent of the calls it made and got.
All of them use the one type of this file.  An entry is an event with the time at which it happened.

* `History.push` adds an event, in constant time: the list inside is kept with the latest entry
  first, because a run pushes one entry at a time and may be long.
* `History.toList` is what the rest of the development looks at.  It lists the entries in the order
  in which they happened, and `toList_push` says that a push appends one entry to it.
* `History.length` and `History.since` are for those who watch a run from outside and want to be
  told only what is new.

No clock is kept here.  Whoever pushes an event gives the time, so that the entries of a history are
in the order of time exactly when the clock of the run never goes back.
-/

set_option autoImplicit false

namespace MetricsAgent

/-- What happened, the latest first. -/
structure History (ε : Type) where
  latest : List (Nat × ε)

namespace History

variable {ε : Type}

/-- Nothing has happened. -/
def empty : History ε := ⟨[]⟩

/-- Something happens at a time. -/
def push (h : History ε) (time : Nat) (e : ε) : History ε := ⟨(time, e) :: h.latest⟩

/-- What happened, in order. -/
def toList (h : History ε) : List (Nat × ε) := h.latest.reverse

/-- How much happened. -/
def length (h : History ε) : Nat := h.latest.length

/-- What happened after the first `n` events, in order. -/
def since (h : History ε) (n : Nat) : List (Nat × ε) := (h.latest.take (h.length - n)).reverse

@[simp] theorem toList_empty : (empty : History ε).toList = [] := rfl

@[simp] theorem toList_push (h : History ε) (time : Nat) (e : ε) :
    (h.push time e).toList = h.toList ++ [(time, e)] :=
  List.reverse_cons

end History

end MetricsAgent
