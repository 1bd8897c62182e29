import MetricsAgent.Push.Envelope
import MetricsAgent.Export.Error

/-!
# Remote ends

What a sender needs of the remote end: it takes envelopes one by one, and delivers what it has taken
when it is told to flush.  A flush that fails discards what was taken, because the sender submits a
failed batch again from its first envelope.

A `RemoteClient` is a type of states with the two calls.  Each call answers a new state and a
`RemoteCall`: how long it takes and what comes of it.  A call may do anything to the state, and it
need not be deterministic in any useful sense, since a state can hold a script.  What is proved of
the sender is proved for all remote clients.

`ScriptedClient` is such a script: it plays the calls of two lists, one for submissions and one for
flushes, and succeeds at once when they are used up.
-/

set_option autoImplicit false

namespace MetricsAgent

/-- A call to the remote end: how long it takes, in milliseconds, and what comes of it. -/
structure RemoteCall where
  waitMs : Nat
  result : Except ExportError Unit

/-- A remote end with states `σ`. -/
structure RemoteClient (σ : Type) where
  submit : σ → Envelope → σ × RemoteCall
  flush : σ → σ × RemoteCall

/-- A remote end that plays calls from two lists, and then succeeds at once. -/
structure ScriptedClient where
  submits : List RemoteCall
  flushes : List RemoteCall

namespace ScriptedClient

/-- The next call of a list, and the rest. -/
def next : List RemoteCall → RemoteCall × List RemoteCall
  | [] => (⟨0, .ok ()⟩, [])
  | c :: rest => (c, rest)

/-- The client that plays the lists of its state. -/
def client : RemoteClient ScriptedClient where
  submit s _ := let (c, rest) := next s.submits; ({ s with submits := rest }, c)
  flush s := let (c, rest) := next s.flushes; ({ s with flushes := rest }, c)

end ScriptedClient

end MetricsAgent
