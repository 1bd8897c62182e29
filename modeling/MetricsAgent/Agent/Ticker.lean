/-!
# Tickers

A ticker is due at the multiples of its period, counted from its start.  The first tick is due at
once.  Who takes a tick on time is due again one period later, and who takes it late misses the
ticks in between: the next one is the next multiple after the present, so that the ticks stay where
they were and no two are made up for at once.

Two details follow the timers that this models.  Time counts in whole milliseconds, and a period is
rounded up to them where the ticker is made.  Who comes no more than five milliseconds late
(`Ticker.tolerance`) counts as being on time, and then the next tick is one period after the one
that was due, even if the period is shorter than that.
-/

set_option autoImplicit false

namespace MetricsAgent

/-- A ticker: its period, which is positive, and the time of its next tick, in milliseconds. -/
structure Ticker where
  period : Nat
  deadline : Nat
  deriving DecidableEq, Repr

namespace Ticker

/-- How late a tick may be taken and count as being on time. -/
def tolerance : Nat := 5

/-- A ticker whose first tick is due at once. -/
def start (period now : Nat) : Ticker := ⟨period, now⟩

/-- Whether the next tick is due. -/
def isDue (t : Ticker) (now : Nat) : Bool := t.deadline ≤ now

/-- The ticker after a tick that is taken now. -/
def advance (t : Ticker) (now : Nat) : Ticker :=
  if t.deadline + tolerance < now then
    { t with deadline := now + t.period - (now - t.deadline) % t.period }
  else { t with deadline := t.deadline + t.period }

end Ticker

end MetricsAgent
