/-!
# Durations

A duration is a natural number of nanoseconds whose whole seconds fit into 64 bits.  The bound is
part of the type, so that a duration that does not exist cannot be built, and no proof has to carry
it along.

There are three ways to leave the range, and each operation says which one it takes.  `ofNanos?` and
`times?` answer `none`; `ofNanos`, `ofMillis` and `ofSeconds` answer `Duration.longest`, for numbers
that come from a clock and cannot be that large; `minus` and `between` answer zero where the
difference would be negative, as when a clock goes back.

`Duration.toFloat` is the number of seconds as a double, which is what a histogram of durations
observes.  It adds two doubles that are rounded before, the whole seconds and the rest, and so is
the nearest double only for short durations.  What is needed of it, that it is at least zero and no
more than infinity, is shown in `MetricsAgent.Proofs.Double.Order`.
-/

set_option autoImplicit false

namespace MetricsAgent

/-- The number of nanoseconds in a second. -/
def nanosPerSecond : Nat := 1000000000

/-- The first number of nanoseconds that is no duration. -/
def Duration.limit : Nat := UInt64.size * nanosPerSecond

/-- A span of time in nanoseconds, below `2 ^ 64` seconds. -/
structure Duration where
  nanos : Nat
  nanos_lt : nanos < Duration.limit
  deriving DecidableEq

namespace Duration

instance : LE Duration := ⟨fun a b ↦ a.nanos ≤ b.nanos⟩
instance : LT Duration := ⟨fun a b ↦ a.nanos < b.nanos⟩
instance (a b : Duration) : Decidable (a ≤ b) := inferInstanceAs (Decidable (a.nanos ≤ b.nanos))
instance (a b : Duration) : Decidable (a < b) := inferInstanceAs (Decidable (a.nanos < b.nanos))

theorem limit_pos : 0 < limit := by decide

/-- The empty duration. -/
def zero : Duration := ⟨0, limit_pos⟩

instance : Inhabited Duration := ⟨zero⟩

theorem eq_zero_iff {d : Duration} : d = zero ↔ d.nanos = 0 := by
  rw [zero, mk.injEq]

/-- The longest duration. -/
def longest : Duration := ⟨limit - 1, Nat.sub_lt limit_pos Nat.one_pos⟩

/-- A number of nanoseconds as a duration, where it is one. -/
def ofNanos? (n : Nat) : Option Duration := if h : n < limit then some ⟨n, h⟩ else none

/-- A number of nanoseconds, or the longest duration beyond the range. -/
def ofNanos (n : Nat) : Duration := (ofNanos? n).getD longest

/-- A number of milliseconds, or the longest duration beyond the range. -/
def ofMillis (n : Nat) : Duration := ofNanos (n * 1000000)

/-- A number of seconds, or the longest duration beyond the range. -/
def ofSeconds (n : Nat) : Duration := ofNanos (n * nanosPerSecond)

/-- The whole seconds. -/
def seconds (d : Duration) : Nat := d.nanos / nanosPerSecond

/-- The nanoseconds beyond the whole seconds. -/
def subsecond (d : Duration) : Nat := d.nanos % nanosPerSecond

/-- Whole milliseconds, rounded up. -/
def ceilMillis (d : Duration) : Nat := (d.nanos + 999999) / 1000000

theorem ceilMillis_pos_iff {d : Duration} : 0 < d.ceilMillis ↔ d ≠ zero := by
  rw [Ne, eq_zero_iff, ceilMillis]
  omega

/-- `n` times the duration, where that is a duration. -/
def times? (d : Duration) (n : Nat) : Option Duration := ofNanos? (d.nanos * n)

/-- The difference, or zero where it would be negative. -/
def minus (a b : Duration) : Duration := ⟨a.nanos - b.nanos, by have := a.nanos_lt; omega⟩

/-- The time from `start` to `finish`, both in nanoseconds; zero when the clock went back. -/
def between (start finish : Nat) : Duration := ofNanos (finish - start)

/-- The seconds as a double: the whole seconds plus the rest divided by `10 ^ 9`. -/
def toFloat (d : Duration) : Float :=
  d.seconds.toUInt64.toFloat + d.subsecond.toUInt64.toFloat / 1000000000.0

end Duration

end MetricsAgent
