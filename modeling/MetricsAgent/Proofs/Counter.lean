/-!
# Counters

Counters are 64-bit numbers that wrap.  What a counter holds is compared with a number of things by
`Nat.toUInt64`, which keeps sums: a counter *stands for* `n` things when it is `n.toUInt64`.

A statement of this form is exact and needs no bound.  It holds after any number of steps, it is
kept when as many are added as there are new things (`Counter.add`, `Counter.succ`), and as long as
there are fewer than `2 ^ 64` things it says how many there are.  Where a statement is about a
stretch of a run and not about its beginning, the counter at the end less the counter at the
beginning is what was added (`Counter.add_sub_self`).
-/

set_option autoImplicit false

namespace MetricsAgent

namespace Counter

theorem toUInt64_add (a b : Nat) : (a + b).toUInt64 = a.toUInt64 + b.toUInt64 :=
  UInt64.ofNat_add a b

/-- What was added is the difference. -/
theorem add_sub_self (a d : UInt64) : a + d - a = d := by
  rw [UInt64.add_comm, UInt64.add_sub_cancel]

/-- A counter that stands for a number of things stands for more of them when that many are
added. -/
theorem add {a b : UInt64} {n : Nat} (h : a = b + n.toUInt64) (k : Nat) :
    a + k.toUInt64 = b + (n + k).toUInt64 := by
  rw [h, toUInt64_add, UInt64.add_assoc]

theorem succ {a b : UInt64} {n : Nat} (h : a = b + n.toUInt64) : a + 1 = b + (n + 1).toUInt64 :=
  add h 1

end Counter

end MetricsAgent
