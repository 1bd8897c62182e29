import MetricsAgent.Measurement.Basic

/-!
# Sampling

A policy keeps a measurement that its predicate accepts, with a probability given by its rate.
Random numbers are drawn one after the other from a sequence, and only for measurements that the
predicate accepts, and only where the rate is below one.

`SamplingPolicy.keep` decides about one measurement and says how many random numbers have been used
afterwards, and `SamplingPolicy.apply` goes through a batch.  The sequence is a function, and the
number of draws so far is what goes from batch to batch; a policy has no other state.

A rate that is no number counts as one, and any other rate is brought between zero and one when the
policy is made (`effectiveRate`).  At a rate of zero numbers are drawn all the same, since no number
of the sequence is below zero.
-/

set_option autoImplicit false

namespace MetricsAgent

/-- A sampling policy: a rate between zero and one, a predicate, and a sequence of random
numbers. -/
structure SamplingPolicy where
  rate : Float
  accepts : Measurement → Bool
  random : Nat → Float

namespace SamplingPolicy

/-- The rate that is used: what is no number counts as one, and the rest is brought between zero and
one. -/
def effectiveRate (rate : Float) : Float :=
  if rate.isNaN then 1.0 else if rate < 0.0 then 0.0 else if 1.0 < rate then 1.0 else rate

/-- A policy with a rate, a predicate and random numbers. -/
def new (rate : Float) (accepts : Measurement → Bool) (random : Nat → Float) : SamplingPolicy :=
  ⟨effectiveRate rate, accepts, random⟩

/-- Keep everything. -/
def default : SamplingPolicy := new 1.0 (fun _ ↦ true) (fun _ ↦ 0.0)

/-- Whether a measurement is kept, after `drawn` random numbers have been used. Answers the number
used afterwards too. -/
def keep (p : SamplingPolicy) (drawn : Nat) (m : Measurement) : Bool × Nat :=
  if p.accepts m then
    if p.rate < 1.0 then (p.random drawn ≤ p.rate, drawn + 1) else (true, drawn)
  else (false, drawn)

/-- The measurements that are kept, and the number of random numbers used afterwards. -/
def retain (p : SamplingPolicy) : Nat → List Measurement → List Measurement × Nat
  | drawn, [] => ([], drawn)
  | drawn, m :: ms =>
    let (kept, drawn) := p.keep drawn m
    let (rest, drawn) := p.retain drawn ms
    (if kept then m :: rest else rest, drawn)

/-- The outcome of filtering a batch. -/
structure Applied where
  left : List Measurement
  dropped : Nat
  drawn : Nat

/-- Filter a batch. -/
def apply (p : SamplingPolicy) (drawn : Nat) (batch : List Measurement) : Applied :=
  let (left, drawn) := p.retain drawn batch
  ⟨left, batch.length - left.length, drawn⟩

/-- A sequence that replays a list and then repeats its last number. -/
def replay (l : List Float) (n : Nat) : Float := (l[n]?).getD (l.getLast?.getD 0.0)

end SamplingPolicy

end MetricsAgent
