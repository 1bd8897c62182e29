import MetricsAgent.Sampling.Policy

/-!
# What a sampling policy keeps

Each measurement that the predicate accepts has a random number of its own where the rate is below
one: the one after those of the accepted measurements before it.  So what is kept of a batch can be
told place by place (`SamplingPolicy.kept`), and the numbers that a batch uses can be counted
(`SamplingPolicy.draws`).

`SamplingPolicy.retain_eq` says that the policy does just that.  The policy goes through the batch
with a running count of the numbers used; the closed form has no state, and this is what lets a
statement about an agent speak of the batch of each of its cycles, whose numbers begin where those
of the cycle before ended.
-/

set_option autoImplicit false

namespace MetricsAgent

namespace SamplingPolicy

/-- The number of random numbers that a batch uses. -/
def draws (p : SamplingPolicy) (batch : List Measurement) : Nat :=
  if p.rate < 1.0 then batch.countP p.accepts else 0

/-- Whether a policy keeps the measurement at a place of a batch, after `drawn` random numbers have
been used for earlier batches. -/
def keepsAt (p : SamplingPolicy) (drawn : Nat) (batch : List Measurement) (i : Nat) : Bool :=
  batch[i]?.any p.accepts &&
    if p.rate < 1.0 then p.random (drawn + (batch.take i).countP p.accepts) ≤ p.rate else true

/-- The measurements at the places that are kept, in the order of the batch. -/
def kept (p : SamplingPolicy) (drawn : Nat) (batch : List Measurement) : List Measurement :=
  (batch.zipIdx.filter fun x ↦ p.keepsAt drawn batch x.2).map Prod.fst

variable {p : SamplingPolicy} {drawn : Nat} {m : Measurement} {batch : List Measurement}

theorem draws_cons (m : Measurement) (batch : List Measurement) :
    p.draws (m :: batch) = p.draws [m] + p.draws batch := by
  simp only [draws]
  split
  · rw [List.countP_cons, List.countP_singleton, Nat.add_comm]
  · rfl

theorem keepsAt_zero : p.keepsAt drawn (m :: batch) 0 =
    (p.accepts m && if p.rate < 1.0 then p.random drawn ≤ p.rate else true) := rfl

/-- The first place is decided by the next random number. -/
theorem keep_eq (batch : List Measurement) :
    p.keep drawn m = (p.keepsAt drawn (m :: batch) 0, drawn + p.draws [m]) := by
  rw [keepsAt_zero, draws, List.countP_singleton, keep]
  cases p.accepts m with
  | false => simp
  | true =>
    rw [if_pos rfl, Bool.true_and, if_pos rfl]
    split <;> rfl

/-- The later places are decided as in the rest of the batch. -/
theorem keepsAt_succ (i : Nat) :
    p.keepsAt drawn (m :: batch) (i + 1) = p.keepsAt (drawn + p.draws [m]) batch i := by
  simp only [keepsAt, draws, List.getElem?_cons_succ]
  split
  · rw [List.take_succ_cons, List.countP_cons, List.countP_singleton, Nat.add_assoc,
      Nat.add_comm (List.countP _ _)]
  · rfl

theorem kept_cons : p.kept drawn (m :: batch) =
    if p.keepsAt drawn (m :: batch) 0 then m :: p.kept (drawn + p.draws [m]) batch
    else p.kept (drawn + p.draws [m]) batch := by
  have rest : ((batch.zipIdx 1).filter fun x ↦ p.keepsAt drawn (m :: batch) x.2).map Prod.fst =
      p.kept (drawn + p.draws [m]) batch := by
    rw [List.zipIdx_succ, List.filter_map, List.map_map, kept]
    simp only [Function.comp_def, keepsAt_succ]
  rw [kept, List.zipIdx_cons, List.filter_cons, Nat.zero_add]
  split
  · rw [List.map_cons, rest]
  · exact rest

/-- **What a policy keeps of a batch**, and the random numbers that it has used afterwards. -/
theorem retain_eq (p : SamplingPolicy) (drawn : Nat) (batch : List Measurement) :
    p.retain drawn batch = (p.kept drawn batch, drawn + p.draws batch) := by
  induction batch generalizing drawn with
  | nil =>
    simp only [draws, List.countP_nil, ite_self, Nat.add_zero]
    rfl
  | cons m batch ih =>
    simp only [retain, keep_eq batch, ih]
    rw [kept_cons, draws_cons m batch, Nat.add_assoc]

end SamplingPolicy

end MetricsAgent
