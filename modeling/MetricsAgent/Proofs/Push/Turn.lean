import MetricsAgent.Proofs.Push.Course

/-!
# Whole turns of a sender

`Sender.step` is a stretch of the sender between two points at which it may have to wait.  It really
waits only in a nap, in a call or in a delay.  Between its look at the token and the first call of
an attempt, say, nothing else happens, although several stretches lie there.  `Sender.turn` is all
that the sender does from one such pause to the next, and `Pipeline.act` makes the moves of a
pipeline with whole turns of its senders.

A run with whole turns is a run of the pipeline (`Pipeline.trail_of_acts`), so what is known of all
runs holds of these too.  The converse is not true, since with stretches something else may happen
between two of them.

There are at most four stretches between a stretch and the next pause, which is why `Sender.advance`
goes on for a number of stretches and does not need a proof that it comes to an end.  That the
number is large enough is `Sender.isPause_of_turn`, while the token has not fired; once it has
fired, the sender is through or pauses earlier.

To carry an invariant through a turn it is enough to carry it through every stretch
(`Sender.advance_induction`).
-/

set_option autoImplicit false

namespace MetricsAgent

namespace Sender

/-- Whether a sender waits for something in a phase, or is through. -/
def Phase.isPause : Phase → Bool
  | .napping _ | .submitting .. | .flushing .. | .backingOff .. | .stopped => true
  | .looping | .draining | .deciding _ | .ticked _ => false

variable {σ : Type}

/-- Go on until there is a pause, for a number of stretches at most. -/
def advance (s : SenderSetup σ) (once fired : Bool) :
    Nat → Phase × PushState σ → Phase × PushState σ
  | 0, r => r
  | n + 1, r =>
    if r.1.isPause then r
    else match step s once fired r.1 r.2 with
      | none => r
      | some r => advance s once fired n r

/-- A turn of a sender, from one pause to the next; `none` while it has to wait. There are at most
four stretches between a stretch and the next pause: from a tick to the next, the token, the queue,
and the first call of an attempt. -/
def turn (s : SenderSetup σ) (once fired : Bool) (φ : Phase) (p : PushState σ) :
    Option (Phase × PushState σ) :=
  (step s once fired φ p).map (advance s once fired 4)

/-- The number of stretches to the next pause, while the token has not fired. -/
def Phase.stretches : Phase → Nat
  | .ticked _ => 4
  | .looping => 3
  | .draining => 2
  | .deciding _ => 1
  | _ => 0

theorem isPause_of_stretches {φ : Phase} (h : φ.stretches = 0) : φ.isPause = true := by
  cases φ <;> first | rfl | cases h

theorem stretches_le (φ : Phase) : φ.stretches ≤ 4 := by
  cases φ <;> simp [Phase.stretches]

section Advance

variable {s : SenderSetup σ} {once fired : Bool} {φ φ' : Phase} {p p' : PushState σ}

/-- A stretch that does not begin with a pause leads on to the next pause. -/
theorem exists_step_of_not_isPause (s : SenderSetup σ) (p : PushState σ) (go : φ.isPause = false) :
    ∃ φ' p', step s false false φ p = some (φ', p') ∧ φ'.stretches < φ.stretches := by
  cases φ with
  | looping => exact ⟨.draining, p, rfl, by decide⟩
  | draining =>
    simp only [step]
    split
    · exact ⟨_, _, rfl, Nat.two_pos⟩
    · exact ⟨_, _, rfl, Nat.one_lt_two⟩
  | deciding job =>
    refine ⟨_, _, rfl, ?_⟩
    cases job.batch <;> exact Nat.one_pos
  | ticked o => exact ⟨.looping, p, rfl, Nat.lt_succ_self 3⟩
  | _ => cases go

theorem isPause_advance (s : SenderSetup σ) (n : Nat) (φ : Phase) (p : PushState σ)
    (h : φ.stretches ≤ n) : (advance s false false n (φ, p)).1.isPause = true := by
  induction n generalizing φ p with
  | zero => exact isPause_of_stretches (Nat.le_zero.mp h)
  | succ n ih =>
    cases pause : φ.isPause with
    | true => rw [advance, if_pos pause]; exact pause
    | false =>
      obtain ⟨φ', p', e, lt⟩ := exists_step_of_not_isPause s p pause
      simp only [advance, pause, Bool.false_eq_true, if_false, e]
      exact ih φ' p' (by omega)

/-- A running sender whose token has not fired goes from pause to pause. -/
theorem isPause_of_turn (e : turn s false false φ p = some (φ', p')) : φ'.isPause = true := by
  obtain ⟨⟨ψ, q⟩, -, h⟩ := Option.map_eq_some_iff.mp e
  have pause := isPause_advance s 4 ψ q (stretches_le ψ)
  rwa [h] at pause

/-- What every stretch keeps is kept on the way to the next pause. -/
theorem advance_induction {P : Phase → PushState σ → Prop}
    (keep : ∀ {φ φ' : Phase} {p p' : PushState σ}, P φ p → step s once fired φ p = some (φ', p') →
      P φ' p') (n : Nat) (h : P φ p) (e : advance s once fired n (φ, p) = (φ', p')) : P φ' p' := by
  induction n generalizing φ p with
  | zero =>
    cases e
    exact h
  | succ n ih =>
    simp only [advance] at e
    split at e
    · cases e
      exact h
    · split at e
      · cases e
        exact h
      · exact ih (keep h ‹_›) e

end Advance

end Sender

namespace Pipeline

variable {σ : Type} {s : SenderSetup σ}

/-- The turn of a sender, from one pause to the next. -/
def turnLoop (s : SenderSetup σ) (w : Pipeline σ) (x : Loop) : Option (Pipeline σ) :=
  (Sender.turn s x.once (w.isFired x.token) x.phase w.shared).map fun (phase, shared) ↦
    { w with shared := shared }.putLoop { x with phase := phase }

/-- Make a move, where a turn of a sender is a whole one. -/
def act (s : SenderSetup σ) (m : Move) (w : Pipeline σ) : Option (Pipeline σ) :=
  match m with
  | .turn (.sending id) => (w.loops.find? (·.id = id)).bind (w.turnLoop s)
  | m => move s m w

/-- A move is a whole turn of a sender, or any move beside these. -/
theorem act_cases {m : Move} {w w' : Pipeline σ} (e : act s m w = some w') :
    (∃ x, m = .turn (.sending x.id) ∧ w.loops.find? (·.id = x.id) = some x ∧
        w.turnLoop s x = some w') ∨
      (∀ id, m ≠ .turn (.sending id)) ∧ move s m w = some w' := by
  cases m with
  | turn t =>
    cases t with
    | sending id =>
      obtain ⟨x, hx, hturn⟩ := Option.bind_eq_some_iff.mp e
      obtain rfl : x.id = id := Keyed.key_of_find? hx
      exact .inl ⟨x, rfl, hx, hturn⟩
    | exporting id => exact .inr ⟨nofun, e⟩
  | _ => exact .inr ⟨nofun, e⟩

theorem putLoop_putLoop (w : Pipeline σ) (p q : PushState σ) (x : Loop) (φ ψ : Sender.Phase) :
    { ({ w with shared := p }.putLoop { x with phase := φ }) with shared := q }.putLoop
      { x with phase := ψ } = { w with shared := q }.putLoop { x with phase := ψ } := by
  simp only [putLoop, List.map_map]
  congr 1
  refine List.map_congr_left fun y _ ↦ ?_
  by_cases h : y.id = x.id <;> simp [h]

/-- A turn of a sender is made of its stretches. -/
theorem trail_of_turnLoop {w w' : Pipeline σ} {x : Loop}
    (hx : w.loops.find? (·.id = x.id) = some x) (e : w.turnLoop s x = some w') :
    ∃ l, Trail (move s) w l w' := by
  obtain ⟨⟨φ', p'⟩, hturn, rfl⟩ := Option.map_eq_some_iff.mp e
  obtain ⟨⟨φ, p⟩, first, rest⟩ := Option.map_eq_some_iff.mp hturn
  refine Sender.advance_induction
    (P := fun φ p ↦ ∃ l, Trail (move s) w l ({ w with shared := p }.putLoop { x with phase := φ }))
    ?_ 4 ⟨_, .move .start (.turn (.sending x.id)) ?_⟩ rest
  · rintro φ φ' p p' ⟨l, run⟩ hstep
    refine ⟨_, run.move (.turn (.sending x.id)) ?_⟩
    have found := Keyed.find?_replace (c := { x with phase := φ }) hx
    rw [move, step, putLoop, found, Option.bind_some, stepLoop]
    exact (congrArg _ hstep).trans (congrArg some (putLoop_putLoop w p p' x φ φ'))
  · rw [move, step, hx, Option.bind_some, stepLoop, first]
    rfl

/-- **A run with whole turns is a run of the pipeline.** -/
theorem trail_of_acts {a w : Pipeline σ} {l : List (Passage (Pipeline σ) Move)}
    (h : Trail (act s) a l w) : ∃ l', Trail (move s) a l' w := by
  refine h.invariant (P := fun w ↦ ∃ l', Trail (move s) a l' w) ⟨[], .start⟩ fun m ⟨l', run⟩ e ↦ ?_
  rcases act_cases e with ⟨x, -, hx, hturn⟩ | ⟨-, hmove⟩
  · obtain ⟨k, more⟩ := trail_of_turnLoop hx hturn
    exact ⟨_, run.append more⟩
  · exact ⟨_, run.move m hmove⟩

end Pipeline

end MetricsAgent
