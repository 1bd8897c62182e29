/-!
# Trails

A trail is a run of a system written down move by move, with the states before and after each move.
Where a statement is about what the moves of a run did one by one, and not about the state at its
end alone, it is a statement about a trail: how much the moves of one task added to a counter, or
what a move left as it was.

A system is given by a partial function `next` from states and moves to states, and `Trail next s l
s'` says that the passages `l` lead from `s` to `s'`.  The list grows at its end, so that an
induction over a trail takes away the last move, and what has been told before it is known.

The main statements are

* `Trail.invariant`, which carries an invariant along a run,
* `Trail.forall_mem`, which gives it at each move on the way,
* `Trail.project`, which gives the run of a part of the system,
* `Trail.exists_reach`, which makes a run to a goal from pieces that each take a measure down.

The last one asks for a piece from every state that is not yet at the goal, and not for a strategy:
what others do in between may be part of the pieces.  `follow` makes a given list of moves one after
the other, and is what concrete runs are written with.
-/

set_option autoImplicit false

namespace MetricsAgent

/-- A move, with the states before and after it. -/
structure Passage (σ μ : Type) where
  before : σ
  move : μ
  after : σ

/-- The runs of a system from a state, where `next` says what a move does and `none` that it is not
possible, and the states that they lead to. -/
inductive Trail {σ μ : Type} (next : μ → σ → Option σ) (start : σ) : List (Passage σ μ) → σ → Prop
  where
  | start : Trail next start [] start
  | move {l : List (Passage σ μ)} {w w' : σ} (h : Trail next start l w) (m : μ)
    (e : next m w = some w') : Trail next start (l ++ [⟨w, m, w'⟩]) w'

namespace Trail

variable {σ μ : Type} {next : μ → σ → Option σ} {start : σ} {l : List (Passage σ μ)} {w : σ}

/-- What holds at the start and is kept by every move holds at the end. -/
theorem invariant {P : σ → Prop} (h : Trail next start l w) (first : P start)
    (keep : ∀ {w w' : σ} (m : μ), P w → next m w = some w' → P w') : P w := by
  induction h with
  | start => exact first
  | move _ m e ih => exact keep m ih e

/-- An invariant holds before every move on the way. -/
theorem forall_mem {P : σ → Prop} (h : Trail next start l w) (first : P start)
    (keep : ∀ {w w' : σ} (m : μ), P w → next m w = some w' → P w') :
    ∀ t ∈ l, P t.before ∧ next t.move t.before = some t.after := by
  induction h with
  | start => simp
  | move h m e ih =>
    intro t ht
    rcases List.mem_append.mp ht with ht | ht
    · exact ih t ht
    · rw [List.mem_singleton.mp ht]
      exact ⟨h.invariant first keep, e⟩

/-- A trail that goes on where another one ends. -/
theorem append {l' : List (Passage σ μ)} {w' : σ} (h : Trail next start l w)
    (h' : Trail next w l' w') : Trail next start (l ++ l') w' := by
  induction h' with
  | start =>
    rw [List.append_nil]
    exact h
  | move _ m e ih =>
    rw [← List.append_assoc]
    exact ih.move m e

/-- Where each move of a system rests or moves a part of it, a run of the system makes a run of the
part. -/
theorem project {τ ν : Type} {next' : ν → τ → Option τ} (view : σ → τ) (image : σ → μ → Option ν)
    (step : ∀ {w w' : σ} (m : μ), next m w = some w' → image w m = none ∧ view w' = view w ∨
      ∃ k, image w m = some k ∧ next' k (view w) = some (view w'))
    (h : Trail next start l w) :
    Trail next' (view start)
      (l.filterMap fun t ↦ (image t.before t.move).map fun k ↦ ⟨view t.before, k, view t.after⟩)
      (view w) := by
  induction h with
  | start => exact .start
  | move h m e ih =>
    rw [List.filterMap_append]
    rcases step m e with ⟨rests, same⟩ | ⟨k, moves, e⟩
    · simp only [List.filterMap_cons, rests, Option.map_none, List.filterMap_nil,
        List.append_nil, same]
      exact ih
    · simp only [List.filterMap_cons, moves, Option.map_some, List.filterMap_nil]
      exact ih.move k e

/-- A goal is reached if, as long as it is not, something can be done that takes the measure down
and keeps `P`. -/
theorem exists_reach {P goal : σ → Prop} {ok : Passage σ μ → Prop} (measure : σ → Nat)
    (go : ∀ w, P w → ¬goal w →
      ∃ l w', Trail next w l w' ∧ (∀ t ∈ l, ok t) ∧ P w' ∧ measure w' < measure w)
    (w : σ) (h : P w) : ∃ l w', Trail next w l w' ∧ (∀ t ∈ l, ok t) ∧ P w' ∧ goal w' := by
  induction hn : measure w using Nat.strongRecOn generalizing w with
  | ind n ih =>
    by_cases reached : goal w
    · exact ⟨[], w, .start, by simp, h, reached⟩
    · obtain ⟨l, v, first, first_ok, hv, less⟩ := go w h reached
      obtain ⟨l', u, later, later_ok, hu, there⟩ := ih (measure v) (hn ▸ less) v hv rfl
      refine ⟨l ++ l', u, first.append later, fun t ht ↦ ?_, hu, there⟩
      rcases List.mem_append.mp ht with ht | ht
      · exact first_ok t ht
      · exact later_ok t ht

/-- Make moves one after the other. -/
def follow (next : μ → σ → Option σ) : List μ → σ → Option (List (Passage σ μ) × σ)
  | [], w => some ([], w)
  | m :: ms, w => (next m w).bind fun w' ↦
      (follow next ms w').map fun r ↦ (⟨w, m, w'⟩ :: r.1, r.2)

/-- Moves that are made one after the other go on a trail. -/
theorem append_follow {l' : List (Passage σ μ)} {w' : σ} (h : Trail next start l w) {ms : List μ}
    (e : follow next ms w = some (l', w')) : Trail next start (l ++ l') w' := by
  induction ms generalizing l l' w with
  | nil =>
    cases e
    rw [List.append_nil]
    exact h
  | cons m ms ih =>
    obtain ⟨v, hv, e⟩ := Option.bind_eq_some_iff.mp e
    obtain ⟨⟨k, u⟩, hk, e⟩ := Option.map_eq_some_iff.mp e
    cases e
    rw [List.append_cons]
    exact ih (h.move m hv) hk

theorem of_follow (ms : List μ) (e : follow next ms start = some (l, w)) : Trail next start l w :=
  Trail.start.append_follow e

end Trail

end MetricsAgent
