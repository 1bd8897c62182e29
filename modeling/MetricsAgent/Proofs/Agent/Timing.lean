import Mathlib.Data.List.Chain
import MetricsAgent.Proofs.Agent.Course

/-!
# The timing of loops

The ticks of a loop can be read off a run (`Agent.ticks`), and so can the times at which their calls
end (`Agent.endOf`).  A loop never takes a tick before it is due or before its last tick is over.
How long it takes after that is up to the order in which tasks have their turns; in a run in which
the loop is *prompt* (`Agent.IsPrompt`), no time passes while it could go on.

What is known about a loop while it runs is `Agent.Pacing`: it holds when the loop starts and every
move keeps it.  `Agent.loop_keeps_pace` draws the conclusions.

* The deadlines are the start and later times, each some periods after the one before.
* The next deadline is one period after the last one if the tick was on time, and otherwise the
  first one on the same grid that is still to come (`Ticker.advance`).
* In a prompt run a tick is taken at its deadline or at the end of the tick before, whichever is
  later.
* No two ticks overlap, and only the last one can be under way.
* After the token has fired there are no more ticks.

That a cycle fails or is slow has no other effect than that its call ends later.  Nothing in the
invariant is about results.
-/

set_option autoImplicit false

namespace MetricsAgent

/-! ## Tickers

A ticker that is late skips the deadlines that it has missed, and stays on its grid. -/

namespace Ticker

variable {t : Ticker} {now : Nat}

/-- Who is on time waits for one period. -/
theorem advance_of_onTime (onTime : now ≤ t.deadline + tolerance) :
    t.advance now = ⟨t.period, t.deadline + 1 * t.period⟩ := by
  rw [advance, if_neg (Nat.not_lt.mpr onTime), Nat.one_mul]

/-- Who is late waits for the first multiple of the period that is still to come. -/
theorem advance_of_late (late : t.deadline + tolerance < now) :
    t.advance now = ⟨t.period, t.deadline + ((now - t.deadline) / t.period + 1) * t.period⟩ := by
  have parts := Nat.div_add_mod' (now - t.deadline) t.period
  rw [advance, if_pos late, Nat.add_mul, Nat.one_mul]
  congr 1
  omega

theorem lt_advance_of_late (pos : 0 < t.period) (late : t.deadline + tolerance < now) :
    now < (t.advance now).deadline ∧ (t.advance now).deadline ≤ now + t.period := by
  have rest := Nat.mod_lt (now - t.deadline) pos
  rw [advance, if_pos late]
  dsimp only
  omega

/-- The next tick is due some periods later. -/
theorem exists_advance (t : Ticker) (now : Nat) :
    ∃ n, 0 < n ∧ t.advance now = ⟨t.period, t.deadline + n * t.period⟩ := by
  rcases Nat.lt_or_ge (t.deadline + tolerance) now with late | onTime
  · exact ⟨_, Nat.succ_pos _, advance_of_late late⟩
  · exact ⟨1, Nat.one_pos, advance_of_onTime onTime⟩

end Ticker

namespace Agent

/-! ## What can be seen of a loop

These are functions of a run, and not of a state: a state does not remember when its ticks were
due. -/

/-- A tick of a loop: when it was due, when it was taken, and the number of its call. -/
structure Tick where
  deadline : Nat
  start : Nat
  cycle : Nat

/-- The tick that a loop takes in a move. -/
def tick? (id : Nat) (t : Passage Agent Move) : Option Tick :=
  if t.move = .turn (.loop id) then
    (t.before.loop? id).bind fun k ↦ (t.after.loop? id).bind fun k' ↦ match k'.phase with
      | .ticking cycle => some ⟨k.ticker.deadline, t.before.now, cycle⟩
      | _ => none
  else none

/-- The ticks that a loop takes in a run, in order. -/
def ticks (id : Nat) (l : List (Passage Agent Move)) : List Tick := l.filterMap (tick? id)

/-- When a call has ended in a run: it was under way before a move and is not after it. -/
def endOf (cycle : Nat) (l : List (Passage Agent Move)) : Option Nat :=
  (l.find? fun t ↦ t.before.runs cycle && !t.after.runs cycle).map (·.before.now)

/-- The time that passes in a move. -/
def Move.pause? : Move → Option Nat
  | elapse ms => some ms
  | _ => none

/-- Whether a loop has nothing to do for some time. -/
def CanPause (s : AgentSetup) (id : Nat) (a : Agent) (ms : Nat) : Prop :=
  ∀ k < ms, ((a.elapse k).step s (.loop id)).isNone = true

/-- Whether a loop never has to wait for its turn: no time passes while it could go on. -/
def IsPrompt (s : AgentSetup) (id : Nat) (l : List (Passage Agent Move)) : Prop :=
  ∀ t ∈ l, ∀ ms ∈ t.move.pause?, CanPause s id t.before ms

instance (s : AgentSetup) (id : Nat) (a : Agent) (ms : Nat) : Decidable (CanPause s id a ms) :=
  inferInstanceAs (Decidable (∀ k < ms, ((a.elapse k).step s (.loop id)).isNone = true))

instance (s : AgentSetup) (id : Nat) (l : List (Passage Agent Move)) :
    Decidable (IsPrompt s id l) :=
  inferInstanceAs (Decidable (∀ t ∈ l, ∀ ms ∈ t.move.pause?, CanPause s id t.before ms))

/-- What one tick of a loop, with a period of `p` milliseconds, has to do with the one before it. -/
structure Follows (s : AgentSetup) (id p : Nat) (l : List (Passage Agent Move)) (x y : Tick) :
    Prop where
  /-- The first tick is over when the second one begins, and this is not before it is due. A prompt
  loop waits no longer. -/
  starts : ∃ e, endOf x.cycle l = some e ∧ x.start ≤ e ∧ max y.deadline e ≤ y.start ∧
    (IsPrompt s id l → y.start = max y.deadline e)
  /-- After a tick that was on time the next one is due after one period. -/
  onTime : x.start ≤ x.deadline + Ticker.tolerance → y.deadline = x.deadline + p
  /-- After a late one it is due within one period. -/
  late : x.deadline + Ticker.tolerance < x.start → x.start < y.deadline ∧ y.deadline ≤ x.start + p

section Runs

variable {s : AgentSetup} {a a' b : Agent} {m : Move} {id p t₀ token : Nat} {k k' : Loop}
  {l : List (Passage Agent Move)}

theorem ticks_append (id : Nat) (l : List (Passage Agent Move)) (t : Passage Agent Move) :
    ticks id (l ++ [t]) = ticks id l ++ (tick? id t).toList := by
  rw [ticks, List.filterMap_append]
  cases h : tick? id t <;> simp [ticks, h]

theorem tick?_of_ne (other : m ≠ .turn (.loop id)) : tick? id ⟨a, m, a'⟩ = none := if_neg other

theorem tick?_of_turn (there : a.loop? id = some k) (there' : a'.loop? id = some k') :
    tick? id ⟨a, .turn (.loop id), a'⟩ = match k'.phase with
      | .ticking cycle => some ⟨k.ticker.deadline, a.now, cycle⟩
      | _ => none := by
  simp only [tick?, if_true, there, there', Option.bind_some]

/-- A tick is taken in a turn of the loop. -/
theorem turn_of_tick? (e : move s m a = some a') {x : Tick} (h : tick? id ⟨a, m, a'⟩ = some x) :
    ∃ k k', a.loop? id = some k ∧ LoopTurn a k k' a' ∧ k'.phase = .ticking x.cycle := by
  by_cases own : m = .turn (.loop id)
  · subst own
    obtain ⟨k, k', there, -, turn⟩ := step_loop (s := s) e
    rw [tick?_of_turn there (turn.loop?_self there)] at h
    refine ⟨k, k', there, turn, ?_⟩
    split at h
    · cases h
      assumption
    · cases h
  · rw [tick?_of_ne own] at h
    cases h

/-- A loop takes no tick once its token has fired. -/
theorem not_isFired_of_tick? (e : move s m a = some a') (there : a.loop? id = some k) {x : Tick}
    (h : tick? id ⟨a, m, a'⟩ = some x) : a.scheduler.isFired k.token = false := by
  obtain ⟨j, k', same, turn, phase⟩ := turn_of_tick? e h
  obtain rfl : j = k := Option.some.inj (same.symm.trans there)
  cases turn with
  | stops => cases phase
  | ticks _ unfired => exact unfired
  | resumes => cases phase

/-- With a tick a call begins whose batch goes to the exporters. -/
theorem isTicking_of_tick? (numbered : Numbered a) (e : move s m a = some a') {x : Tick}
    (h : tick? id ⟨a, m, a'⟩ = some x) : a'.isTicking x.cycle = true := by
  obtain ⟨k, k', -, turn, phase⟩ := turn_of_tick? e h
  cases turn with
  | stops => cases phase
  | ticks =>
    rw [← LoopPhase.ticking.inj phase]
    exact numbered.isTicking_call k.token
  | resumes => cases phase

/-- Once its token has fired a loop takes no more ticks. -/
theorem ticks_eq_nil_of_fired (there : b.loop? id = some k)
    (fired : b.scheduler.isFired k.token = true) (h : Trail (move s) b l a) : ticks id l = [] := by
  -- The loop keeps its token, and the token stays fired.
  have kept (v : Agent) (l : List (Passage Agent Move)) (h : Trail (move s) b l v) :
      ∃ j, v.loop? id = some j ∧ v.scheduler.isFired j.token = true := by
    refine h.invariant (P := fun v ↦ ∃ j, v.loop? id = some j ∧ v.scheduler.isFired j.token = true)
      ⟨k, there, fired⟩ fun {v v'} m hv e ↦ ?_
    obtain ⟨j, hj, fired⟩ := hv
    by_cases own : m = .turn (.loop id)
    · subst own
      obtain ⟨i, j', same, -, turn⟩ := step_loop (s := s) e
      obtain rfl : i = j := Option.some.inj (same.symm.trans hj)
      exact ⟨j', turn.loop?_self hj, by rw [turn.token_eq]; exact isFired_of_move e fired⟩
    · exact ⟨j, loop?_of_move e own hj, isFired_of_move e fired⟩
  induction h with
  | start => rfl
  | @move l v v' h m e ih =>
    obtain ⟨j, hj, fired⟩ := kept v l h
    rw [ticks_append, ih, List.nil_append, Option.toList_eq_nil_iff]
    cases taken : tick? id ⟨v, m, v'⟩ with
    | none => rfl
    | some x =>
      rw [not_isFired_of_tick? e hj taken] at fired
      cases fired

/-! ## Ends of calls

The end of a call is the first move after which it is not under way. -/

theorem endOf_append (n : Nat) (l : List (Passage Agent Move)) (t : Passage Agent Move) :
    endOf n (l ++ [t]) =
      (endOf n l).or (if t.before.runs n && !t.after.runs n then some t.before.now else none) := by
  rw [endOf, List.find?_append, endOf]
  cases l.find? fun t ↦ t.before.runs n && !t.after.runs n with
  | some u => rfl
  | none =>
    rw [Option.none_or, Option.map_none, Option.none_or, List.find?_singleton]
    split <;> rfl

theorem endOf_append_of_some {n e : Nat} (h : endOf n l = some e) (t : Passage Agent Move) :
    endOf n (l ++ [t]) = some e := by
  rw [endOf_append, h, Option.some_or]

/-- A call that has ended is no more under way. -/
theorem not_runs_of_endOf (numbered : Numbered b) (h : Trail (move s) b l a) {n e : Nat}
    (ended : endOf n l = some e) : n < a.scheduler.next ∧ a.runs n = false := by
  induction h generalizing e with
  | start => cases ended
  | @move l v v' h m step ih =>
    rw [endOf_append, Option.or_eq_some_iff] at ended
    have le := next_le_of_move step
    have before : n < v.scheduler.next ∧ (v.runs n = false ∨ v'.runs n = false) := by
      rcases ended with ended | ⟨-, ended⟩
      · exact (ih ended).imp_right .inl
      · obtain ⟨ends, -⟩ := Option.ite_none_right_eq_some.mp ended
        rw [Bool.and_eq_true, Bool.not_eq_true'] at ends
        exact ⟨(numbered_of_trail numbered h).lt_of_runs ends.1, .inr ends.2⟩
    refine ⟨Nat.lt_of_lt_of_le before.1 le, ?_⟩
    rcases before.2 with past | past
    · exact not_runs_of_trail (Trail.start.move m step) before.1 past
    · exact past

/-- A call ends in the move after which it is no more under way. -/
theorem endOf_of_move (numbered : Numbered b) (h : Trail (move s) b l a) {n : Nat}
    (running : a.runs n = true) (past : a'.runs n = false) (m : Move) :
    endOf n (l ++ [⟨a, m, a'⟩]) = some a.now := by
  have unended : endOf n l = none := by
    cases ended : endOf n l with
    | none => rfl
    | some e =>
      rw [(not_runs_of_endOf numbered h ended).2] at running
      cases running
  rw [endOf_append, unended, Option.none_or, running, past]
  rfl

/-! ## Promptness

Promptness is a condition on the moves in which time passes, and on no others. -/

theorem isPrompt_append {t : Passage Agent Move} (h : IsPrompt s id (l ++ [t])) :
    IsPrompt s id l ∧ ∀ ms ∈ t.move.pause?, CanPause s id t.before ms :=
  ⟨fun u hu ↦ h u (List.mem_append_left _ hu),
    h t (List.mem_append_right _ (List.mem_singleton_self t))⟩

/-- A loop that waits can do so until its next tick is due. -/
theorem CanPause.le_deadline {ms : Nat} (h : CanPause s id a ms) (there : a.loop? id = some k)
    (waits : k.phase = .waiting) (pos : 0 < ms) : a.now + ms ≤ k.ticker.deadline := by
  have still := h (ms - 1) (Nat.sub_one_lt_of_lt pos)
  have there' : (a.elapse (ms - 1)).loop? id = some k := there
  rw [step_loop_eq there', stepLoop_waiting waits] at still
  split at still
  · cases still
  · split at still
    · cases still
    · rename_i undue
      have undue : ¬k.ticker.deadline ≤ a.now + (ms - 1) := fun due ↦ undue (decide_eq_true due)
      omega

/-- A loop whose tick is over cannot pause. -/
theorem CanPause.eq_zero {ms : Nat} (h : CanPause s id a ms)
    (there : a.loop? id = some k) {cycle : Nat} (ticks : k.phase = .ticking cycle)
    (past : a.runs cycle = false) : ms = 0 := by
  refine Nat.eq_zero_of_not_pos fun pos ↦ ?_
  have still := h 0 pos
  have there' : (a.elapse 0).loop? id = some k := there
  have past' : (a.elapse 0).runs cycle = false := past
  rw [step_loop_eq there', stepLoop_ticking ticks, past', if_neg Bool.false_ne_true] at still
  cases still

theorem Follows.append {x y : Tick} (h : Follows s id p l x y) (t : Passage Agent Move) :
    Follows s id p (l ++ [t]) x y where
  starts := by
    obtain ⟨e, ended, before, after, prompt⟩ := h.starts
    exact ⟨e, endOf_append_of_some ended t, before, after, fun h ↦ prompt (isPrompt_append h).1⟩
  onTime := h.onTime
  late := h.late

/-! ## The invariant

A loop has no call under way since its start, or since the end of its last tick, or it has one. -/

/-- Since when a loop that was started at `t₀` has had no call under way; `none` while it has
one. -/
def freeSince (id t₀ : Nat) (l : List (Passage Agent Move)) : Option Nat :=
  match (ticks id l).getLast? with
  | none => some t₀
  | some x => endOf x.cycle l

/-- The deadlines so far, and the next one, are multiples of the period. -/
def OnGrid (id p t₀ : Nat) (l : List (Passage Agent Move)) (t : Ticker) : Prop :=
  ∃ ms m, (ticks id l).map (·.deadline) = ms.map (fun m ↦ t₀ + m * p) ∧ t = ⟨p, t₀ + m * p⟩ ∧
    (ms ++ [m]).Pairwise (· < ·) ∧ (ms ++ [m]).head? = some 0

/-- Where a loop stands. -/
def Standing (s : AgentSetup) (id t₀ : Nat) (l : List (Passage Agent Move)) (a : Agent) (k : Loop) :
    LoopPhase → Prop
  | .waiting => ∃ e, freeSince id t₀ l = some e ∧ (∀ x ∈ (ticks id l).getLast?, x.start ≤ e) ∧
      e ≤ a.now ∧ (IsPrompt s id l → a.now ≤ max k.ticker.deadline e)
  | .ticking cycle => ∃ x, (ticks id l).getLast? = some x ∧ x.cycle = cycle ∧
      cycle < a.scheduler.next ∧ x.start ≤ a.now ∧
      (a.runs cycle = false → ∃ e, endOf cycle l = some e ∧ x.start ≤ e ∧ e ≤ a.now ∧
        (IsPrompt s id l → a.now = e))
  | .stopped => a.scheduler.isFired k.token = true ∧ ∃ e, freeSince id t₀ l = some e

/-- What is known about a loop with a period of `p` milliseconds that was started at `t₀`. -/
structure Pacing (s : AgentSetup) (id p t₀ token : Nat) (l : List (Passage Agent Move)) (a : Agent)
    (k : Loop) : Prop where
  there : a.loop? id = some k
  token_eq : k.token = token
  since : t₀ ≤ a.now
  grid : OnGrid id p t₀ l k.ticker
  /-- The ticker has been advanced by the last tick. -/
  ticker : ∀ x ∈ (ticks id l).getLast?, k.ticker = Ticker.advance ⟨p, x.deadline⟩ x.start
  first : ∀ x ∈ (ticks id l).head?, t₀ ≤ x.start ∧ (IsPrompt s id l → x.start = t₀)
  follow : (ticks id l).IsChain (Follows s id p l)
  standing : Standing s id t₀ l a k k.phase

theorem ticks_append_of_idle {t : Passage Agent Move} (idle : tick? id t = none) :
    ticks id (l ++ [t]) = ticks id l := by
  rw [ticks_append, idle, Option.toList_none, List.append_nil]

theorem freeSince_append {t : Passage Agent Move} (idle : tick? id t = none) {e : Nat}
    (h : freeSince id t₀ l = some e) : freeSince id t₀ (l ++ [t]) = some e := by
  rw [freeSince, ticks_append_of_idle idle]
  rw [freeSince] at h
  split at h
  · exact h
  · exact endOf_append_of_some h t

/-- A move in which the loop takes no tick keeps what is known about its ticks. -/
theorem Pacing.idle (h : Pacing s id p t₀ token l a k) {t : Passage Agent Move}
    (idle : tick? id t = none) (there : a'.loop? id = some k') (token_eq : k'.token = k.token)
    (ticker : k'.ticker = k.ticker) (later : a.now ≤ a'.now)
    (standing : Standing s id t₀ (l ++ [t]) a' k' k'.phase) :
    Pacing s id p t₀ token (l ++ [t]) a' k' := by
  have same : ticks id (l ++ [t]) = ticks id l := ticks_append_of_idle idle
  refine
    { there
      token_eq := token_eq.trans h.token_eq
      since := Nat.le_trans h.since later
      grid := ?_
      ticker := ?_
      first := ?_
      follow := ?_
      standing }
  · rw [OnGrid, same, ticker]
    exact h.grid
  · rw [same, ticker]
    exact h.ticker
  · rw [same]
    exact fun x hx ↦ (h.first x hx).imp_right fun start prompt ↦ start (isPrompt_append prompt).1
  · rw [same]
    exact h.follow.imp fun x y follows ↦ follows.append t

/-- A prompt loop that waits for its next tick is not late for it, however time passes. -/
theorem Pacing.rest_waiting (h : Pacing s id p t₀ token l a k) (waits : k.phase = .waiting)
    (e : move s m a = some a') (other : m ≠ .turn (.loop id)) :
    Standing s id t₀ (l ++ [⟨a, m, a'⟩]) a' k .waiting := by
  have idle : tick? id ⟨a, m, a'⟩ = none := tick?_of_ne other
  have standing := h.standing
  rw [waits] at standing
  obtain ⟨free, since, ended, le, prompt⟩ := standing
  refine ⟨free, freeSince_append idle since, ?_, Nat.le_trans le (now_le_of_move e), fun hp ↦ ?_⟩
  · rw [ticks_append_of_idle idle]
    exact ended
  · obtain ⟨before, pause⟩ := isPrompt_append hp
    rcases now_of_move e with same | ⟨ms, rfl, rfl⟩
    · rw [same]
      exact prompt before
    · rcases Nat.eq_zero_or_pos ms with rfl | pos
      · exact prompt before
      · exact Nat.le_trans ((pause ms rfl).le_deadline h.there waits pos) (Nat.le_max_left _ _)

/-- The tick of a loop goes on, ends, or is over, and a prompt loop does not wait after its end. -/
theorem Pacing.rest_ticking (h : Pacing s id p t₀ token l a k) {cycle : Nat}
    (ticks : k.phase = .ticking cycle) (numbered : Numbered b) (run : Trail (move s) b l a)
    (e : move s m a = some a') (other : m ≠ .turn (.loop id)) :
    Standing s id t₀ (l ++ [⟨a, m, a'⟩]) a' k (.ticking cycle) := by
  have standing := h.standing
  rw [ticks] at standing
  obtain ⟨x, last, rfl, given, start, past⟩ := standing
  have later := now_le_of_move e
  refine ⟨x, ?_, rfl, Nat.lt_of_lt_of_le given (next_le_of_move e),
    Nat.le_trans start later, fun gone ↦ ?_⟩
  · rw [ticks_append_of_idle (tick?_of_ne other)]
    exact last
  cases running : a.runs x.cycle with
  | true =>
    -- The call ends in this move, so no time passes in it.
    have same : a'.now = a.now := by
      rcases now_of_move e with same | ⟨ms, -, rfl⟩
      · exact same
      · have kept : (a.elapse ms).runs x.cycle = a.runs x.cycle := rfl
        rw [kept, running] at gone
        cases gone
    exact ⟨a.now, endOf_of_move numbered run running gone m, start, later, fun _ ↦ same⟩
  | false =>
    obtain ⟨end_, ended, after, le, prompt⟩ := past running
    refine ⟨end_, endOf_append_of_some ended _, after, Nat.le_trans le later, fun hp ↦ ?_⟩
    obtain ⟨before, pause⟩ := isPrompt_append hp
    rcases now_of_move e with same | ⟨ms, rfl, rfl⟩
    · rw [same]
      exact prompt before
    · obtain rfl := (pause ms rfl).eq_zero h.there ticks running
      exact prompt before

/-- While a loop has no turn it stands as it did. -/
theorem Pacing.rest (h : Pacing s id p t₀ token l a k) (numbered : Numbered b)
    (run : Trail (move s) b l a) (e : move s m a = some a') (other : m ≠ .turn (.loop id)) :
    Pacing s id p t₀ token (l ++ [⟨a, m, a'⟩]) a' k := by
  have idle : tick? id ⟨a, m, a'⟩ = none := tick?_of_ne other
  refine h.idle idle (loop?_of_move e other h.there) rfl rfl (now_le_of_move e) ?_
  cases phase : k.phase with
  | waiting => exact h.rest_waiting phase e other
  | ticking cycle => exact h.rest_ticking phase numbered run e other
  | stopped =>
    have standing := h.standing
    rw [phase] at standing
    obtain ⟨fired, free, since⟩ := standing
    exact ⟨isFired_of_move e fired, free, freeSince_append idle since⟩

/-- The next deadline joins the others when its tick is taken. -/
theorem OnGrid.tick {t : Ticker} {u : Passage Agent Move} {x : Tick} (h : OnGrid id p t₀ l t)
    (taken : tick? id u = some x) (due : x.deadline = t.deadline) (now : Nat) :
    OnGrid id p t₀ (l ++ [u]) (t.advance now) := by
  obtain ⟨ms, m, deadlines, rfl, ascending, head⟩ := h
  obtain ⟨n, pos, next⟩ := Ticker.exists_advance ⟨p, t₀ + m * p⟩ now
  refine ⟨ms ++ [m], m + n, ?_, ?_, ?_, ?_⟩
  · rw [ticks_append, taken, Option.toList_some, List.map_append, List.map_append, deadlines,
      List.map_singleton, List.map_singleton, due]
  · rw [next, Nat.add_mul, Nat.add_assoc]
  · refine List.pairwise_append.mpr ⟨ascending, List.pairwise_singleton _ _, fun i hi j hj ↦ ?_⟩
    rw [List.mem_singleton.mp hj]
    rcases List.mem_append.mp hi with hi | hi
    · have lt := (List.pairwise_append.mp ascending).2.2 i hi m (List.mem_singleton_self m)
      omega
    · rw [List.mem_singleton.mp hi]
      omega
  · rw [List.head?_append, head, Option.some_or]

/-- A tick has to do with the one before it what it should. -/
theorem Pacing.follows (h : Pacing s id p t₀ token l a k) (pos : 0 < p) (waits : k.phase = .waiting)
    (due : k.ticker.deadline ≤ a.now) (u : Passage Agent Move) (cycle : Nat) {x : Tick}
    (last : (ticks id l).getLast? = some x) :
    Follows s id p (l ++ [u]) x ⟨k.ticker.deadline, a.now, cycle⟩ := by
  have standing := h.standing
  rw [waits] at standing
  obtain ⟨free, since, ended, le, prompt⟩ := standing
  rw [freeSince, last] at since
  refine ⟨⟨free, endOf_append_of_some since u, ended x last, Nat.max_le.mpr ⟨due, le⟩, fun hp ↦ ?_⟩,
    ?_, ?_⟩
  · exact Nat.le_antisymm (prompt (isPrompt_append hp).1) (Nat.max_le.mpr ⟨due, le⟩)
  · intro onTime
    dsimp only
    rw [h.ticker x last, Ticker.advance_of_onTime onTime, Nat.one_mul]
  · intro late
    dsimp only
    rw [h.ticker x last]
    exact Ticker.lt_advance_of_late pos late

/-- A prompt loop takes its first tick at the start: it is due then, and the loop has been free
since. -/
theorem Pacing.now_of_first (h : Pacing s id p t₀ token l a k) (waits : k.phase = .waiting)
    (first : ticks id l = []) (prompt : IsPrompt s id l) : a.now = t₀ := by
  obtain ⟨ms, m, deadlines, grid, -, head⟩ := h.grid
  rw [first, List.map_nil] at deadlines
  obtain rfl : ms = [] := List.map_eq_nil_iff.mp deadlines.symm
  obtain rfl : m = 0 := Option.some.inj head
  have standing := h.standing
  rw [waits] at standing
  obtain ⟨free, since, -, -, onTime⟩ := standing
  rw [freeSince, first] at since
  obtain rfl : t₀ = free := Option.some.inj since
  have le := onTime prompt
  rw [grid, Nat.zero_mul, Nat.add_zero, Nat.max_self] at le
  exact Nat.le_antisymm le h.since

/-- A loop that takes a tick goes on in step. -/
theorem Pacing.tick (h : Pacing s id p t₀ token l a k) (pos : 0 < p) (waits : k.phase = .waiting)
    (due : k.ticker.deadline ≤ a.now) {u : Passage Agent Move} {cycle : Nat}
    (taken : tick? id u = some ⟨k.ticker.deadline, a.now, cycle⟩) (there : a'.loop? id = some k')
    (token_eq : k'.token = k.token) (ticker : k'.ticker = k.ticker.advance a.now)
    (phase : k'.phase = .ticking cycle) (now : a'.now = a.now) (given : cycle < a'.scheduler.next)
    (running : a'.runs cycle = true) : Pacing s id p t₀ token (l ++ [u]) a' k' := by
  have more : ticks id (l ++ [u]) = ticks id l ++ [⟨k.ticker.deadline, a.now, cycle⟩] := by
    rw [ticks_append, taken, Option.toList_some]
  have last : (ticks id (l ++ [u])).getLast? = some ⟨k.ticker.deadline, a.now, cycle⟩ := by
    rw [more, List.getLast?_append, List.getLast?_singleton, Option.some_or]
  obtain ⟨ms, m, -, grid, -⟩ := h.grid
  refine
    { there
      token_eq := token_eq.trans h.token_eq
      since := h.since.trans_eq now.symm
      grid := ?_
      ticker := ?_
      first := ?_
      follow := ?_
      standing := ?_ }
  · rw [ticker]
    exact h.grid.tick taken rfl a.now
  · intro x hx
    obtain rfl := Option.some.inj (last.symm.trans hx)
    rw [ticker]
    dsimp only
    rw [grid]
  · intro x hx
    rw [more] at hx
    cases before : ticks id l with
    | cons y ys =>
      rw [before, List.cons_append, List.head?_cons] at hx
      have hy : x ∈ (ticks id l).head? := by
        rw [before, List.head?_cons]
        exact hx
      exact (h.first x hy).imp_right fun start prompt ↦ start (isPrompt_append prompt).1
    | nil =>
      rw [before, List.nil_append, List.head?_singleton] at hx
      obtain rfl := Option.some.inj hx
      exact ⟨h.since, fun prompt ↦ h.now_of_first waits before (isPrompt_append prompt).1⟩
  · -- The new tick comes behind the last one, and no other neighbours are new.
    rw [more, List.isChain_append]
    refine ⟨h.follow.imp fun x y follows ↦ follows.append u, List.isChain_singleton _,
      fun x hx y hy ↦ ?_⟩
    obtain rfl := Option.some.inj hy
    exact h.follows pos waits due u cycle hx
  · rw [phase]
    refine ⟨_, last, rfl, given, Nat.le_of_eq now.symm, fun past ↦ ?_⟩
    rw [running] at past
    cases past

/-- The turn of a loop keeps it in step. -/
theorem Pacing.turn (h : Pacing s id p t₀ token l a k) (pos : 0 < p) (numbered : Numbered a)
    (turn : LoopTurn a k k' a') :
    Pacing s id p t₀ token (l ++ [⟨a, .turn (.loop id), a'⟩]) a' k' := by
  have there' := turn.loop?_self h.there
  have taken := tick?_of_turn h.there there'
  have standing := h.standing
  cases turn with
  | stops waits fired =>
    rw [waits] at standing
    obtain ⟨free, since, -⟩ := standing
    exact h.idle taken there' rfl rfl (Nat.le_refl _) ⟨fired, free, freeSince_append taken since⟩
  | ticks waits unfired due =>
    refine h.tick pos waits due taken there' rfl rfl rfl rfl (Nat.lt_succ_self _) ?_
    exact runs_of_awaits (awaits_of_isTicking (numbered.isTicking_call k.token))
  -- The loop is free from the end of its tick on, which a prompt loop has not let pass.
  | resumes cycle ticks past =>
    rw [ticks] at standing
    obtain ⟨x, last, rfl, -, -, end_⟩ := standing
    obtain ⟨free, ended, after, le, prompt⟩ := end_ past
    have since : freeSince id t₀ l = some free := by
      rw [freeSince, last]
      exact ended
    refine h.idle taken there' rfl rfl (Nat.le_refl _)
      ⟨free, freeSince_append taken since, fun y hy ↦ ?_, le, fun hp ↦ ?_⟩
    · rw [ticks_append_of_idle taken, last] at hy
      rw [← Option.some.inj hy]
      exact after
    · have now := prompt (isPrompt_append hp).1
      exact Nat.le_trans (Nat.le_of_eq now) (Nat.le_max_right _ _)

/-- A loop starts in step. -/
theorem pacing_startLoop (numbered : Numbered b) (whole : s.options.interval.nanos = p * 1000000)
    (token : Nat) : ∃ k, Pacing s b.loops.length p b.now token [] (b.startLoop s token) k := by
  have period : s.options.interval.ceilMillis = p := by
    rw [Duration.ceilMillis, whole]
    omega
  have fresh : b.loops.find? (·.id = b.loops.length) = none := by
    refine List.find?_eq_none.mpr fun k hk same ↦ ?_
    exact Nat.ne_of_lt (numbered.loops k hk) (of_decide_eq_true same)
  refine ⟨⟨b.loops.length, token, ⟨p, b.now⟩, .waiting⟩, ?_⟩
  refine
    { there := ?_
      token_eq := rfl
      since := Nat.le_refl _
      grid := ⟨[], 0, rfl, by rw [Nat.zero_mul, Nat.add_zero], List.pairwise_singleton _ _, rfl⟩
      ticker := fun x hx ↦ absurd hx (Option.not_mem_none x)
      first := fun x hx ↦ absurd hx (Option.not_mem_none x)
      follow := .nil
      standing := ⟨b.now, rfl, fun x hx ↦ absurd hx (Option.not_mem_none x), Nat.le_refl _,
        fun _ ↦ Nat.le_max_right _ _⟩ }
  rw [loop?, startLoop, period, Ticker.start]
  dsimp only
  rw [List.find?_append, fresh, Option.none_or, List.find?_singleton, if_pos (decide_eq_true rfl)]

/-- **Every move keeps a loop in step.** -/
theorem pacing_of_trail (numbered : Numbered b) (pos : 0 < p)
    (whole : s.options.interval.nanos = p * 1000000)
    (h : Trail (move s) (b.startLoop s token) l a) :
    ∃ k, Pacing s b.loops.length p b.now token l a k := by
  have numbered' : Numbered (b.startLoop s token) :=
    numbered.move (m := .startLoop token) rfl
  induction h with
  | start => exact pacing_startLoop numbered whole token
  | @move l v v' h m e ih =>
    obtain ⟨k, pacing⟩ := ih
    by_cases own : m = .turn (.loop b.loops.length)
    · subst own
      obtain ⟨j, k', same, -, turn⟩ := step_loop (s := s) e
      obtain rfl : j = k := Option.some.inj (same.symm.trans pacing.there)
      exact ⟨k', pacing.turn pos (numbered_of_trail numbered' h) turn⟩
    · exact ⟨k, pacing.rest numbered' h e own⟩

/-! ## All runs

What is known of neighbouring ticks gives what there is to say about any two. -/

/-- One tick of a loop is over before another one begins. -/
def Precedes (l : List (Passage Agent Move)) (x y : Tick) : Prop :=
  ∃ e, endOf x.cycle l = some e ∧ x.start ≤ e ∧ e ≤ y.start

instance (l : List (Passage Agent Move)) : IsTrans Tick (Precedes l) where
  trans _ _ _ := by
    rintro ⟨e, ended, start, before⟩ ⟨e', -, start', before'⟩
    exact ⟨e, ended, start, Nat.le_trans before (Nat.le_trans start' before')⟩

/-- How a loop goes on after a run. -/
structure Lasts (s : AgentSetup) (id token : Nat) (l : List (Passage Agent Move))
    (a : Agent) (k : Loop) : Prop where
  there : a.loop? id = some k
  /-- It has stopped only if its token has fired. -/
  stopped : k.phase = .stopped → a.scheduler.isFired token = true
  /-- It has to wait only while its last tick is under way and until the next one is due. -/
  waits : k.phase ≠ .stopped → (a.step s (.loop id) = none ↔
    (∃ x ∈ (ticks id l).getLast?, a.runs x.cycle = true) ∨
      k.phase = .waiting ∧ a.scheduler.isFired token = false ∧ a.now < k.ticker.deadline)
  /-- When a tick is over it waits for the next one, whatever the cycle gave, and then it takes
  that, or stops if the token has fired. -/
  goesOn : ∀ a', a.step s (.loop id) = some a' → ∃ k', a'.loop? id = some k' ∧
    (k.phase = .waiting → a.scheduler.isFired token = true → k'.phase = .stopped) ∧
    (k.phase = .waiting → a.scheduler.isFired token = false →
      ∃ x, tick? id ⟨a, .turn (.loop id), a'⟩ = some x ∧ x.deadline = k.ticker.deadline) ∧
    (k.phase ≠ .waiting → k'.phase = .waiting)

/-- What there is to say about the ticks of a loop with a period of `p` milliseconds that was
started at `t₀` under a token, after a run. -/
structure Paced (s : AgentSetup) (id p t₀ token : Nat) (l : List (Passage Agent Move)) (a : Agent) :
    Prop where
  /-- The first deadline is the start, and the others lie after it by more and more periods. -/
  deadlines : ∃ ms : List Nat, (ticks id l).map (·.deadline) = ms.map (fun m ↦ t₀ + m * p) ∧
    ms.Pairwise (· < ·) ∧ ∀ m ∈ ms.head?, m = 0
  /-- A prompt loop takes the first tick at once. -/
  first : ∀ x ∈ (ticks id l).head?, t₀ ≤ x.start ∧ (IsPrompt s id l → x.start = t₀)
  /-- A prompt loop takes each other tick at its deadline or at the end of the tick before,
  whichever is later. -/
  follow : (ticks id l).IsChain (Follows s id p l)
  /-- The ticks do not overlap. -/
  apart : (ticks id l).Pairwise (Precedes l)
  /-- Only the last tick can be under way. -/
  current : ∀ x ∈ ticks id l, a.runs x.cycle = true → (ticks id l).getLast? = some x
  /-- Each tick begins a call whose batch goes to the exporters. -/
  calls : ∀ t ∈ l, ∀ x ∈ tick? id t, t.after.isTicking x.cycle = true
  /-- The loop goes on until its token fires. -/
  lasts : ∃ k, Lasts s id token l a k
  /-- Once the token has fired there are no more ticks. -/
  quiet : a.scheduler.isFired token = true →
    ∀ l' a', Trail (move s) a l' a' → ticks id l' = []

/-- When a loop has to wait. -/
theorem Pacing.step_eq_none_iff (h : Pacing s id p t₀ token l a k)
    (past : ∀ x ∈ ticks id l, ∀ e, endOf x.cycle l = some e → a.runs x.cycle = false)
    (goes : k.phase ≠ .stopped) : a.step s (.loop id) = none ↔
      (∃ x ∈ (ticks id l).getLast?, a.runs x.cycle = true) ∨
        k.phase = .waiting ∧ a.scheduler.isFired token = false ∧ a.now < k.ticker.deadline := by
  have standing := h.standing
  rw [step_loop_eq h.there, ← h.token_eq]
  cases phase : k.phase with
  | stopped => exact absurd phase goes
  | waiting =>
    rw [phase] at standing
    obtain ⟨free, since, -⟩ := standing
    -- A loop that waits is free, so its last tick is over.
    have idle : ¬∃ x ∈ (ticks id l).getLast?, a.runs x.cycle = true := by
      rintro ⟨x, last, running⟩
      rw [freeSince, last] at since
      rw [past x (List.mem_of_getLast? last) free since] at running
      cases running
    rw [stepLoop_waiting phase, or_iff_right idle]
    cases a.scheduler.isFired k.token with
    | true => simp
    | false => simp [Ticker.isDue]
  | ticking cycle =>
    rw [phase] at standing
    obtain ⟨x, last, rfl, -⟩ := standing
    rw [stepLoop_ticking phase, last]
    cases running : a.runs x.cycle <;> simp [running]

/-- A loop goes on until its token fires. -/
theorem Pacing.lasts (h : Pacing s id p t₀ token l a k)
    (past : ∀ x ∈ ticks id l, ∀ e, endOf x.cycle l = some e → a.runs x.cycle = false) :
    Lasts s id token l a k where
  there := h.there
  stopped stopped := by
    have standing := h.standing
    rw [stopped] at standing
    rw [← h.token_eq]
    exact standing.1
  waits := h.step_eq_none_iff past
  goesOn a' e := by
    obtain ⟨j, k', same, -, turn⟩ := step_loop (s := s) e
    obtain rfl : j = k := Option.some.inj (same.symm.trans h.there)
    have there' := turn.loop?_self h.there
    rw [tick?_of_turn h.there there', ← h.token_eq]
    refine ⟨k', there', ?_⟩
    cases turn with
    | stops waits fired => simp [waits, fired]
    | ticks waits unfired => simp [waits, unfired]
    | resumes cycle ticks => simp [ticks]

/-- **The timing of a loop**, for every period of a positive whole number of milliseconds, and every
order in which calls are made, tasks have their turns, tokens fire and time passes, whatever the
cycles do and however long they take.  The deadlines lie on the multiples of the period, the ticks
do not overlap, and a loop that never has to wait for its turn takes each tick at its deadline or
when the tick before is over.  The loop does not stop before its token fires, and takes no tick
after that. -/
theorem loop_keeps_pace {metrics : SelfMetrics} (reached : Reachable s metrics b) (pos : 0 < p)
    (whole : s.options.interval.nanos = p * 1000000)
    (run : Trail (move s) (b.startLoop s token) l a) :
    Paced s b.loops.length p b.now token l a := by
  have numbered : Numbered (b.startLoop s token) :=
    reached.numbered.move (s := s) (m := .startLoop token) rfl
  obtain ⟨k, pacing⟩ := pacing_of_trail reached.numbered pos whole run
  obtain ⟨ms, m, deadlines, -, ascending, head⟩ := pacing.grid
  have past : ∀ x ∈ ticks b.loops.length l, ∀ e, endOf x.cycle l = some e →
      a.runs x.cycle = false :=
    fun x _ e ended ↦ (not_runs_of_endOf numbered run ended).2
  -- Neighbours do not overlap, and this carries over to all pairs, since the order is transitive.
  have apart : (ticks b.loops.length l).Pairwise (Precedes l) := by
    refine List.isChain_iff_pairwise.mp (pacing.follow.imp fun x y follows ↦ ?_)
    obtain ⟨e, ended, start, after, -⟩ := follows.starts
    exact ⟨e, ended, start, Nat.le_trans (Nat.le_max_right _ _) after⟩
  refine
    { deadlines := ⟨ms, deadlines, (List.pairwise_append.mp ascending).1, fun i hi ↦ ?_⟩
      first := pacing.first
      follow := pacing.follow
      apart
      current := fun x hx running ↦ ?_
      calls := fun t ht x hx ↦ ?_
      lasts := ⟨k, pacing.lasts past⟩
      quiet := fun fired l' a' later ↦ ?_ }
  · rw [List.head?_append, hi, Option.some_or] at head
    exact Option.some.inj head
  · -- A tick with another one behind it has ended.
    rcases List.eq_nil_or_concat' (ticks b.loops.length l) with none | ⟨xs, y, more⟩
    · rw [none] at hx
      cases hx
    · rw [more] at hx apart ⊢
      rcases List.mem_append.mp hx with hx' | hx'
      · obtain ⟨e, ended, -⟩ :=
          (List.pairwise_append.mp apart).2.2 x hx' y (List.mem_singleton_self y)
        rw [(not_runs_of_endOf numbered run ended).2] at running
        cases running
      · rw [List.mem_singleton.mp hx', List.getLast?_concat]
  · obtain ⟨before, e⟩ := run.forall_mem numbered (fun _ hv e ↦ hv.move e) t ht
    exact isTicking_of_tick? before e hx
  · exact ticks_eq_nil_of_fired pacing.there (by rw [pacing.token_eq]; exact fired) later

/-- An agent that collects every ten milliseconds from a collector that takes 27 the first time, and
then fails. -/
def slowOnce : AgentSetup where
  scheduler :=
    { registry :=
        ⟨[⟨"host",
          [⟨"disk",
            fun n ↦ if n = 0 then ⟨some 27, false, false, .batch []⟩
              else ⟨some 0, false, false, .failure (.unexpected "bug")⟩, 0⟩], none⟩]⟩
      config := ⟨false, 1, none, true⟩ }
  options := ⟨.ofMillis 10, false, ""⟩
  policy := .default
  exporters := []

/-- The second tick of its loop is late by the first one, and the third one is on time, although the
second cycle has failed. The token fires in the third one. -/
theorem loop_keeps_pace_after_overrun : ∃ (l : List (Passage Agent Move)) (a : Agent),
    Reachable slowOnce .new (start slowOnce .new) ∧
      Trail (move slowOnce) ((start slowOnce .new).startLoop slowOnce 7) l a ∧
      slowOnce.options.interval.nanos = 10 * 1000000 ∧ IsPrompt slowOnce 0 l ∧
      (ticks 0 l).map (fun x ↦ (x.deadline, x.start)) = [(0, 0), (10, 27), (30, 30)] ∧
      a.scheduler.isFired 7 = true ∧ Paced slowOnce 0 10 0 7 l a := by
  have run : Trail (move slowOnce) ((start slowOnce .new).startLoop slowOnce 7) _ _ :=
    Trail.of_follow
      [.turn (.loop 0), .turn (.scheduler (.cycle 0)), .turn (.scheduler (.cycle 0)),
        .turn (.scheduler (.cycle 0)), .turn (.scheduler (.cycle 0)),
        .turn (.scheduler (.invocation 1)), .elapse 27, .turn (.scheduler (.invocation 1)),
        .turn (.scheduler (.cycle 0)), .turn (.scheduler (.cycle 0)), .turn (.scheduler (.cycle 0)),
        .turn (.scheduler (.cycle 0)), .turn (.call 0), .turn (.loop 0), .turn (.loop 0),
        .turn (.scheduler (.cycle 2)), .turn (.scheduler (.cycle 2)), .turn (.scheduler (.cycle 2)),
        .turn (.scheduler (.cycle 2)), .turn (.scheduler (.invocation 3)),
        .turn (.scheduler (.invocation 3)), .turn (.scheduler (.cycle 2)),
        .turn (.scheduler (.cycle 2)), .turn (.call 2), .turn (.loop 0), .elapse 3,
        .turn (.loop 0), .cancel 7] rfl
  exact ⟨_, _, .start, run, rfl, by decide, rfl, rfl, loop_keeps_pace .start (by decide) rfl run⟩

end Runs

end Agent

end MetricsAgent
