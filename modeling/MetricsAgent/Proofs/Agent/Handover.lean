import MetricsAgent.Proofs.Agent.Course

/-!
# How a batch goes through the exporters

The batch of a tick goes to the exporters one after the other, in the order of their registration,
and each of them may keep it as long as it likes.  In the meantime other ticks go on, tokens fire,
and someone may stop waiting for the tick, which ends it where it is.

`Agent.told` is what the history says of the batch of one cycle.  `Agent.HandsOver` says how it
comes about, in every state that a run leads to after the cycle has been dealt with:

* exporters that have answered, in order, and then one that has the batch still,
* or all of them, and the tick has answered,
* or some of them, and nobody waits any more.

It follows from `Agent.Holds`, which knows where the call stands and is kept by every move
(`Agent.Holds.move`).  The difference is that `Agent.Holds` is about the phase of the call, and
`Agent.HandsOver` about what can be seen: the history, the answer, and whether the call has a turn.

An exporter that fails is like one that succeeds here.  Its answer is told, and the batch goes on to
the next one.
-/

set_option autoImplicit false

namespace MetricsAgent

/-- What is told of an exporter that gets the batch of a cycle and answers. -/
def Exporter.dealings (cycle : Nat) (batch : List Measurement) (e : Exporter) : List Agent.Event :=
  [.handed cycle e.name batch, .answered cycle e.name (e.take cycle batch).result]

namespace Agent

/-! ## What can be seen of a batch

The events about a batch name the cycle that it is from. -/

/-- The cycle that an event with an exporter is about. -/
def Event.cycle? : Event → Option Nat
  | ticked .. => none
  | handed cycle .. | answered cycle .. => some cycle

/-- What was told of the exporters and the batch of a cycle, and when. -/
def told (a : Agent) (cycle : Nat) : List (Nat × Event) :=
  a.history.toList.filter (·.2.cycle? = some cycle)

/-- What was told of the exporters, and when. -/
def exports (a : Agent) : List (Nat × Event) := a.history.toList.filter (·.2.cycle?.isSome)

/-- Whether a call is under way whose batch an exporter has. -/
def isExporting (a : Agent) (cycle : Nat) : Bool := a.runs cycle && !a.awaits cycle

/-- What a tick has answered: the number of measurements that the exporters got, or nothing. -/
def answer? (a : Agent) (cycle : Nat) : Option (Option Nat) :=
  (a.call? cycle).bind fun c ↦ match c.phase with
    | .exported count => some count
    | _ => none

theorem answer?_eq {a : Agent} {c : Call} {n : Nat} {count : Option Nat}
    (there : a.call? n = some c) (phase : c.phase = .exported count) :
    a.answer? n = some count := by
  rw [answer?, there, Option.bind_some, phase]

/-! ## What moves tell

Only the turns of a call tell anything of its batch. -/

section Told

variable {s : AgentSetup} {a a' : Agent} {c : Call} {m : Move}

theorem told_congr (same : a'.history = a.history) (n : Nat) : a'.told n = a.told n := by
  rw [told, same, told]

theorem told_note (a : Agent) (e : Event) (n : Nat) :
    (a.note e).told n = a.told n ++ if e.cycle? = some n then [(a.now, e)] else [] := by
  rw [told, note, History.toList_push, List.filter_append, List.filter_singleton,
    Bool.cond_decide, told]

/-- What is told when a batch is handed over. -/
theorem told_handOver (a : Agent) (c : Call) (batch : List Measurement) (l : List Exporter) :
    (a.handOver c batch l).told c.cycle =
      a.told c.cycle ++ l.head?.toList.map fun e ↦ (a.now, .handed c.cycle e.name batch) := by
  cases l with
  | nil => exact (List.append_nil _).symm
  | cons e rest => exact (told_note a _ c.cycle).trans (congrArg _ (if_pos rfl))

theorem told_handOver_of_ne (a : Agent) (batch : List Measurement) (l : List Exporter) {n : Nat}
    (other : c.cycle ≠ n) : (a.handOver c batch l).told n = a.told n := by
  have another : ¬some c.cycle = some n := fun same ↦ other (Option.some.inj same)
  cases l with
  | nil => rfl
  | cons e rest =>
    exact (told_note a _ n).trans ((congrArg _ (if_neg another)).trans (List.append_nil _))

/-- A call that returns tells nothing of other cycles. -/
theorem told_finishCall_of_ne (r : Except CycleError CycleReport) {n : Nat} (other : c.cycle ≠ n) :
    (a.finishCall s c r).told n = a.told n := by
  cases r with
  | error e => rfl
  | ok r =>
    dsimp only [finishCall]
    split
    · rfl
    · split
      · rfl
      · exact told_handOver_of_ne _ _ _ other

/-- The turns of a call tell nothing of other cycles. -/
theorem CallTurn.told_of_ne (h : CallTurn s a c a') {n : Nat} (other : c.cycle ≠ n) :
    a'.told n = a.told n := by
  cases h with
  | returns r => exact told_finishCall_of_ne r other
  | passes batch e rest t =>
    have another : ¬some c.cycle = some n := fun same ↦ other (Option.some.inj same)
    rw [told_handOver_of_ne _ _ _ other, told_note, Event.cycle?, if_neg another, List.append_nil]

/-- All other moves tell nothing of the batch of a call. -/
theorem told_of_move (e : move s m a = some a') {n : Nat} (other : m ≠ .turn (.call n)) :
    a'.told n = a.told n := by
  cases m with
  | turn t =>
    cases t with
    | scheduler t =>
      obtain ⟨w, -, rfl⟩ := Option.map_eq_some_iff.mp e
      rfl
    | call cycle =>
      obtain ⟨c, -, rfl, turn⟩ := step_call e
      exact turn.told_of_ne fun same ↦ other (same ▸ rfl)
    | loop id =>
      obtain ⟨k, k', -, -, turn⟩ := step_loop (s := s) e
      cases turn with
      | stops => rfl
      | ticks => exact (told_note a _ n).trans (List.append_nil _)
      | resumes => rfl
  | _ => cases e; rfl

/-- A call stays as it is while it has no turn and nobody drops it, or its loop takes it when it has
ended. -/
theorem call?_of_move (e : move s m a = some a') {n : Nat} (given : n < a.scheduler.next)
    (turn : m ≠ .turn (.call n)) (drop : m ≠ .drop n) :
    a'.call? n = a.call? n ∨ a.runs n = false ∧ a'.call? n = none := by
  have begun {exports : Bool}
      (calls : a'.calls = a.calls ++ [⟨a.scheduler.next, exports, .running⟩]) :
      a'.call? n = a.call? n := by
    have other : ¬a.scheduler.next = n := fun same ↦ Nat.ne_of_lt given same.symm
    rw [call?, calls, List.find?_append, List.find?_singleton, if_neg (by simpa using other),
      Option.or_none, call?]
  have removed {k : Nat} (other : n ≠ k) (calls : a'.calls = a.calls.filter (·.cycle ≠ k)) :
      a'.call? n = a.call? n := by
    rw [call?, calls, Keyed.find?_filter_ne, if_neg other, call?]
  cases m with
  | call token exports => cases e; exact .inl (begun rfl)
  | drop k =>
    cases e
    exact .inl (removed (fun same ↦ drop (same ▸ rfl)) rfl)
  | turn t =>
    cases t with
    | scheduler t =>
      obtain ⟨w, -, rfl⟩ := Option.map_eq_some_iff.mp e
      exact .inl rfl
    | call k =>
      obtain ⟨c, -, rfl, turned⟩ := step_call e
      exact .inl (turned.moves.call?_of_ne fun same ↦ turn (same ▸ rfl))
    | loop id =>
      obtain ⟨k, k', -, -, turned⟩ := step_loop (s := s) e
      cases turned with
      | stops => exact .inl rfl
      | ticks => exact .inl (begun rfl)
      -- The only move besides a drop that takes a call away is that of the loop which waited for
      -- it.
      | resumes k ticks past =>
        by_cases same : n = k
        · subst same
          exact .inr ⟨past, (Keyed.find?_filter_ne a.calls n n).trans (if_pos rfl)⟩
        · exact .inl (removed same rfl)
  | _ => cases e; exact .inl rfl

/-! ## Before the batch is there

Nothing is told of a cycle before its end, so that what is told later starts with the first
exporter. -/

/-- Nothing is told of the batch of a cycle that has not begun or is under way. -/
def Unheard (a : Agent) : Prop :=
  ∀ n, a.awaits n = true ∨ a.scheduler.next ≤ n → a.told n = []

theorem Unheard.move (h : Unheard a) (numbered : Numbered a) (e : Agent.move s m a = some a') :
    Unheard a' := by
  intro n early
  have before : a.awaits n = true ∨ a.scheduler.next ≤ n := by
    rcases early with awaits | fresh
    · exact (awaits_of_move e awaits).imp_right fun same ↦ Nat.le_of_eq same.symm
    · exact .inr (Nat.le_trans (next_le_of_move e) fresh)
  by_cases own : m = .turn (.call n)
  · subst own
    obtain ⟨c, there, rfl, turn⟩ := step_call e
    have given : c.cycle < a'.scheduler.next :=
      Nat.lt_of_lt_of_le (numbered.calls c (List.mem_of_find?_eq_some there)) (next_le_of_move e)
    rcases early with awaits | fresh
    · rw [turn.moves.awaits_self there] at awaits
      cases awaits
    · exact absurd given (Nat.not_lt.mpr fresh)
  · rw [told_of_move e own]
    exact h n before

theorem unheard_of_trail {metrics : SelfMetrics} {l : List (Passage Agent Move)}
    (run : Trail (Agent.move s) (start s metrics) l a) : Unheard a :=
  (run.invariant (P := fun a ↦ Numbered a ∧ Unheard a) ⟨numbered_start s metrics, fun _ _ ↦ rfl⟩
    fun _ h e ↦ ⟨h.1.move e, h.2.move h.1 e⟩).2

end Told

/-! ## Where the batch is

A run is part of the statement, since that nobody waits any more is seen in a move of it. -/

/-- How the batch of a cycle has gone through the exporters, in a state that a run leads to. -/
inductive HandsOver (s : AgentSetup) (cycle : Nat) (batch : List Measurement)
    (l : List (Passage Agent Move)) (b : Agent) : Prop
  /-- An exporter has the batch, and those before it have answered. The tick waits for it as long as
  it takes, and then goes on, whatever the answer is. -/
  | waits (before rest : List Exporter) (e : Exporter) (since : Nat) (earlier : List (Nat × Event))
    (order : s.exporters = before ++ e :: rest)
    (answered : earlier.map (·.2) = before.flatMap (Exporter.dealings cycle batch))
    (told : b.told cycle = earlier ++ [(since, .handed cycle e.name batch)])
    (turn : b.step s (.call cycle) = none ↔
      ∀ ms, (e.take cycle batch).waitMs = some ms → b.now < since + ms)
    (goesOn : ∀ b', b.step s (.call cycle) = some b' →
      (before ++ [e]).flatMap (Exporter.dealings cycle batch) <+: (b'.told cycle).map (·.2))
  /-- All exporters have got the batch and have answered, and so has the tick. -/
  | ended (told : (b.told cycle).map (·.2) = s.exporters.flatMap (Exporter.dealings cycle batch))
    (answer : ∀ c, b.call? cycle = some c → b.answer? cycle = some (some batch.length))
  /-- Someone has stopped waiting for the tick, and the exporters that are left do not get the
  batch. -/
  | dropped (gone : ∃ t ∈ l, t.move = .drop cycle)
    (told : (b.told cycle).map (·.2) <+: s.exporters.flatMap (Exporter.dealings cycle batch))

/-- The same, with where the call stands. -/
inductive Holds (s : AgentSetup) (cycle : Nat) (batch : List Measurement)
    (l : List (Passage Agent Move)) (b : Agent) : Prop
  | waits (before rest : List Exporter) (e : Exporter) (since : Nat) (earlier : List (Nat × Event))
    (c : Call) (order : s.exporters = before ++ e :: rest)
    (answered : earlier.map (·.2) = before.flatMap (Exporter.dealings cycle batch))
    (told : b.told cycle = earlier ++ [(since, .handed cycle e.name batch)])
    (there : b.call? cycle = some c)
    (phase : c.phase = .exporting batch e rest ((e.take cycle batch).waitMs.map (since + ·)))
  | ended (told : (b.told cycle).map (·.2) = s.exporters.flatMap (Exporter.dealings cycle batch))
    (phase : ∀ c, b.call? cycle = some c → c.phase = .exported (some batch.length))
  | dropped (gone : ∃ t ∈ l, t.move = .drop cycle) (absent : b.call? cycle = none)
    (told : (b.told cycle).map (·.2) <+: s.exporters.flatMap (Exporter.dealings cycle batch))

section Runs

variable {s : AgentSetup} {a b b' : Agent} {c : Call} {m : Move} {cycle : Nat}
  {batch : List Measurement} {l : List (Passage Agent Move)}

/-- An exporter that has got the batch and those before it are the first ones of all. -/
theorem dealings_prefix {before rest : List Exporter} {e : Exporter} {earlier : List (Nat × Event)}
    {since : Nat} (order : s.exporters = before ++ e :: rest)
    (answered : earlier.map (·.2) = before.flatMap (Exporter.dealings cycle batch)) :
    (earlier ++ [(since, Event.handed cycle e.name batch)]).map (·.2) <+:
      s.exporters.flatMap (Exporter.dealings cycle batch) := by
  rw [order, List.flatMap_append, List.flatMap_cons, List.map_append, answered, Exporter.dealings,
    List.prefix_append_right_inj]
  exact ⟨_, rfl⟩

/-- **The batch is handed to the next exporter**, or the tick ends when all have answered. -/
theorem holds_handOver {before rest : List Exporter} (there : b.call? c.cycle = some c)
    (order : s.exporters = before ++ rest)
    (answered : (b.told c.cycle).map (·.2) = before.flatMap (Exporter.dealings c.cycle batch)) :
    Holds s c.cycle batch l (b.handOver c batch rest) := by
  have told := told_handOver b c batch rest
  cases rest with
  | nil =>
    refine .ended ?_ fun d same ↦ ?_
    · rw [told, List.head?_nil, Option.toList_none, List.map_nil, List.append_nil, answered, order,
        List.append_nil]
    · let after : Call := { c with phase := .exported (some batch.length) }
      rw [handOver, @call?_putCall_self _ c after there] at same
      rw [← Option.some.inj same]
  | cons e rest =>
    let until? := (e.take c.cycle batch).waitMs.map (b.now + ·)
    exact .waits before rest e b.now (b.told c.cycle) _ order answered told
      (@call?_putCall_self _ c { c with phase := .exporting batch e rest until? } there) rfl

/-- What a turn of the call does to the batch. -/
theorem Holds.turn (h : Holds s cycle batch l b) (e : b.step s (.call cycle) = some b') :
    Holds s cycle batch (l ++ [⟨b, .turn (.call cycle), b'⟩]) b' := by
  obtain ⟨c', there', rfl, turn⟩ := step_call e
  cases h with
  | dropped gone absent => cases absent.symm.trans there'
  | ended told phase =>
    have alive := turn.isUnderWay
    rw [phase c' there'] at alive
    cases alive
  | waits before rest x since earlier c order answered told there phase =>
    obtain rfl := Option.some.inj (there.symm.trans there')
    cases turn with
    | returns r running => cases running.symm.trans phase
    | passes batch' x' rest' t exporting due =>
      obtain ⟨rfl, rfl, rfl, -⟩ := CallPhase.exporting.inj (phase.symm.trans exporting)
      refine @holds_handOver s (b.note _) c batch _ (before ++ [x]) rest there ?_ ?_
      · rw [order, List.append_assoc, List.singleton_append]
      · rw [told_note, Event.cycle?, if_pos rfl, told, List.map_append, List.map_append, answered,
          List.flatMap_append, List.append_assoc]
        rfl

/-- **Every move keeps the batch on its way.** -/
theorem Holds.move (h : Holds s cycle batch l b) (given : cycle < b.scheduler.next)
    (e : Agent.move s m b = some b') : Holds s cycle batch (l ++ [⟨b, m, b'⟩]) b' := by
  by_cases own : m = .turn (.call cycle)
  · subst own
    exact h.turn e
  have same := told_of_move e own
  -- From here on nothing is told of the batch, and only a drop changes the call.
  by_cases drops : m = .drop cycle
  · subst drops
    cases e
    have gone : ∃ t ∈ l ++ [⟨b, .drop cycle, b.drop cycle⟩], t.move = .drop cycle :=
      ⟨_, List.mem_append_right l (List.mem_singleton_self _), rfl⟩
    have absent : (b.drop cycle).call? cycle = none :=
      (Keyed.find?_filter_ne b.calls cycle cycle).trans (if_pos rfl)
    cases h with
    | waits before rest x since earlier c order answered told =>
      exact .dropped gone absent (same ▸ told ▸ dealings_prefix order answered)
    | ended told =>
      refine .ended (same ▸ told) fun c there ↦ ?_
      cases absent.symm.trans there
    | dropped _ _ told => exact .dropped gone absent (same ▸ told)
  · have kept := call?_of_move e given own drops
    cases h with
    | waits before rest x since earlier c order answered told there phase =>
      rcases kept with kept | ⟨past, -⟩
      · exact .waits before rest x since earlier c order answered (same.trans told)
          (kept.trans there)
          phase
      · -- The tick is not over while an exporter has the batch.
        have alive := runs_eq_false_iff.mp past c there
        rw [phase] at alive
        cases alive
    | ended told phase =>
      refine .ended (same ▸ told) fun c there ↦ ?_
      rcases kept with kept | ⟨-, absent⟩
      · exact phase c (kept.symm.trans there)
      · cases absent.symm.trans there
    | dropped gone absent told =>
      obtain ⟨t, ht, moved⟩ := gone
      refine .dropped ⟨t, List.mem_append_left _ ht, moved⟩ ?_ (same ▸ told)
      rcases kept with kept | ⟨-, absent'⟩
      · exact kept.trans absent
      · exact absent'

theorem holds_of_trail (h : Holds s cycle batch [] a) (given : cycle < a.scheduler.next)
    (run : Trail (Agent.move s) a l b) : Holds s cycle batch l b ∧ cycle < b.scheduler.next := by
  induction run with
  | start => exact ⟨h, given⟩
  | move _ m e ih => exact ⟨ih.1.move ih.2 e, Nat.lt_of_lt_of_le ih.2 (next_le_of_move e)⟩

/-- Whether an exporter is through with a batch that it got at a time. -/
theorem over_iff {waitMs : Option Nat} {since now : Nat} :
    (waitMs.map (since + ·)).any (· ≤ now) = true ↔
      ¬∀ ms, waitMs = some ms → now < since + ms := by
  cases waitMs <;> simp

/-- What can be seen of a batch follows from where its call stands. -/
theorem Holds.handsOver (h : Holds s cycle batch l b) : HandsOver s cycle batch l b := by
  cases h with
  | dropped gone absent told => exact .dropped gone told
  | ended told phase => exact .ended told fun c there ↦ answer?_eq there (phase c there)
  | waits before rest e since earlier c order answered told there phase =>
    obtain rfl : c.cycle = cycle := Keyed.key_of_find? there
    refine .waits before rest e since earlier order answered told ?_ fun b' turned ↦ ?_
    · rw [step_call_eq there, stepCall, phase]
      dsimp only
      rw [ite_eq_right_iff, over_iff]
      simp only [reduceCtorEq, imp_false, not_not]
    · rw [step_call_eq there, stepCall, phase] at turned
      obtain ⟨-, turned⟩ := Option.ite_none_right_eq_some.mp turned
      cases turned
      rw [told_handOver, told_note, Event.cycle?, if_pos rfl, told, List.map_append,
        List.map_append, List.map_append, answered, List.flatMap_append, List.append_assoc,
        List.append_assoc, List.prefix_append_right_inj]
      exact ⟨_, rfl⟩

end Runs

end Agent

end MetricsAgent
