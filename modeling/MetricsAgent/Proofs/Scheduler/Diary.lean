import MetricsAgent.Proofs.Scheduler.Verdict

/-!
# The diary of a cycle

The history of a scheduler mixes what happens to different cycles.  The diary of a cycle
(`Scheduler.diary`) is the part of it that is about the cycle and its invocations, with the times.

`Scheduler.Entry` tells what a move makes of a cycle and writes into its diary
(`Scheduler.entry_of_move`):

* nothing, since the move is about something else,
* nothing, since the cycle is called for in it,
* what an invocation of the cycle tells,
* or what the cycle itself tells in its turn.

All that is written in one move has the time of this move.  That is what makes statements about the
times of events possible, as that an invocation begins after the hook before its module is over.

The lists of starts and ends that are taken from the whole history are those of the diary
(`startsIn_diary`, `endsIn_diary`), so what is known of them need not be proved again.
-/

set_option autoImplicit false

namespace MetricsAgent

namespace Scheduler

/-! ## Diaries

An event is about one cycle, which it names. -/

/-- What has happened on behalf of a cycle, in order, with the times at which it did. -/
def diary (w : Scheduler) (id : Nat) : List (Nat × Event) :=
  w.history.toList.filter (·.2.cycle = id)

/-- The collector whose invocation an event is about. -/
def Event.target? : Event → Option Target
  | spawned _ t | started _ t _ | gaveUp _ t | ended _ t | gone _ t _ => some t
  | before .. | after .. | closed _ => none

/-- The collectors for which a cycle spawns invocations in a part of its diary, in order. -/
def startsIn (id : Nat) (log : List (Nat × Event)) : List Target := log.filterMap (·.2.start? id)

/-- The collectors whose invocations are gone in a part of the diary of a cycle, and how they
ended. -/
def endsIn (id : Nat) (log : List (Nat × Event)) : List (Target × InvocationEnd) :=
  log.filterMap (·.2.end? id)

section Diary

variable {w w' : Scheduler} {es : List Event} {id : Nat}

theorem startsIn_append (id : Nat) (log log' : List (Nat × Event)) :
    startsIn id (log ++ log') = startsIn id log ++ startsIn id log' := List.filterMap_append

theorem endsIn_append (id : Nat) (log log' : List (Nat × Event)) :
    endsIn id (log ++ log') = endsIn id log ++ endsIn id log' := List.filterMap_append

theorem startsIn_map (id t : Nat) (es : List Event) :
    startsIn id (es.map (t, ·)) = es.filterMap (·.start? id) := by
  rw [startsIn, List.filterMap_map]
  rfl

theorem endsIn_map (id t : Nat) (es : List Event) :
    endsIn id (es.map (t, ·)) = es.filterMap (·.end? id) := by
  rw [endsIn, List.filterMap_map]
  rfl

/-- What is about a cycle is all in its diary. -/
theorem filterMap_diary {α : Type} {f : Event → Option α} (about : ∀ e, f e ≠ none → e.cycle = id)
    (w : Scheduler) : (w.diary id).filterMap (fun x ↦ f x.2) = w.told.filterMap f := by
  rw [diary, List.filterMap_filter, told, List.filterMap_map]
  refine List.filterMap_congr fun x _ ↦ ?_
  by_cases own : x.2.cycle = id
  · simp [own]
  · have none : f x.2 = none := by
      by_contra some
      exact own (about x.2 some)
    simp [own, none]

theorem startsIn_diary (w : Scheduler) (id : Nat) : startsIn id (w.diary id) = w.starts id := by
  rw [starts_eq_told]
  exact filterMap_diary Event.cycle_of_start? w

theorem endsIn_diary (w : Scheduler) (id : Nat) : endsIn id (w.diary id) = w.ends id := by
  rw [ends_eq_told]
  exact filterMap_diary Event.cycle_of_end? w

/-- What is told of the cycle is written into its diary. -/
theorem Tells.diary (h : Tells w w' es) (own : ∀ e ∈ es, e.cycle = id) :
    w'.diary id = w.diary id ++ es.map (w.now, ·) := by
  rw [Scheduler.diary, h, List.filter_append, Scheduler.diary]
  congr 1
  refine List.filter_eq_self.mpr fun x hx ↦ ?_
  obtain ⟨e, he, rfl⟩ := List.mem_map.mp hx
  simpa using own e he

/-- What is told of other cycles is not. -/
theorem Tells.diary_of_ne (h : Tells w w' es) (other : ∀ e ∈ es, e.cycle ≠ id) :
    w'.diary id = w.diary id := by
  have none : (es.map (w.now, ·)).filter (·.2.cycle = id) = [] := by
    refine List.filter_eq_nil_iff.mpr fun x hx ↦ ?_
    obtain ⟨e, he, rfl⟩ := List.mem_map.mp hx
    simpa using other e he
  rw [Scheduler.diary, h, List.filter_append, none, List.append_nil, Scheduler.diary]

end Diary

/-! ## What moves write

A cycle that nobody waits for any more has no entries of its own; those of its invocations go on. -/

/-- What a move makes of the cycle with a number, which is `c'` after it, and of its diary. -/
inductive Entry (s : SchedulerSetup) (w : Scheduler) (m : Move) (w' : Scheduler)
    (id : Nat) (c' : Cycle) : Prop where
  | rests (there : w.cycle? id = some c') (diary : w'.diary id = w.diary id)
  | isCalled (new : id = w.next) (phase : c'.phase = .arriving) (diary : w'.diary id = w.diary id)
  /-- An invocation of the cycle tells something. -/
  | tells (c : Cycle) (i : Invocation) (es : List Event) (there : w.cycle? id = some c)
    (phase : c'.phase = c.phase) (token : c'.token = c.token) (mem : i ∈ w.invocationsOf id)
    (about : ∀ e ∈ es, e.target? = some i.target ∧ e.start? id = none)
    (diary : w'.diary id = w.diary id ++ es.map (w.now, ·))
  | turns (c : Cycle) (es : List Event) (new : List Invocation) (there : w.cycle? id = some c)
    (stride : Stride s w c c' es new) (yields : Yields w c' es new w')
    (diary : w'.diary id = w.diary id ++ es.map (w.now, ·))

section Entries

variable {s : SchedulerSetup} {w w' : Scheduler} {m : Move}

/-- An invocation that leaves tells of itself only. -/
theorem ReasonToLeave.about {i : Invocation} {e : InvocationEnd} {es : List Event}
    (h : ReasonToLeave s w i e es) : ∀ x ∈ es ++ [Event.gone i.cycle i.target e],
      x.cycle = i.cycle ∧ x.target? = some i.target ∧ x.start? i.cycle = none := by
  cases h <;> simp [Event.cycle, Event.target?, Event.start?]

/-- **What a move writes into the diary of a cycle.** -/
theorem entry_of_move (numbered : Numbered w) (e : move s m w = some w') {id : Nat} {c' : Cycle}
    (hc' : w'.cycle? id = some c') : Entry s w m w' id c' := by
  by_cases own : w.owner? m = some id
  · cases effect_of_move e with
    | rests rests => rw [rests.owner?_eq] at own; cases own
    | strides there stride yields =>
      cases own
      obtain rfl := Option.some.inj ((yields.cycle?_self stride.id_eq there).symm.trans hc')
      exact .turns _ _ _ there stride yields (yields.tells.diary stride.cycle_of_told)
    | @begins i there =>
      rw [owner?_invocation there] at own
      cases own
      exact .tells c' i _ hc' rfl rfl (mem_invocationsOf.mpr ⟨List.mem_of_find?_eq_some there, rfl⟩)
        (List.forall_mem_singleton.mpr ⟨rfl, rfl⟩)
        ((tells_beginCall s w i).diary (List.forall_mem_singleton.mpr rfl))
    | @departs i end_ es w' there why departs leaves =>
      rw [owner?_invocation there] at own
      cases own
      rw [leaves.cycle?, Option.map_eq_some_iff] at hc'
      obtain ⟨c, hc, rfl⟩ := hc'
      exact .tells c i _ hc (by split <;> rfl) (by split <;> rfl)
        (mem_invocationsOf.mpr ⟨List.mem_of_find?_eq_some there, rfl⟩)
        (fun x hx ↦ (why.about x hx).2)
        (departs.tells.diary fun x hx ↦ (why.about x hx).1)
  · obtain ⟨-, same⟩ := apart_of_ne numbered e own
    obtain ⟨es, tells, owned⟩ := tells_of_move e
    have diary : w'.diary id = w.diary id := tells.diary_of_ne fun x hx mine ↦
      own (by rw [owned x hx, mine])
    rcases same c' hc' with hc | ⟨new, arriving⟩
    · exact .rests hc diary
    · exact .isCalled new arriving diary

/-- Time does not go back. -/
theorem now_le_of_move (e : move s m w = some w') : w.now ≤ w'.now := by
  rcases now_of_move e with same | ⟨ms, -, rfl⟩
  · exact Nat.le_of_eq same.symm
  · exact Nat.le_add_right _ _

/-- The diary of a cycle that was not called for is empty. -/
theorem diary_of_le {metrics : SelfMetrics} {l : List (Passage Scheduler Move)}
    (h : Trail (Scheduler.move s) (start s metrics) l w) {id : Nat} (hid : w.next ≤ id) :
    w.diary id = [] := by
  refine List.filter_eq_nil_iff.mpr fun x hx own ↦ ?_
  have lt := cycle_lt_of_told h x.2 (List.mem_map_of_mem hx)
  rw [of_decide_eq_true own] at lt
  omega

end Entries

end Scheduler

end MetricsAgent
