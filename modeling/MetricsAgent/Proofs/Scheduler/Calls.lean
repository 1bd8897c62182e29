import MetricsAgent.Proofs.Scheduler.Itinerary

/-!
# Spawned invocations and calls

An invocation that was spawned calls its collector at its first turn, unless it is aborted or called
off before.  `Scheduler.Attended` says so for all that a cycle has spawned, and
`Scheduler.attended_of_trail` that it holds after every run.

`Scheduler.origin_of_move` tells where the invocations after a move come from, and
`Scheduler.ends_of_move` where the ends of invocations come from.

* An invocation was there before, possibly without its mark or before its call, or it is spawned in
  the move.
* An end was there before, or an invocation of the cycle leaves with it in the move.

These two are how an invariant about all invocations, or about all ends, is carried through a move
without looking at the kind of the move.

The invariant counts: the collectors for which a cycle has spawned invocations are those that it has
called, those whose invocations have had no turn, and those that were passed over, all as lists and
up to their order.  So a cycle that has spawned an invocation for every collector, and passed over
none, has called every collector once.
-/

set_option autoImplicit false

namespace MetricsAgent

namespace Scheduler

/-! ## Calls

An invocation that leaves at its first turn was aborted or called off. -/

/-- The collector that a cycle calls. -/
def Event.call? (cycle : Nat) : Event → Option Target
  | started c t _ => if c = cycle then some t else none
  | _ => none

/-- The collectors that a cycle has called, in order. -/
def called (w : Scheduler) (cycle : Nat) : List Target := w.told.filterMap (·.call? cycle)

/-- Whether an invocation has had no turn so far. -/
def Invocation.isWaiting (i : Invocation) : Bool :=
  match i.phase with
  | .spawned => true
  | .collecting .. => false

/-- The collectors whose invocations have had no turn so far. -/
def waitingOf (l : List Invocation) : List Target := (l.filter (·.isWaiting)).map (·.target)

/-- The collectors of a cycle whose invocations have had no turn so far. -/
def waiting (w : Scheduler) (cycle : Nat) : List Target := waitingOf (w.invocationsOf cycle)

/-- Every collector for which the cycle has spawned an invocation was called, waits for its call, or
was passed over, because the invocation was aborted or called off. -/
def Attended (s : SchedulerSetup) (w : Scheduler) (id : Nat) : Prop :=
  ∃ passed : List Target, (w.starts id).Perm (w.called id ++ w.waiting id ++ passed) ∧
    ∀ t ∈ passed, (t, .aborted) ∈ w.ends id ∨ s.config.cancelFast = true ∧
      (t, .cancelled) ∈ w.ends id

section Calls

variable {s : SchedulerSetup} {w w' : Scheduler} {m : Move}

theorem starts_eq_told (w : Scheduler) (id : Nat) :
    w.starts id = w.told.filterMap (·.start? id) := by
  rw [starts, log_eq_told, List.filterMap_filter]
  congr 1
  funext e
  cases e <;> rfl

/-- What is told of starts, calls and ends. -/
theorem parts_of_told {es : List Event} (h : w'.told = w.told ++ es) (id : Nat) :
    w'.starts id = w.starts id ++ es.filterMap (·.start? id) ∧
      w'.called id = w.called id ++ es.filterMap (·.call? id) ∧
        w'.ends id = w.ends id ++ es.filterMap (·.end? id) := by
  rw [starts_eq_told, starts_eq_told, called, called, ends_eq_told, ends_eq_told, h]
  exact ⟨List.filterMap_append, List.filterMap_append, List.filterMap_append⟩

/-- What is told of other cycles. -/
theorem filterMap_of_ne {α : Type} {f : Event → Option α} {id : Nat}
    (about : ∀ e, f e ≠ none → e.cycle = id) {es : List Event} (other : ∀ e ∈ es, e.cycle ≠ id) :
    es.filterMap f = [] :=
  List.filterMap_eq_nil_iff.mpr fun e he ↦ by
    by_contra some
    exact other e he (about e some)

theorem Event.cycle_of_start? {id : Nat} (e : Event) (h : e.start? id ≠ none) : e.cycle = id := by
  cases e <;> simp_all [Event.start?, Event.cycle]

theorem Event.cycle_of_call? {id : Nat} (e : Event) (h : e.call? id ≠ none) : e.cycle = id := by
  cases e <;> simp_all [Event.call?, Event.cycle]

theorem Event.cycle_of_end? {id : Nat} (e : Event) (h : e.end? id ≠ none) : e.cycle = id := by
  cases e <;> simp_all [Event.end?, Event.cycle]

theorem waitingOf_append (l l' : List Invocation) :
    waitingOf (l ++ l') = waitingOf l ++ waitingOf l' := by
  rw [waitingOf, List.filter_append, List.map_append, waitingOf, waitingOf]

theorem waitingOf_perm {l l' : List Invocation} (h : l.Perm l') :
    (waitingOf l).Perm (waitingOf l') :=
  (h.filter _).map _

theorem waitingOf_of_waiting {i : Invocation} (h : i.isWaiting = true) (l : List Invocation) :
    waitingOf (i :: l) = i.target :: waitingOf l := by
  rw [waitingOf, List.filter_cons_of_pos h, List.map_cons, waitingOf]

theorem waitingOf_of_not_waiting {i : Invocation} (h : i.isWaiting = false) (l : List Invocation) :
    waitingOf (i :: l) = waitingOf l := by
  rw [waitingOf, List.filter_cons_of_neg (by rw [h]; exact Bool.false_ne_true), waitingOf]

/-- Invocations that are told to stop wait as before. -/
theorem Marks.waitingOf_map {n : Nat} {g : Invocation → Invocation} (h : Marks n g)
    (l : List Invocation) : waitingOf (l.map g) = waitingOf l := by
  have phase : (Invocation.isWaiting ∘ g) = Invocation.isWaiting := by
    funext i
    simp [Invocation.isWaiting, h.phase_eq]
  have target : (Invocation.target ∘ g) = Invocation.target := by
    funext i
    exact h.target_eq i
  rw [waitingOf, List.filter_map, List.map_map, phase, target, waitingOf]

/-- Nothing that is told is about the cycle, and its invocations stay or are told to stop. -/
theorem Attended.quiet {id : Nat} (h : Attended s w id) {es : List Event}
    (told : w'.told = w.told ++ es) (other : ∀ e ∈ es, e.cycle ≠ id) {g : Invocation → Invocation}
    {n : Nat} (marks : Marks n g) (invocations : w'.invocationsOf id = (w.invocationsOf id).map g) :
    Attended s w' id := by
  obtain ⟨starts, called, ends⟩ := parts_of_told told id
  rw [filterMap_of_ne Event.cycle_of_start? other, List.append_nil] at starts
  rw [filterMap_of_ne Event.cycle_of_call? other, List.append_nil] at called
  rw [filterMap_of_ne Event.cycle_of_end? other, List.append_nil] at ends
  have waiting : w'.waiting id = w.waiting id := by
    rw [Scheduler.waiting, invocations, marks.waitingOf_map, Scheduler.waiting]
  rw [Attended, starts, called, waiting, ends]
  exact h

/-- What an invocation tells when it leaves: its end. -/
theorem ReasonToLeave.told {i : Invocation} {e : InvocationEnd} {es : List Event}
    (h : ReasonToLeave s w i e es) :
    (es ++ [Event.gone i.cycle i.target e]).filterMap (·.start? i.cycle) = [] ∧
      (es ++ [Event.gone i.cycle i.target e]).filterMap (·.call? i.cycle) = [] ∧
        (es ++ [Event.gone i.cycle i.target e]).filterMap (·.end? i.cycle) = [(i.target, e)] := by
  cases h <;> simp [Event.start?, Event.call?, Event.end?]

/-- What a turn of a cycle tells of its invocations: only that they are spawned. -/
theorem Stride.told_new {c c' : Cycle} {es : List Event} {new : List Invocation}
    (h : Stride s w c c' es new) : es.filterMap (·.start? c.id) = new.map (·.target) ∧
      es.filterMap (·.call? c.id) = [] ∧ es.filterMap (·.end? c.id) = [] ∧
        ∀ i ∈ new, i.isWaiting = true := by
  cases h with
  | spawns => simp [Event.start?, Event.call?, Event.end?, Invocation.isWaiting]
  | closes =>
    rw [afterEvents]
    split <;> simp [Event.start?, Event.call?, Event.end?]
  | _ => simp [Event.start?, Event.call?, Event.end?]

/-- The turn of a cycle that may spawn an invocation. -/
theorem Attended.stride {c c' : Cycle} {es : List Event} {new : List Invocation}
    (h : Attended s w c.id) (stride : Stride s w c c' es new) (yields : Yields w c' es new w') :
    Attended s w' c.id := by
  obtain ⟨passed, perm, reason⟩ := h
  obtain ⟨starts, called, ends⟩ := parts_of_told yields.told c.id
  obtain ⟨new_starts, new_calls, new_ends, unturned⟩ := stride.told_new
  obtain ⟨g, marks, invocations⟩ := yields.invocationsOf_self stride.id_eq stride.cycle_of_new
  have waiting : w'.waiting c.id = w.waiting c.id ++ new.map (·.target) := by
    have all : waitingOf new = new.map (·.target) := by
      rw [waitingOf, List.filter_eq_self.mpr unturned]
    rw [Scheduler.waiting, invocations, waitingOf_append, marks.waitingOf_map, all,
      Scheduler.waiting]
  rw [new_calls, List.append_nil] at called
  rw [new_ends, List.append_nil] at ends
  rw [Attended, starts, called, waiting, ends, new_starts]
  refine ⟨passed, (perm.append_right _).trans ?_, reason⟩
  simp only [List.append_assoc]
  exact (List.perm_append_comm.append_left _).append_left _

/-- The turn of an invocation that calls its collector. -/
theorem Attended.begin {i : Invocation} (h : Attended s w i.cycle) (numbered : Numbered w)
    (hi : i ∈ w.invocations) (spawned : i.phase = .spawned) :
    Attended s (w.beginCall s i) i.cycle := by
  obtain ⟨passed, perm, reason⟩ := h
  obtain ⟨starts, called, ends⟩ := parts_of_told (tells_beginCall s w i).told i.cycle
  obtain ⟨others, before, after⟩ := beginCall_perm (s := s) numbered hi
  have first : (w.waiting i.cycle).Perm (i.target :: waitingOf others) := by
    have := waitingOf_perm before
    rw [waitingOf_of_waiting (by rw [Invocation.isWaiting, spawned])] at this
    exact this
  have others_wait : ((w.beginCall s i).waiting i.cycle).Perm (waitingOf others) := by
    have := waitingOf_perm after
    rw [waitingOf_of_not_waiting rfl] at this
    exact this
  rw [Attended, starts, called, ends]
  refine ⟨passed, ?_, by simpa [Event.end?] using reason⟩
  simp only [List.filterMap_cons, List.filterMap_nil, Event.start?, Event.call?, if_true,
    List.append_nil]
  refine (perm.trans ((first.append_left _).append_right _)).trans ?_
  rw [List.append_cons]
  exact (others_wait.symm.append_left _).append_right _

/-- An invocation leaves: if it has had no turn, it was aborted or called off. -/
theorem Attended.depart {i : Invocation} {e : InvocationEnd} {es : List Event}
    (h : Attended s w i.cycle) (numbered : Numbered w) (hi : i ∈ w.invocations)
    (why : ReasonToLeave s w i e es) (departs : Departs w i e es w') : Attended s w' i.cycle := by
  obtain ⟨passed, perm, reason⟩ := h
  obtain ⟨starts, called, ends⟩ := parts_of_told departs.told i.cycle
  obtain ⟨no_start, no_call, one_end⟩ := why.told
  have left := waitingOf_perm (numbered.perm_of_gone hi departs.invocations)
  rw [no_start, List.append_nil] at starts
  rw [no_call, List.append_nil] at called
  rw [one_end] at ends
  have kept : ∀ t ∈ passed, (t, .aborted) ∈ w'.ends i.cycle ∨
      s.config.cancelFast = true ∧ (t, .cancelled) ∈ w'.ends i.cycle := by
    intro t ht
    rw [ends]
    exact (reason t ht).imp (List.mem_append_left _) fun off ↦ ⟨off.1, List.mem_append_left _ off.2⟩
  rw [Attended, starts, called]
  cases turned : i.isWaiting with
  | false =>
    rw [waitingOf_of_not_waiting turned] at left
    exact ⟨passed, perm.trans ((left.append_left _).append_right _), kept⟩
  | true =>
    rw [waitingOf_of_waiting turned] at left
    refine ⟨i.target :: passed, ?_, fun t ht ↦ ?_⟩
    · refine (perm.trans ((left.append_left _).append_right _)).trans ?_
      simp only [List.append_assoc, List.cons_append]
      exact (List.perm_middle.symm).append_left _
    · rcases List.mem_cons.mp ht with rfl | ht
      · have last : (i.target, e) ∈ w'.ends i.cycle := by
          rw [ends]
          exact List.mem_append_right _ (List.mem_singleton_self _)
        cases why with
        | aborted => exact .inl last
        | abandoned unmarked off =>
          rw [isCalledOff, Bool.and_eq_true] at off
          exact .inr ⟨off.1, last⟩
        | gaveUp unmarked phase => rw [Invocation.isWaiting, phase] at turned; cases turned
        | returned unmarked phase => rw [Invocation.isWaiting, phase] at turned; cases turned
        | late unmarked phase => rw [Invocation.isWaiting, phase] at turned; cases turned
      · exact kept t ht

/-- **Every move leaves the invocations attended.** -/
theorem Attended.move {id : Nat} (h : Attended s w id) (numbered : Numbered w)
    (e : Scheduler.move s m w = some w') : Attended s w' id := by
  have unmarked : Marks 0 (fun i ↦ i) := fun _ ↦ .inl rfl
  obtain ⟨told, ht, owned⟩ := told_of_move e
  -- What is told on behalf of another cycle is not about this one.
  have apart {n : Nat} (own : w.owner? m = some n) (hn : id ≠ n) : ∀ x ∈ told, x.cycle ≠ id :=
    fun x hx same ↦ hn (same.symm.trans (Option.some.inj ((owned x hx).symm.trans own)))
  cases effect_of_move e with
  | rests rests =>
    obtain ⟨n, g, marks, invocations⟩ := rests.invocations
    exact h.quiet (rests.told.trans (List.append_nil _).symm) (fun _ hx ↦ nomatch hx) marks
      (invocationsOf_map marks.cycle_eq invocations id)
  | @strides c c' es new w' there stride yields =>
    by_cases own : id = c.id
    · subst own
      exact h.stride stride yields
    · refine h.quiet ht (apart rfl own) unmarked ?_
      rw [List.map_id']
      exact stride.invocationsOf_of_ne yields own
  | @begins i there spawned =>
    have mem := List.mem_of_find?_eq_some there
    by_cases own : id = i.cycle
    · subst own
      exact h.begin numbered mem spawned
    · refine h.quiet ht (apart (owner?_invocation there) own) unmarked ?_
      rw [List.map_id']
      exact (beginCall_begins s w i).invocationsOf_of_ne numbered mem own
  | @departs i end_ es w' there why departs leaves =>
    have mem := List.mem_of_find?_eq_some there
    by_cases own : id = i.cycle
    · subst own
      exact h.depart numbered mem why departs
    · refine h.quiet ht (apart (owner?_invocation there) own) unmarked ?_
      rw [List.map_id']
      exact leaves.invocationsOf_of_ne numbered mem own

theorem attended_of_trail {metrics : SelfMetrics} {l : List (Passage Scheduler Move)}
    (h : Trail (Scheduler.move s) (start s metrics) l w) (id : Nat) : Attended s w id := by
  induction h with
  | start => exact ⟨[], .nil, fun _ ht ↦ nomatch ht⟩
  | move run m e ih => exact ih.move (invariant_of_trail run).numbered e

/-- A cycle calls only collectors for which it has spawned invocations. -/
theorem Attended.called_subset {id : Nat} (h : Attended s w id) :
    ∀ t ∈ w.called id, t ∈ w.starts id := by
  intro t ht
  obtain ⟨passed, perm, -⟩ := h
  exact perm.mem_iff.mpr (List.mem_append_left _ (List.mem_append_left _ ht))

end Calls

/-! ## Where invocations and ends come from

An invocation may be told to stop in a move, which is seen by its mark only. -/

/-- Where an invocation comes from that is there after a move. -/
inductive Origin (s : SchedulerSetup) (w : Scheduler) (i : Invocation) : Prop where
  /-- It was there, and may have been told to stop. -/
  | kept (j : Invocation) (there : j ∈ w.invocations)
    (same : i = j ∨ i = { j with aborting := true })
  | begun (j : Invocation) (there : j ∈ w.invocations) (spawned : j.phase = .spawned)
    (same : i = w.begun s j)
  | new (c c' : Cycle) (es : List Event) (new : List Invocation) (there : w.cycle? c.id = some c)
    (stride : Stride s w c c' es new) (mem : i ∈ new)

section Origin

variable {s : SchedulerSetup} {w w' : Scheduler} {m : Move}

theorem Marks.origin {n : Nat} {g : Invocation → Invocation} (h : Marks n g) {i : Invocation}
    (hi : i ∈ w.invocations.map g) : Origin s w i := by
  obtain ⟨j, hj, rfl⟩ := List.mem_map.mp hi
  exact .kept j hj ((h j).imp_right And.right)

/-- **Where the invocations come from** that are there after a move. -/
theorem origin_of_move (e : move s m w = some w') : ∀ i ∈ w'.invocations, Origin s w i := by
  intro i hi
  cases effect_of_move e with
  | rests rests =>
    obtain ⟨n, g, marks, invocations⟩ := rests.invocations
    exact marks.origin (invocations ▸ hi)
  | strides there stride yields =>
    obtain ⟨g, marks, invocations⟩ := yields.invocations
    rw [invocations] at hi
    rcases List.mem_append.mp hi with old | mem
    · exact marks.origin old
    · exact .new _ _ _ _ there stride mem
  | begins there spawned =>
    obtain ⟨k, hk, rfl⟩ := List.mem_map.mp hi
    split
    · exact .begun _ (List.mem_of_find?_eq_some there) spawned rfl
    · exact .kept k hk (.inl rfl)
  | departs there why departs =>
    rw [departs.invocations] at hi
    exact .kept i (List.mem_filter.mp hi).1 (.inl rfl)

/-- **Where the ends come from** that are there after a move: from an invocation of the cycle that
leaves. -/
theorem ends_of_move (numbered : Numbered w) (e : move s m w = some w') (id : Nat) :
    ∃ more, w'.ends id = w.ends id ++ more ∧
      ∀ a ∈ more, ∃ i ∈ w.invocationsOf id, a.1 = i.target ∧ ∃ es, ReasonToLeave s w i a.2 es := by
  have nothing (same : w'.ends id = w.ends id) : ∃ more, w'.ends id = w.ends id ++ more ∧
      ∀ a ∈ more, ∃ i ∈ w.invocationsOf id, a.1 = i.target ∧ ∃ es, ReasonToLeave s w i a.2 es :=
    ⟨[], same.trans (List.append_nil _).symm, fun _ ha ↦ nomatch ha⟩
  by_cases own : w.owner? m = some id
  · cases effect_of_move e with
    | rests rests => rw [rests.owner?_eq] at own; cases own
    | strides there stride yields => exact nothing ((stride.frame yields).ends id)
    | begins => exact nothing ((beginCall_begins s w _).ends id)
    | @departs i end_ es w' there why departs leaves =>
      rw [owner?_invocation there] at own
      cases own
      refine ⟨[(i.target, end_)], (leaves.ends _).trans (by rw [if_pos rfl]), fun a ha ↦ ?_⟩
      rw [List.mem_singleton.mp ha]
      exact ⟨i, mem_invocationsOf.mpr ⟨List.mem_of_find?_eq_some there, rfl⟩, rfl, es, why⟩
  · exact nothing (apart_of_ne numbered e own).1

end Origin

end Scheduler

end MetricsAgent
