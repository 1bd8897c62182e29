import MetricsAgent.Proofs.Scheduler.CycleInvariant

/-!
# The invariant of schedulers

Numbers are given out once, so a turn of a cycle or of one of its invocations changes nothing for
another cycle.  `Scheduler.Invariant` says that numbers are in order and that every cycle satisfies
`Scheduler.CycleInvariant`; every move keeps it (`Invariant.move`).

It has three parts.

* `Scheduler.Numbered`: no two invocations share a number, and a number that was not given out
  stands for nothing.
* `Scheduler.Genuine`: a call under way is a call of its collector, and what was collected is what
  such a call gave.
* `Scheduler.CycleInvariant` for each cycle, with the invocations and the ends that belong to it.

The third one is proved cycle by cycle in `Proofs.Scheduler.CycleInvariant`.  What is added here is
that the things which belong to other cycles stay what they were, for each kind of move:
`Advance.invocationsOf_of_ne`, `Leaves.invocationsOf_of_ne` and the like.
-/

set_option autoImplicit false

namespace MetricsAgent

namespace Scheduler

/-! ## Numbers

Cycles and invocations have their numbers from one counter, and a cycle keeps its number when it is
over. -/

/-- Numbers are given out once. -/
structure Numbered (w : Scheduler) : Prop where
  distinct : (w.invocations.map (·.id)).Nodup
  invocations : ∀ i ∈ w.invocations, i.id < w.next
  /-- A number that was not given out stands for nothing. -/
  fresh : ∀ id, w.next ≤ id → w.cycle? id = none ∧ w.invocationsOf id = [] ∧ w.ends id = []

theorem Numbered.lt_of_cycle? {w : Scheduler} (h : Numbered w) {id : Nat} {c : Cycle}
    (hc : w.cycle? id = some c) : id < w.next := by
  refine Nat.lt_of_not_le fun hle ↦ ?_
  rw [(h.fresh id hle).1] at hc
  cases hc

theorem mem_invocationsOf {w : Scheduler} {i : Invocation} {id : Nat} :
    i ∈ w.invocationsOf id ↔ i ∈ w.invocations ∧ i.cycle = id := by
  rw [invocationsOf, List.mem_filter, decide_eq_true_eq]

theorem Numbered.lt_of_mem {w : Scheduler} (h : Numbered w) {i : Invocation}
    (hi : i ∈ w.invocations) : i.cycle < w.next := by
  refine Nat.lt_of_not_le fun hle ↦ ?_
  have mem : i ∈ w.invocationsOf i.cycle := mem_invocationsOf.mpr ⟨hi, rfl⟩
  rw [(h.fresh _ hle).2.1] at mem
  cases mem

/-- Where batches come from: the calls under way are calls of their collectors, and what was
collected is what such a call gave. -/
structure Genuine (w : Scheduler) : Prop where
  calls : ∀ i ∈ w.invocations, ∀ b started wake limit, i.phase = .collecting b started wake limit →
    ∃ n, b = i.target.collector.behaviour n
  ends : ∀ id, ∀ a ∈ w.ends id, ∀ batch, a.2 = .collected batch →
    ∃ n, (a.1.collector.behaviour n).result = .batch batch

/-- What holds of every reachable scheduler. -/
structure Invariant (s : SchedulerSetup) (w : Scheduler) : Prop where
  numbered : Numbered w
  genuine : Genuine w
  cycles : ∀ id c, w.cycle? id = some c →
    CycleInvariant s c (w.invocationsOf id) (w.ends id) (w.isFired c.token)

/-! ## What moves do to the things with a number

Invocations change in place: they are told to stop, or their calls begin.  Their numbers, cycles and
collectors stay. -/

/-- Some invocations of a cycle are told to stop. -/
def Marks (id : Nat) (g : Invocation → Invocation) : Prop :=
  ∀ i, g i = i ∨ i.cycle = id ∧ g i = { i with aborting := true }

theorem marks_abortAll (id : Nat) :
    Marks id fun i ↦ if i.cycle = id then { i with aborting := true } else i := by
  intro i
  dsimp only
  split
  · exact .inr ⟨‹_›, rfl⟩
  · exact .inl rfl

section Marks

variable {id : Nat} {g : Invocation → Invocation} {w w' : Scheduler}

theorem Marks.id_eq (h : Marks id g) (i : Invocation) : (g i).id = i.id := by
  rcases h i with e | ⟨-, e⟩ <;> rw [e]

theorem Marks.cycle_eq (h : Marks id g) (i : Invocation) : (g i).cycle = i.cycle := by
  rcases h i with e | ⟨-, e⟩ <;> rw [e]

theorem Marks.target_eq (h : Marks id g) (i : Invocation) : (g i).target = i.target := by
  rcases h i with e | ⟨-, e⟩ <;> rw [e]

theorem Marks.phase_eq (h : Marks id g) (i : Invocation) : (g i).phase = i.phase := by
  rcases h i with e | ⟨-, e⟩ <;> rw [e]

/-- Other cycles keep their invocations as they are. -/
theorem Marks.invocationsOf_of_ne (h : Marks id g)
    (e : w'.invocations = w.invocations.map g) {j : Nat} (hj : j ≠ id) :
    w'.invocationsOf j = w.invocationsOf j := by
  rw [invocationsOf_map h.cycle_eq e]
  refine (List.map_congr_left fun i hi ↦ ?_).trans (List.map_id _)
  rcases h i with same | ⟨hid, -⟩
  · exact same
  · exact absurd ((mem_invocationsOf.mp hi).2.symm.trans hid) hj

end Marks

/-- Numbers stay in order if the invocations stay what they are but for their phases and marks. -/
theorem Numbered.of_map {w w' : Scheduler} {g : Invocation → Invocation} (h : Numbered w)
    (id : ∀ i, (g i).id = i.id) (cycle : ∀ i, (g i).cycle = i.cycle)
    (invocations : w'.invocations = w.invocations.map g) (next : w'.next = w.next)
    (cycles : ∀ id, w.cycle? id = none → w'.cycle? id = none)
    (ends : ∀ id, w'.ends id = w.ends id) : Numbered w' where
  distinct := by
    have same : w'.invocations.map (·.id) = w.invocations.map (·.id) := by
      rw [invocations, List.map_map]
      exact List.map_congr_left fun i _ ↦ id i
    rw [same]
    exact h.distinct
  invocations i hi := by
    rw [invocations] at hi
    obtain ⟨j, hj, rfl⟩ := List.mem_map.mp hi
    rw [id, next]
    exact h.invocations j hj
  fresh n hn := by
    obtain ⟨hc, hi, he⟩ := h.fresh n (next ▸ hn)
    refine ⟨cycles n hc, ?_, (ends n).trans he⟩
    rw [invocationsOf_map cycle invocations, hi]
    rfl

theorem Genuine.of_map {w w' : Scheduler} {g : Invocation → Invocation} (h : Genuine w)
    (target : ∀ i, (g i).target = i.target) (phase : ∀ i, (g i).phase = i.phase)
    (invocations : w'.invocations = w.invocations.map g) (ends : ∀ id, w'.ends id = w.ends id) :
    Genuine w' where
  calls i hi b started wake limit hp := by
    rw [invocations] at hi
    obtain ⟨j, hj, rfl⟩ := List.mem_map.mp hi
    rw [target]
    exact h.calls j hj b started wake limit ((phase j).symm.trans hp)
  ends id a ha := h.ends id a (ends id ▸ ha)

/-! ## Calls, tokens, time and dropped cycles

A cycle that nobody waits for any more is taken away, and its invocations are told to stop.  Nothing
is claimed of such a cycle. -/

section Moves

variable {s : SchedulerSetup} {w w' : Scheduler}

theorem invariant_start (s : SchedulerSetup) (metrics : SelfMetrics) :
    Invariant s (start s metrics) where
  numbered := ⟨.nil, fun _ h ↦ (nomatch h), fun _ _ ↦ ⟨rfl, rfl, rfl⟩⟩
  genuine := ⟨fun _ h ↦ (nomatch h), fun _ _ h ↦ (nomatch h)⟩
  cycles _ _ h := nomatch h

/-- A cycle that is called for has the next number. -/
theorem Numbered.cycle?_call (h : Numbered w) (token id : Nat) :
    (w.call token).cycle? id =
      if id = w.next then some ⟨w.next, token, .arriving, .new, []⟩ else w.cycle? id := by
  have appended : (w.call token).cycle? id = (w.cycle? id).or
      (if w.next = id then some ⟨w.next, token, .arriving, .new, []⟩ else none) := by
    rw [cycle?, call, List.find?_append, cycle?, List.find?_singleton]
    simp
  rw [appended]
  by_cases e : id = w.next
  · subst e
    rw [(h.fresh _ (Nat.le_refl _)).1, if_pos rfl]
    rfl
  · rw [if_neg e, if_neg (Ne.symm e), Option.or_none]

theorem Invariant.call (h : Invariant s w) (token : Nat) : Invariant s (w.call token) where
  numbered :=
    { distinct := h.numbered.distinct
      invocations := fun i hi ↦ Nat.lt_succ_of_lt (h.numbered.invocations i hi)
      fresh := fun id hid ↦ by
        have hid : w.next < id := hid
        obtain ⟨hc, hrest⟩ := h.numbered.fresh id (Nat.le_of_lt hid)
        rw [h.numbered.cycle?_call, if_neg (by omega)]
        exact ⟨hc, hrest⟩ }
  genuine := ⟨h.genuine.calls, h.genuine.ends⟩
  cycles id c hc := by
    rw [h.numbered.cycle?_call] at hc
    split at hc
    · rename_i new
      subst new
      cases hc
      obtain ⟨-, hi, he⟩ := h.numbered.fresh _ (Nat.le_refl w.next)
      change CycleInvariant s _ (w.invocationsOf w.next) (w.ends w.next) _
      rw [hi, he]
      exact cycleInvariant_arriving s _ token _
    · exact h.cycles id c hc

theorem Invariant.cancel (h : Invariant s w) (token : Nat) : Invariant s (w.cancel token) where
  numbered := ⟨h.numbered.distinct, h.numbered.invocations, h.numbered.fresh⟩
  genuine := ⟨h.genuine.calls, h.genuine.ends⟩
  cycles id c hc := (h.cycles id c hc).of_fired fun hf ↦ by
    rw [isFired, List.contains_iff_mem] at hf ⊢
    exact List.mem_cons_of_mem _ hf

theorem Invariant.elapse (h : Invariant s w) (ms : Nat) : Invariant s (w.elapse ms) where
  numbered := ⟨h.numbered.distinct, h.numbered.invocations, h.numbered.fresh⟩
  genuine := ⟨h.genuine.calls, h.genuine.ends⟩
  cycles := h.cycles

/-- What becomes of a scheduler when nobody waits for a cycle any more. -/
structure Drops (w : Scheduler) (id : Nat) (w' : Scheduler) : Prop where
  invocations : ∃ g, Marks id g ∧ w'.invocations = w.invocations.map g
  cycles : w'.cycles = w.cycles.filter (·.id ≠ id)
  next : w'.next = w.next
  fired : w'.fired = w.fired
  ends : ∀ j, w'.ends j = w.ends j
  metrics : w'.metrics = w.metrics

theorem drop_drops (w : Scheduler) (id : Nat) : Drops w id (w.drop id) := by
  have none_marked : ∃ g, Marks id g ∧ w.invocations = w.invocations.map g :=
    ⟨fun i ↦ i, fun _ ↦ .inl rfl, (List.map_id' _).symm⟩
  have all_marked : ∃ g, Marks id g ∧ (w.abortAll id).invocations = w.invocations.map g :=
    ⟨_, marks_abortAll id, rfl⟩
  rw [drop]
  split
  · rename_i absent
    refine ⟨none_marked, (List.filter_eq_self.mpr fun c hc ↦ ?_).symm, rfl, rfl, fun _ ↦ rfl, rfl⟩
    simpa using List.find?_eq_none.mp absent c hc
  · dsimp only
    split
    · exact ⟨none_marked, rfl, rfl, rfl, fun _ ↦ rfl, rfl⟩
    · exact ⟨none_marked, rfl, rfl, rfl, fun _ ↦ rfl, rfl⟩
    · exact ⟨none_marked, rfl, rfl, rfl, fun _ ↦ rfl, rfl⟩
    · exact ⟨all_marked, rfl, rfl, rfl, fun _ ↦ rfl, rfl⟩

theorem Drops.cycle? {id : Nat} (h : Drops w id w') (j : Nat) :
    w'.cycle? j = if j = id then none else w.cycle? j := by
  rw [Scheduler.cycle?, h.cycles]
  exact Keyed.find?_filter_ne w.cycles j id

theorem Invariant.drops {id : Nat} (h : Invariant s w) (e : Drops w id w') : Invariant s w' := by
  obtain ⟨g, marks, invocations⟩ := e.invocations
  refine ⟨h.numbered.of_map marks.id_eq marks.cycle_eq invocations e.next (fun j hj ↦ ?_) e.ends,
    h.genuine.of_map marks.target_eq marks.phase_eq invocations e.ends, fun j c hc ↦ ?_⟩
  · rw [e.cycle?, hj, ite_self]
  · rw [e.cycle?] at hc
    split at hc
    · cases hc
    · rename_i hj
      rw [marks.invocationsOf_of_ne invocations hj, e.ends, isFired, e.fired]
      exact h.cycles j c hc

/-! ## Turns of cycles

The kinds of turns are those of `Scheduler.Advance`. -/

theorem Advance.id_eq {c c' : Cycle} (e : Advance s w c w' c') : c'.id = c.id := by
  cases e <;> rfl

theorem Advance.token_eq {c c' : Cycle} (e : Advance s w c w' c') : c'.token = c.token := by
  cases e <;> rfl

/-- A turn of a cycle tells some of its invocations to stop, or none, or it starts one. -/
theorem Advance.invocations {c c' : Cycle} (e : Advance s w c w' c') :
    (∃ g, Marks c.id g ∧ w'.invocations = w.invocations.map g ∧ w'.next = w.next) ∨
      ∃ i : Invocation, i.id = w.next ∧ i.cycle = c.id ∧ i.phase = .spawned ∧
        w'.invocations = w.invocations ++ [i] ∧ w'.next = w.next + 1 := by
  have none_marked (same : w'.invocations = w.invocations) (next : w'.next = w.next) :
      ∃ g, Marks c.id g ∧ w'.invocations = w.invocations.map g ∧ w'.next = w.next :=
    ⟨fun i ↦ i, fun _ ↦ .inl rfl, same.trans (List.map_id' _).symm, next⟩
  cases e with
  | passes _ _ _ _ _ invocations next => exact .inl (none_marked invocations next)
  | skips _ _ _ _ _ _ _ _ _ invocations next => exact .inl (none_marked invocations next)
  | spawns φ t later pooled _ _ _ _ _ invocations next =>
    exact .inr ⟨_, rfl, rfl, rfl, invocations, next⟩
  | enters _ _ _ _ _ _ _ _ _ _ invocations next => exact .inl (none_marked invocations next)
  | fails _ _ _ _ _ _ _ invocations next =>
    rcases invocations with same | told
    · exact .inl (none_marked same next)
    · exact .inl ⟨_, marks_abortAll c.id, told, next⟩
  | endsEarly _ _ _ _ invocations next => exact .inl (none_marked invocations next)
  | endsCancelled _ invocations next => exact .inl (none_marked invocations next)
  | endsCompleted _ _ invocations next => exact .inl (none_marked invocations next)
  | errs _ _ invocations next => exact .inl (none_marked invocations next)

/-- Other cycles keep their invocations as they are. -/
theorem Advance.invocationsOf_of_ne {c c' : Cycle} (e : Advance s w c w' c') {j : Nat}
    (hj : j ≠ c.id) : w'.invocationsOf j = w.invocationsOf j := by
  rcases e.invocations with ⟨g, marks, invocations, -⟩ | ⟨i, -, cycle, -, invocations, -⟩
  · exact marks.invocationsOf_of_ne invocations hj
  · rw [invocationsOf_of_append invocations, if_neg (cycle ▸ hj.symm), List.append_nil]

theorem Frame.cycle?_self {c c' : Cycle} (h : Frame w c' w') (hc : w.cycle? c'.id = some c) :
    w'.cycle? c'.id = some c' := by
  rw [Scheduler.cycle?, h.cycles]
  exact Keyed.find?_replace hc

theorem Frame.cycle?_of_ne {c' : Cycle} (h : Frame w c' w') {j : Nat} (hj : j ≠ c'.id) :
    w'.cycle? j = w.cycle? j := by
  rw [Scheduler.cycle?, h.cycles]
  exact Keyed.find?_replace_of_ne hj.symm

/-- The number after a new invocation. -/
theorem Numbered.spawn {i : Invocation} (h : Numbered w) (id : i.id = w.next)
    (cycle : i.cycle < w.next) (invocations : w'.invocations = w.invocations ++ [i])
    (next : w'.next = w.next + 1) (cycles : ∀ id, w.cycle? id = none → w'.cycle? id = none)
    (ends : ∀ id, w'.ends id = w.ends id) : Numbered w' where
  distinct := by
    rw [invocations, List.map_append, List.map_singleton, id]
    refine List.nodup_append.mpr ⟨h.distinct, by simp, fun n hn m hm ↦ ?_⟩
    obtain ⟨j, hj, rfl⟩ := List.mem_map.mp hn
    rw [List.mem_singleton.mp hm]
    exact Nat.ne_of_lt (h.invocations j hj)
  invocations j hj := by
    rw [next]
    rw [invocations] at hj
    rcases List.mem_append.mp hj with hj | hj
    · exact Nat.lt_succ_of_lt (h.invocations j hj)
    · rw [List.mem_singleton.mp hj, id]
      exact Nat.lt_succ_self _
  fresh n hn := by
    rw [next] at hn
    obtain ⟨hc, hi, he⟩ := h.fresh n (by omega)
    refine ⟨cycles n hc, ?_, (ends n).trans he⟩
    rw [invocationsOf_of_append invocations, if_neg (by omega), List.append_nil]
    exact hi

theorem Genuine.spawn {i : Invocation} (h : Genuine w) (phase : i.phase = .spawned)
    (invocations : w'.invocations = w.invocations ++ [i]) (ends : ∀ id, w'.ends id = w.ends id) :
    Genuine w' where
  calls j hj b started wake limit hp := by
    rw [invocations] at hj
    rcases List.mem_append.mp hj with hj | hj
    · exact h.calls j hj b started wake limit hp
    · rw [List.mem_singleton.mp hj, phase] at hp
      cases hp
  ends id a ha := h.ends id a (ends id ▸ ha)

theorem Invariant.advance {c c' : Cycle} (h : Invariant s w) (hc : w.cycle? c.id = some c)
    (e : Advance s w c w' c') (frame : Frame w c' w') : Invariant s w' := by
  have cycles : ∀ id, w.cycle? id = none → w'.cycle? id = none := by
    intro id hid
    rw [frame.cycle?_of_ne ?_, hid]
    rintro rfl
    rw [e.id_eq, hc] at hid
    cases hid
  have numbered_genuine : Numbered w' ∧ Genuine w' := by
    rcases e.invocations with ⟨g, marks, invocations, next⟩ | ⟨i, id, cycle, phase,
      invocations, next⟩
    · exact ⟨h.numbered.of_map marks.id_eq marks.cycle_eq invocations next cycles frame.ends,
        h.genuine.of_map marks.target_eq marks.phase_eq invocations frame.ends⟩
    · exact ⟨h.numbered.spawn id
        (cycle ▸ h.numbered.lt_of_cycle? hc) invocations next cycles frame.ends,
        h.genuine.spawn phase invocations frame.ends⟩
  refine ⟨numbered_genuine.1, numbered_genuine.2, fun j d hd ↦ ?_⟩
  rw [frame.ends, isFired, frame.fired]
  by_cases hj : j = c.id
  · subst hj
    have self : w'.cycle? c.id = some c' := by
      rw [← e.id_eq]
      exact frame.cycle?_self (by rw [e.id_eq]; exact hc)
    obtain rfl : c' = d := Option.some.inj (self.symm.trans hd)
    rw [e.token_eq]
    exact (h.cycles c.id c hc).advance e
  · rw [frame.cycle?_of_ne (by rw [e.id_eq]; exact hj)] at hd
    rw [e.invocationsOf_of_ne hj]
    exact h.cycles j d hd

/-! ## Turns of invocations

An invocation that leaves hands its end to its cycle, if that is still there. -/

/-- Calls of collectors may begin: the invocation is replaced in place. -/
theorem Begins.exists_map {i : Invocation} (h : Numbered w) (hi : i ∈ w.invocations)
    (e : Begins w i w') : ∃ phase, w'.invocations = w.invocations.map (fun j ↦
        if j.id = i.id then { j with phase := phase } else j) ∧
      ∀ b started wake limit, phase = .collecting b started wake limit →
        ∃ n, b = i.target.collector.behaviour n := by
  obtain ⟨phase, invocations, call⟩ := e.invocations
  refine ⟨phase, invocations.trans ?_, call⟩
  exact Keyed.map_replace h.distinct hi fun j ↦ { j with phase := phase }

theorem Invariant.begin {i : Invocation} (h : Invariant s w) (hi : i ∈ w.invocations)
    (e : Begins w i w') : Invariant s w' := by
  obtain ⟨phase, invocations, call⟩ := e.exists_map h.numbered hi
  have cycle?_eq (id : Nat) : w'.cycle? id = w.cycle? id := by
    rw [cycle?, e.cycles, cycle?]
  refine ⟨h.numbered.of_map (fun j ↦ by split <;> rfl) (fun j ↦ by split <;> rfl) invocations e.next
    (fun id hid ↦ (cycle?_eq id).trans hid) e.ends, ⟨?_, fun id a ha ↦ h.genuine.ends id a
    (e.ends id ▸ ha)⟩, fun id c hc ↦ ?_⟩
  · intro j hj b started wake limit hp
    rw [invocations] at hj
    obtain ⟨k, hk, rfl⟩ := List.mem_map.mp hj
    by_cases same : k.id = i.id
    · rw [if_pos same] at hp ⊢
      obtain rfl := List.inj_on_of_nodup_map h.numbered.distinct hk hi same
      exact call b started wake limit hp
    · rw [if_neg same] at hp ⊢
      exact h.genuine.calls k hk b started wake limit hp
  · rw [cycle?_eq] at hc
    rw [invocationsOf_map (fun j ↦ by split <;> rfl) invocations, e.ends, isFired, e.fired]
    exact (h.cycles id c hc).of_map (fun j ↦ by split <;> rfl) (fun j ↦ by split <;> rfl)
      (fun j ↦ by split <;> rfl)

/-- An invocation that is gone was one of those of its cycle. -/
theorem Numbered.perm_of_gone {i : Invocation} (h : Numbered w) (hi : i ∈ w.invocations)
    (e : w'.invocations = w.invocations.filter (·.id ≠ i.id)) :
    (w.invocationsOf i.cycle).Perm (i :: w'.invocationsOf i.cycle) := by
  have parted := (Keyed.perm_cons_filter h.distinct hi).filter (·.cycle = i.cycle)
  rw [List.filter_cons_of_pos (by simp), ← e] at parted
  exact parted

/-- Other cycles keep their invocations when one is gone. -/
theorem Numbered.invocationsOf_of_gone {i : Invocation} (h : Numbered w) (hi : i ∈ w.invocations)
    (e : w'.invocations = w.invocations.filter (·.id ≠ i.id)) {id : Nat} (hid : id ≠ i.cycle) :
    w'.invocationsOf id = w.invocationsOf id := by
  rw [invocationsOf, e, List.filter_filter, invocationsOf]
  refine List.filter_congr fun j hj ↦ ?_
  by_cases same : j.id = i.id
  · obtain rfl := List.inj_on_of_nodup_map h.distinct hj hi same
    simp [hid.symm]
  · simp [same]

section Leaves

variable {i : Invocation} {end_ : InvocationEnd}

theorem Leaves.cycle? (e : Leaves w i end_ w') (id : Nat) :
    w'.cycle? id = (w.cycle? id).map fun c ↦
      if c.id = i.cycle then { c with arrived := c.arrived ++ [(i.target, end_)] } else c := by
  rw [Scheduler.cycle?, e.cycles]
  exact Keyed.find?_map (fun c ↦ by split <;> rfl) _ _

/-- The invocation was one of those of its cycle. -/
theorem Leaves.perm (e : Leaves w i end_ w') (h : Numbered w) (hi : i ∈ w.invocations) :
    (w.invocationsOf i.cycle).Perm (i :: w'.invocationsOf i.cycle) :=
  h.perm_of_gone hi e.invocations

/-- Other cycles keep their invocations as they are. -/
theorem Leaves.invocationsOf_of_ne (e : Leaves w i end_ w') (h : Numbered w)
    (hi : i ∈ w.invocations) {id : Nat} (hid : id ≠ i.cycle) :
    w'.invocationsOf id = w.invocationsOf id :=
  h.invocationsOf_of_gone hi e.invocations hid

theorem Numbered.leave (h : Numbered w) (hi : i ∈ w.invocations) (e : Leaves w i end_ w') :
    Numbered w' where
  distinct := by
    rw [e.invocations]
    exact h.distinct.sublist (List.filter_sublist.map _)
  invocations j hj := by
    rw [e.invocations] at hj
    rw [e.next]
    exact h.invocations j (List.mem_filter.mp hj).1
  fresh n hn := by
    rw [e.next] at hn
    have differs : n ≠ i.cycle := Nat.ne_of_gt (Nat.lt_of_lt_of_le (h.lt_of_mem hi) hn)
    obtain ⟨hc, hr, he⟩ := h.fresh n hn
    refine ⟨by rw [e.cycle?, hc]; rfl, (e.invocationsOf_of_ne h hi differs).trans hr, ?_⟩
    rw [e.ends, he, if_neg differs.symm]
    rfl

theorem Genuine.leave (h : Genuine w) (hi : i ∈ w.invocations) (e : Leaves w i end_ w') :
    Genuine w' where
  calls j hj := by
    rw [e.invocations] at hj
    exact h.calls j (List.mem_filter.mp hj).1
  ends id a ha batch hb := by
    rw [e.ends] at ha
    rcases List.mem_append.mp ha with ha | ha
    · exact h.ends id a ha batch hb
    · split at ha
      · obtain rfl := List.mem_singleton.mp ha
        obtain ⟨b, started, wake, limit, phase, gave⟩ := e.collected batch hb
        obtain ⟨n, rfl⟩ := h.calls i hi b started wake limit phase
        exact ⟨n, gave⟩
      · cases ha

theorem Invariant.leave (h : Invariant s w) (hi : i ∈ w.invocations) (e : Leaves w i end_ w') :
    Invariant s w' := by
  refine ⟨h.numbered.leave hi e, h.genuine.leave hi e, fun id d hd ↦ ?_⟩
  rw [e.cycle?, Option.map_eq_some_iff] at hd
  obtain ⟨c, hc, rfl⟩ := hd
  have hid : c.id = id := Keyed.key_of_find? hc
  rw [e.ends]
  by_cases own : id = i.cycle
  · subst own
    rw [if_pos hid, if_pos rfl]
    have cycles := h.cycles _ c hc
    have token : i.token = c.token := cycles.tokens i (mem_invocationsOf.mpr ⟨hi, rfl⟩)
    exact cycles.leave (e.perm h.numbered hi) e.aborted (e.fired _) fun hcancelled ↦
      token ▸ e.cancelled hcancelled
  · rw [if_neg (hid ▸ own), if_neg (Ne.symm own), List.append_nil,
      e.invocationsOf_of_ne h.numbered hi own]
    exact (h.cycles id c hc).of_fired (e.fired _)

end Leaves

/-- The cycle that has its turn. -/
theorem step_cycle {id : Nat} (e : w.step s (.cycle id) = some w') :
    ∃ c c', w.cycle? id = some c ∧ c.id = id ∧ w.stepCycle s c = some w' ∧ Advance s w c w' c' ∧
      Frame w c' w' := by
  obtain ⟨c, hc, hstep⟩ := Option.bind_eq_some_iff.mp e
  obtain ⟨c', advance, frame⟩ := stepCycle_advances hstep
  exact ⟨c, c', hc, Keyed.key_of_find? hc, hstep, advance, frame⟩

/-- **Every move keeps the invariant of schedulers.** -/
theorem Invariant.move (m : Move) (h : Invariant s w) (e : Scheduler.move s m w = some w') :
    Invariant s w' := by
  cases m with
  | call token => cases e; exact h.call token
  | cancel token => cases e; exact h.cancel token
  | elapse ms => cases e; exact h.elapse ms
  | drop id => cases e; exact h.drops (drop_drops w id)
  | turn t =>
    cases t with
    | cycle id =>
      obtain ⟨c, c', hc, rfl, -, advance, frame⟩ := step_cycle e
      exact h.advance hc advance frame
    | invocation id =>
      obtain ⟨i, hi, hstep⟩ := Option.bind_eq_some_iff.mp e
      have mem := List.mem_of_find?_eq_some hi
      rcases stepInvocation_cases hstep with begins | ⟨end_, leaves⟩
      · exact h.begin mem begins
      · exact h.leave mem leaves

end Moves

end Scheduler

end MetricsAgent
