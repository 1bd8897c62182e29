import MetricsAgent.Proofs.Scheduler.Shift

/-!
# Cycles exclude each other

However many cycles are called for at once, and whatever becomes of them, their invocations never
mix.  `Scheduler.Guarded` is the invariant of the gate and the pool; `Scheduler.Recorded` ties the
log of invocations to the invocations that are there.  Together they give
`Scheduler.cycles_exclude_each_other`:

* all invocations belong to one cycle,
* no invocation begins before those of other cycles are gone,
* there are never more of them than permits,
* everything is given back in the end.

The second one is about the past, and is therefore said of the log: whenever a cycle begins
something, all that other cycles have spawned is gone, and a cycle that had its turn before begins
nothing any more (`Scheduler.InTurn`).

A cycle that is dropped leaves the gate, but its invocations keep their shares until they are gone.
So the next cycle is let through when the last of them is, and not when the cycle is dropped.

Both invariants are carried through a move by looking at its `Scheduler.Shift`, and each has one
lemma for each kind of shift.
-/

set_option autoImplicit false

namespace MetricsAgent

namespace Scheduler

/-! ## The gate and the pool

In parallel mode a permit is free or an invocation has it, so the number of free permits tells how
many invocations there are. -/

/-- What holds of the gate and the pool. -/
structure Guarded (s : SchedulerSetup) (w : Scheduler) : Prop where
  gate : w.gate.Keeps w.standOf (fun id ↦ (w.invocationsOf id).length) 0
  /-- A permit is free, or an invocation has it. -/
  pool : w.permits + (if s.config.parallel then w.invocations.length else 0) = s.config.permits
  single : s.config.parallel = false → w.invocations.length ≤ 1
  pooled : ∀ i ∈ w.invocations, i.pooled = s.config.parallel

section Guarded

variable {s : SchedulerSetup} {w w' : Scheduler}

theorem guarded_start (s : SchedulerSetup) (metrics : SelfMetrics) :
    Guarded s (start s metrics) where
  gate := Gate.keeps_new
  pool := by cases mode : s.config.parallel <;> rfl
  single _ := Nat.zero_le _
  pooled _ h := nomatch h

/-- An invocation belongs to the cycle that is let through. -/
theorem Guarded.holder (h : Guarded s w) {i : Invocation} (hi : i ∈ w.invocations) :
    w.gate.holder = some i.cycle := by
  refine h.gate.crew i.cycle fun none ↦ ?_
  have mem : i ∈ w.invocationsOf i.cycle := mem_invocationsOf.mpr ⟨hi, rfl⟩
  rw [List.length_eq_zero_iff.mp none] at mem
  cases mem

/-- The gate is not open to a number that was not given out. -/
theorem Guarded.holder_ne_next (h : Guarded s w) (numbered : Numbered w) :
    w.gate.holder ≠ some w.next := by
  intro hc
  obtain ⟨cycle, invocations, -⟩ := numbered.fresh w.next (Nat.le_refl _)
  have shares := h.gate.shares w.next hc
  have pos := h.gate.pos w.next hc
  simp only [standOf, cycle, invocations, Option.map_none, Option.getD_none, Stand.share,
    List.length_nil] at shares
  omega

/-- The cycle that is let through has all the invocations there are. -/
theorem Guarded.invocations_eq (h : Guarded s w) {id : Nat} (hc : w.gate.holder = some id) :
    w.invocationsOf id = w.invocations := by
  refine List.filter_eq_self.mpr fun i hi ↦ ?_
  have := h.holder hi
  rw [hc, Option.some_inj] at this
  simpa using this.symm

/-- The invocations go on, whatever becomes of them otherwise, with the permits that they have. -/
theorem Guarded.of_map (h : Guarded s w) {f : Invocation → Invocation}
    (cycle_eq : ∀ i, (f i).cycle = i.cycle) (pooled_eq : ∀ i, (f i).pooled = i.pooled)
    (invocations : w'.invocations = w.invocations.map f) (permits : w'.permits = w.permits)
    (gate : w'.gate.Keeps w'.standOf (fun id ↦ (w.invocationsOf id).length) 0) : Guarded s w' := by
  have crew : (fun d ↦ (w'.invocationsOf d).length) = fun d ↦ (w.invocationsOf d).length := by
    funext d
    rw [invocationsOf_map cycle_eq invocations, List.length_map]
  have length : w'.invocations.length = w.invocations.length := by
    rw [invocations, List.length_map]
  refine ⟨crew ▸ gate, by rw [permits, length]; exact h.pool, fun hs ↦ length ▸ h.single hs, ?_⟩
  intro i hi
  rw [invocations] at hi
  obtain ⟨j, hj, rfl⟩ := List.mem_map.mp hi
  rw [pooled_eq]
  exact h.pooled j hj

/-- A cycle has the invocations that are there for it. -/
theorem invocationsOf_ne_nil {i : Invocation} (mem : i ∈ w.invocations) :
    w.invocationsOf i.cycle ≠ [] :=
  List.ne_nil_of_mem (mem_invocationsOf.mpr ⟨mem, rfl⟩)

/-- The cycle that is let through spawns an invocation. -/
theorem Guarded.spawn (h : Guarded s w) {i : Invocation} (inside : w.standOf i.cycle = .inside)
    (stand : ∀ d, w'.standOf d = w.standOf d) (gate : w'.gate = w.gate.share)
    (calm : s.config.parallel = false → w.invocationsOf i.cycle = [])
    (invocations : w'.invocations = w.invocations ++ [i]) (pooled : i.pooled = s.config.parallel)
    (permits : w.permits = w'.permits + if s.config.parallel then 1 else 0) : Guarded s w' := by
  have hc := h.gate.inside i.cycle inside
  have length : w'.invocations.length = w.invocations.length + 1 := by
    rw [invocations, List.length_append]
    rfl
  refine ⟨?gate, ?pool, fun sequential ↦ ?single, ?pooled⟩
  case gate =>
    rw [gate, funext stand]
    refine h.gate.enlist hc ?_ fun d hd ↦ ?_
    · rw [invocationsOf_of_append invocations, if_pos rfl, List.length_append]
      rfl
    · rw [invocationsOf_of_append invocations, if_neg (Ne.symm hd), List.append_nil]
  case pool =>
    have pool := h.pool
    rw [length]
    split
    · rename_i parallel
      rw [if_pos parallel] at pool permits
      omega
    · rename_i sequential
      rw [if_neg sequential] at pool permits
      omega
  case single =>
    rw [length, ← h.invocations_eq hc, calm sequential]
    exact Nat.le_refl _
  case pooled =>
    intro j hj
    rw [invocations] at hj
    rcases List.mem_append.mp hj with hj | hj
    · exact h.pooled j hj
    · rw [List.mem_singleton.mp hj, pooled]

/-- An invocation is gone. -/
theorem Guarded.retire (h : Guarded s w) (numbered : Numbered w) {i : Invocation}
    (mem : i ∈ w.invocations) (stand : ∀ d, w'.standOf d = w.standOf d)
    (gate : w'.gate = w.gate.release)
    (invocations : w'.invocations = w.invocations.filter (·.id ≠ i.id))
    (permits : w'.permits = w.permits + if i.pooled then 1 else 0) : Guarded s w' := by
  have sub : ∀ j ∈ w'.invocations, j ∈ w.invocations := by
    intro j hj
    rw [invocations] at hj
    exact (List.mem_filter.mp hj).1
  have length : w.invocations.length = w'.invocations.length + 1 := by
    rw [(Keyed.perm_cons_filter numbered.distinct mem).length_eq, invocations]
    rfl
  refine ⟨?gate, ?pool, fun sequential ↦ ?single, fun j hj ↦ h.pooled j (sub j hj)⟩
  case gate =>
    rw [gate, funext stand]
    have owed : w.gate.holder = some i.cycle ∧
        w.gate.Keeps w.standOf (fun d ↦ (w'.invocationsOf d).length) 1 :=
      h.gate.discharge (by rw [(numbered.perm_of_gone mem invocations).length_eq]; rfl)
        fun d hd ↦ by rw [numbered.invocationsOf_of_gone mem invocations hd]
    exact owed.2.release owed.1
  case pool =>
    have pool := h.pool
    rw [permits, h.pooled i mem]
    rw [length] at pool
    split
    · rename_i parallel
      rw [if_pos parallel] at pool
      omega
    · rename_i sequential
      rw [if_neg sequential] at pool
      omega
  case single =>
    have := h.single sequential
    omega

/-- **Every shift keeps gate and pool in order.** -/
theorem Guarded.shift (h : Guarded s w) (numbered : Numbered w) (e : Shift s w w') :
    Guarded s w' := by
  cases e with
  | passes id passing there idle still =>
    obtain ⟨g, marks, invocations⟩ := still.invocations
    refine h.of_map marks.cycle_eq (fun i ↦ ?_) invocations still.permits
      (h.gate.pass passing (fun hq ↦ by rw [idle hq]; rfl) rfl there)
    rcases marks i with same | ⟨-, told⟩
    · rw [same]
    · rw [told]
  | calls here there gate invocations permits =>
    have before : w.standOf w.next = .gone := by
      rw [standOf, (numbered.fresh _ (Nat.le_refl _)).1]
      rfl
    refine h.of_map (fun _ ↦ rfl) (fun _ ↦ rfl) (invocations.trans (List.map_id _).symm) permits ?_
    rw [gate]
    exact h.gate.call before (h.holder_ne_next numbered) here there
  | spawns id t token inside stand gate calm invocations permits =>
    exact h.spawn inside stand gate calm invocations rfl permits
  | begins i mem phase stand gate invocations permits =>
    refine h.of_map (fun j ↦ by split <;> rfl) (fun j ↦ by split <;> rfl) invocations permits ?_
    rw [gate, funext stand]
    exact h.gate
  | retires i mem e stand gate invocations permits =>
    exact h.retire numbered mem stand gate invocations permits

end Guarded

/-! ## The log

A cycle has begun something if it has spawned an invocation or called a collector. -/

/-- The cycle of an invocation that is spawned or calls its collector. -/
def Event.begun? : Event → Option Nat
  | .spawned c _ | .started c _ _ => some c
  | _ => none

/-- The cycle has begun something. -/
def HasBegun (log : List Event) (id : Nat) : Prop := ∃ e ∈ log, e.begun? = some id

/-- All invocations that a cycle has spawned are gone. -/
def AllGone (log : List Event) (id : Nat) : Prop :=
  (log.filterMap (·.start? id)).Perm ((log.filterMap (·.end? id)).map Prod.fst)

/-- Whenever a cycle begins something, all that other cycles have spawned is gone, and a cycle that
had its turn before begins nothing any more. -/
def InTurn (log : List Event) : Prop :=
  ∀ before e after id, log = before ++ e :: after → e.begun? = some id → ∀ d, d ≠ id →
    AllGone before d ∧ (HasBegun before d → ¬HasBegun after d)

/-- Another cycle has begun something since. -/
def Overtaken (log : List Event) (d : Nat) : Prop :=
  ∃ before e after id, log = before ++ e :: after ∧ e.begun? = some id ∧ d ≠ id ∧ HasBegun before d

section Log

variable {log : List Event} {e : Event} {d : Nat}

theorem hasBegun_append :
    HasBegun (log ++ [e]) d ↔ HasBegun log d ∨ e.begun? = some d := by
  simp only [HasBegun, List.mem_append, List.mem_singleton]
  constructor
  · rintro ⟨a, ha | rfl, h⟩
    · exact .inl ⟨a, ha, h⟩
    · exact .inr h
  · rintro (⟨a, ha, h⟩ | h)
    · exact ⟨a, .inl ha, h⟩
    · exact ⟨e, .inr rfl, h⟩

/-- The places in a log to which an event was added. -/
theorem split_append {before after : List Event} {a : Event}
    (h : log ++ [e] = before ++ a :: after) :
    log = before ∧ e = a ∧ after = [] ∨ ∃ rest, after = rest ++ [e] ∧
      log = before ++ a :: rest := by
  rcases List.eq_nil_or_concat after with rfl | ⟨rest, b, rfl⟩
  · obtain ⟨rfl, hb⟩ := List.append_inj' h rfl
    exact .inl ⟨rfl, List.singleton_inj.mp hb, rfl⟩
  · rw [List.concat_eq_append, ← List.cons_append, ← List.append_assoc] at h
    obtain ⟨hlog, hb⟩ := List.append_inj' h rfl
    rw [List.concat_eq_append, List.singleton_inj.mp hb]
    exact .inr ⟨rest, rfl, hlog⟩

theorem Overtaken.append (h : Overtaken (log ++ [e]) d) :
    Overtaken log d ∨ ∃ id, e.begun? = some id ∧ d ≠ id ∧ HasBegun log d := by
  obtain ⟨before, a, after, id, parts, begun, hd, first⟩ := h
  rcases split_append parts with ⟨rfl, rfl, -⟩ | ⟨rest, -, parted⟩
  · exact .inr ⟨id, begun, hd, first⟩
  · exact .inl ⟨before, a, rest, id, parted, begun, hd, first⟩

/-- Another event, where all that other cycles have spawned is gone if it begins something, and
where it begins something for none of those that had their turn. -/
theorem InTurn.append (h : InTurn log)
    (others : ∀ id, e.begun? = some id → ∀ d, d ≠ id → AllGone log d)
    (last : ∀ d, e.begun? = some d → ¬Overtaken log d) : InTurn (log ++ [e]) := by
  intro before a after id parts begun d hd
  rcases split_append parts with ⟨rfl, rfl, rfl⟩ | ⟨rest, rfl, parted⟩
  · exact ⟨others id begun d hd, fun _ ⟨b, hb, _⟩ ↦ nomatch hb⟩
  · obtain ⟨gone, later⟩ := h before a rest id parted begun d hd
    refine ⟨gone, fun first again ↦ ?_⟩
    rcases hasBegun_append.mp again with again | again
    · exact later first again
    · exact last d again ⟨before, a, rest, id, parted, begun, hd, first⟩

end Log

/-- What is in the log, against what there is. -/
structure Recorded (w : Scheduler) : Prop where
  /-- An invocation that was spawned is gone or is there. -/
  crew : ∀ id, (w.starts id).Perm
    ((w.ends id).map Prod.fst ++ (w.invocationsOf id).map (·.target))
  /-- Only cycles that were let through begin something. -/
  entered : ∀ id, HasBegun w.log id →
    id < w.next ∧ (w.standOf id = .inside ∨ w.standOf id = .gone)
  /-- A cycle that was overtaken is over. -/
  overtaken : ∀ id, Overtaken w.log id → w.standOf id = .gone ∧ w.invocationsOf id = []
  inTurn : InTurn w.log

section Recorded

variable {s : SchedulerSetup} {w w' : Scheduler}

theorem recorded_start (s : SchedulerSetup) (metrics : SelfMetrics) :
    Recorded (start s metrics) where
  crew _ := .nil
  entered _ := fun ⟨_, h, _⟩ ↦ nomatch h
  overtaken _ := fun ⟨before, e, after, _, h, _⟩ ↦ by cases before <;> cases h
  inTurn before e after _ h := by cases before <;> cases h

/-- Without invocations, all that the cycle has spawned is gone. -/
theorem Recorded.allGone (h : Recorded w) {id : Nat} (none : w.invocationsOf id = []) :
    AllGone w.log id := by
  have crew := h.crew id
  rw [none, List.map_nil, List.append_nil, ends_eq_log] at crew
  exact crew

/-- The cycle of an invocation has begun something. -/
theorem Recorded.hasBegun (h : Recorded w) {i : Invocation} (hi : i ∈ w.invocations) :
    HasBegun w.log i.cycle := by
  have mem : i.target ∈ w.starts i.cycle :=
    (h.crew i.cycle).mem_iff.mpr
      (List.mem_append_right _ (List.mem_map_of_mem (mem_invocationsOf.mpr ⟨hi, rfl⟩)))
  obtain ⟨e, he, start⟩ := List.mem_filterMap.mp mem
  refine ⟨e, he, ?_⟩
  cases e with
  | spawned c t =>
    rw [Event.start?] at start
    split at start
    · rename_i own
      rw [Event.begun?, own]
    · cases start
  | _ => cases start

/-- Nothing is written into the log, and cycles stay where they are or go on. -/
theorem Recorded.quiet (h : Recorded w) (log : w'.log = w.log) (next : w.next ≤ w'.next)
    (crew : ∀ id, (w'.invocationsOf id).map (·.target) = (w.invocationsOf id).map (·.target))
    (stand : ∀ id, id < w.next →
      (w.standOf id = .inside → w'.standOf id = .inside ∨ w'.standOf id = .gone) ∧
      (w.standOf id = .gone → w'.standOf id = .gone)) : Recorded w' where
  crew id := by
    rw [starts, ends_eq_log, log, crew, ← ends_eq_log]
    exact h.crew id
  entered id hid := by
    rw [log] at hid
    obtain ⟨lt, inside | gone⟩ := h.entered id hid
    · exact ⟨Nat.lt_of_lt_of_le lt next, (stand id lt).1 inside⟩
    · exact ⟨Nat.lt_of_lt_of_le lt next, .inr ((stand id lt).2 gone)⟩
  overtaken id hid := by
    rw [log] at hid
    obtain ⟨gone, none⟩ := h.overtaken id hid
    have lt : id < w.next := by
      obtain ⟨before, e, after, _, parts, -, -, a, ha, begun⟩ := hid
      exact (h.entered id ⟨a, parts ▸ List.mem_append_left _ ha, begun⟩).1
    refine ⟨(stand id lt).2 gone, List.map_eq_nil_iff.mp ((crew id).trans ?_)⟩
    rw [none]
    rfl
  inTurn := log ▸ h.inTurn

/-- Something is written into the log, and cycles stay where they are. If an invocation is spawned
or calls its collector, then for a cycle that is let through. -/
theorem Recorded.tell {e : Event} (h : Recorded w) (guarded : Guarded s w)
    (log : w'.log = w.log ++ [e]) (next : w.next ≤ w'.next)
    (stand : ∀ id, w'.standOf id = w.standOf id)
    (begun : ∀ id, e.begun? = some id → w.gate.holder = some id ∧ id < w.next ∧
      (w.standOf id = .inside ∨ w.standOf id = .gone ∧ w.invocationsOf id ≠ []))
    (others : ∀ id, e.begun? ≠ some id → w.invocationsOf id = [] → w'.invocationsOf id = [])
    (crew : ∀ id, (w'.starts id).Perm
      ((w'.ends id).map Prod.fst ++ (w'.invocationsOf id).map (·.target))) : Recorded w' := by
  -- A cycle that is over without invocations begins nothing any more.
  have last : ∀ id, e.begun? = some id → ¬Overtaken w.log id := by
    intro id hid overtaken
    obtain ⟨gone, none⟩ := h.overtaken id overtaken
    obtain ⟨-, -, inside | ⟨-, some⟩⟩ := begun id hid
    · rw [gone] at inside
      cases inside
    · exact some none
  have alone : ∀ id, e.begun? = some id → ∀ d, d ≠ id → w.invocationsOf d = [] := fun id hid d hd ↦
    List.length_eq_zero_iff.mp (guarded.gate.crew_eq_zero (begun id hid).1 hd)
  refine ⟨crew, fun id hid ↦ ?_, fun id hid ↦ ?_, ?_⟩
  · rw [log, hasBegun_append] at hid
    rw [stand]
    rcases hid with hid | hid
    · obtain ⟨lt, entered⟩ := h.entered id hid
      exact ⟨Nat.lt_of_lt_of_le lt next, entered⟩
    · obtain ⟨-, lt, entered⟩ := begun id hid
      exact ⟨Nat.lt_of_lt_of_le lt next, entered.imp_right And.left⟩
  · rw [log] at hid
    rw [stand]
    rcases hid.append with before | ⟨c, hc, differs, first⟩
    · obtain ⟨gone, none⟩ := h.overtaken id before
      exact ⟨gone, others id (fun hb ↦ last id hb before) none⟩
    · refine ⟨?_, others id ?_ (alone c hc id differs)⟩
      · obtain ⟨-, inside | gone⟩ := h.entered id first
        · have holder := guarded.gate.inside id inside
          rw [(begun c hc).1, Option.some_inj] at holder
          exact absurd holder.symm differs
        · exact gone
      · rw [hc]
        exact fun same ↦ differs (Option.some.inj same).symm
  · rw [log]
    exact h.inTurn.append (fun id hid d hd ↦ h.allGone (alone id hid d hd)) last

/-- Cycles do not go back. -/
theorem Gate.Passing.onward {c : Nat} {g g' : Gate} {σ σ' : Stand} (e : Gate.Passing c g σ g' σ') :
    (σ = .inside → σ' = .inside ∨ σ' = .gone) ∧ (σ = .gone → σ' = .gone) := by
  cases e with
  | stays => exact ⟨.inl, fun gone ↦ gone⟩
  | closes => exact ⟨fun _ ↦ .inr rfl, fun _ ↦ rfl⟩
  | _ => exact ⟨fun h ↦ (nomatch h), fun h ↦ (nomatch h)⟩

/-- The cycle that is let through spawns an invocation. -/
theorem Recorded.spawn (h : Recorded w) (guarded : Guarded s w) (numbered : Numbered w)
    {i : Invocation} (inside : w.standOf i.cycle = .inside)
    (stand : ∀ d, w'.standOf d = w.standOf d) (invocations : w'.invocations = w.invocations ++ [i])
    (next : w'.next = w.next + 1) (log : w'.log = w.log ++ [.spawned i.cycle i.target]) :
    Recorded w' := by
  have added := invocationsOf_of_append invocations
  refine h.tell guarded log (next ▸ Nat.le_succ _) stand (fun d hd ↦ ?_) (fun d hd none ↦ ?_)
    fun d ↦ ?_
  · obtain rfl : i.cycle = d := Option.some.inj hd
    refine ⟨guarded.gate.inside i.cycle inside, Nat.lt_of_not_le fun hle ↦ ?_, .inl inside⟩
    rw [standOf, (numbered.fresh i.cycle hle).1] at inside
    cases inside
  · have other : i.cycle ≠ d := fun own ↦ hd (congrArg some own)
    rw [added, none, if_neg other]
    rfl
  · have crew := h.crew d
    have unended : (Event.spawned i.cycle i.target).end? d = none := rfl
    rw [starts_of_log log, ends_of_log log, added, unended, Event.start?, Option.toList_none,
      List.append_nil]
    by_cases own : i.cycle = d
    · rw [if_pos own, if_pos own, List.map_append, ← List.append_assoc]
      exact crew.append_right [i.target]
    · rw [if_neg own, if_neg own, Option.toList_none, List.append_nil, List.append_nil]
      exact crew

/-- The call of an invocation begins. -/
theorem Recorded.begin (h : Recorded w) (guarded : Guarded s w) {i : Invocation}
    (mem : i ∈ w.invocations) {phase : InvocationPhase} (stand : ∀ d, w'.standOf d = w.standOf d)
    (invocations : w'.invocations =
      w.invocations.map fun j ↦ if j.id = i.id then { j with phase := phase } else j)
    (next : w'.next = w.next) {cancelled : Bool}
    (log : w'.log = w.log ++ [.started i.cycle i.target cancelled]) : Recorded w' := by
  have kept (d : Nat) : w'.invocationsOf d = (w.invocationsOf d).map fun j ↦
      if j.id = i.id then { j with phase := phase } else j :=
    invocationsOf_map (fun j ↦ by split <;> rfl) invocations d
  refine h.tell guarded log (Nat.le_of_eq next.symm) stand (fun d hd ↦ ?_) (fun d _ none ↦ ?_)
    fun d ↦ ?_
  · obtain rfl : i.cycle = d := Option.some.inj hd
    obtain ⟨lt, entered⟩ := h.entered i.cycle (h.hasBegun mem)
    exact ⟨guarded.holder mem, lt, entered.imp_right fun gone ↦ ⟨gone, invocationsOf_ne_nil mem⟩⟩
  · rw [kept, none]
    rfl
  · have targets : (w'.invocationsOf d).map (·.target) = (w.invocationsOf d).map (·.target) := by
      rw [kept, List.map_map]
      refine List.map_congr_left fun j _ ↦ ?_
      show (if j.id = i.id then { j with phase := phase } else j).target = j.target
      split <;> rfl
    have unspawned : (Event.started i.cycle i.target cancelled).start? d = none := rfl
    have unended : (Event.started i.cycle i.target cancelled).end? d = none := rfl
    rw [starts_of_log log, ends_of_log log, targets, unspawned, unended, Option.toList_none,
      List.append_nil, Option.toList_none, List.append_nil]
    exact h.crew d

/-- An invocation is gone. -/
theorem Recorded.retire (h : Recorded w) (guarded : Guarded s w) (numbered : Numbered w)
    {i : Invocation} (mem : i ∈ w.invocations) {e : InvocationEnd}
    (stand : ∀ d, w'.standOf d = w.standOf d)
    (invocations : w'.invocations = w.invocations.filter (·.id ≠ i.id)) (next : w'.next = w.next)
    (log : w'.log = w.log ++ [.gone i.cycle i.target e]) : Recorded w' := by
  refine h.tell guarded log (Nat.le_of_eq next.symm) stand (fun d hd ↦ by cases hd)
    (fun d _ none ↦ ?_) fun d ↦ ?_
  · have other : d ≠ i.cycle := by
      rintro rfl
      exact invocationsOf_ne_nil mem none
    rw [numbered.invocationsOf_of_gone mem invocations other, none]
  · have crew := h.crew d
    have unspawned : (Event.gone i.cycle i.target e).start? d = none := rfl
    rw [starts_of_log log, ends_of_log log, unspawned, Event.end?, Option.toList_none,
      List.append_nil]
    by_cases own : i.cycle = d
    · have perm := (numbered.perm_of_gone mem invocations).map (·.target)
      rw [own] at perm
      rw [if_pos own, Option.toList_some, List.map_append, List.append_assoc]
      exact crew.trans (perm.append_left _)
    · rw [if_neg own, Option.toList_none, List.append_nil,
        numbered.invocationsOf_of_gone mem invocations (Ne.symm own)]
      exact crew

/-- **Every shift keeps the log in order.** -/
theorem Recorded.shift (h : Recorded w) (guarded : Guarded s w) (numbered : Numbered w)
    (e : Shift s w w') : Recorded w' := by
  cases e with
  | passes id passing there idle still =>
    obtain ⟨g, marks, invocations⟩ := still.invocations
    refine h.quiet still.log (Nat.le_of_eq still.next.symm) (fun d ↦ ?_) fun d _ ↦ ?_
    · rw [invocationsOf_map marks.cycle_eq invocations, List.map_map]
      exact List.map_congr_left fun i _ ↦ marks.target_eq i
    · by_cases own : d = id
      · rw [own]
        exact passing.onward
      · rw [there d own]
        exact ⟨.inl, fun gone ↦ gone⟩
  | calls here there gate invocations permits next log =>
    refine h.quiet log (next ▸ Nat.le_succ _) (fun d ↦ by rw [invocationsOf_congr invocations])
      fun d lt ↦ ?_
    rw [there d (Nat.ne_of_lt lt)]
    exact ⟨.inl, fun gone ↦ gone⟩
  | spawns id t token inside stand gate calm invocations permits next log =>
    exact h.spawn guarded numbered inside stand invocations next log
  | begins i mem phase stand gate invocations permits next log =>
    obtain ⟨cancelled, log⟩ := log
    exact h.begin guarded mem stand invocations next log
  | retires i mem e stand gate invocations permits next log =>
    exact h.retire guarded numbered mem stand invocations next log

end Recorded

/-! ## All runs

A scheduler is governed if it satisfies the invariants so far: that of its cycles, that its cycles
are settled, and the two of this module. -/

/-- What holds of the gate, the pool and the log, however cycles are called for and whatever becomes
of them. -/
structure Exclusive (s : SchedulerSetup) (w : Scheduler) : Prop where
  /-- All invocations belong to one cycle. -/
  single : ∀ i ∈ w.invocations, ∀ j ∈ w.invocations, i.cycle = j.cycle
  /-- The log shows them: an invocation that was spawned is gone or is there. -/
  crew : ∀ id, (w.starts id).Perm ((w.ends id).map Prod.fst ++ (w.invocationsOf id).map (·.target))
  /-- No invocation begins before those of other cycles are gone, and they do not come back. -/
  inTurn : InTurn w.log
  bound : w.invocations.length ≤ if s.config.parallel then max 1 s.config.parallelism else 1
  /-- When no cycle is waited for and no invocation is left, everything is given back. -/
  free : (∀ c ∈ w.cycles, c.phase.isOver = true) → w.invocations = [] →
    w.gate = .new ∧ w.permits = max 1 s.config.parallelism

/-- What holds of every reachable scheduler. -/
structure Governed (s : SchedulerSetup) (w : Scheduler) : Prop where
  inv : Invariant s w
  settled : AllSettled s w
  guarded : Guarded s w
  recorded : Recorded w

section Runs

variable {s : SchedulerSetup} {metrics : SelfMetrics} {w w' : Scheduler}

/-- **Every move keeps a scheduler governed.** -/
theorem Governed.move {m : Move} (h : Governed s w) (e : Scheduler.move s m w = some w') :
    Governed s w' := by
  have shift := move_shifts h.settled h.inv e
  exact
    { inv := h.inv.move m e
      settled := h.settled.move h.inv e
      guarded := h.guarded.shift h.inv.numbered shift
      recorded := h.recorded.shift h.guarded h.inv.numbered shift }

theorem governed_of_trail {l : List (Passage Scheduler Move)}
    (h : Trail (move s) (start s metrics) l w) : Governed s w :=
  h.invariant
    ⟨invariant_start s metrics, allSettled_start s metrics, guarded_start s metrics,
      recorded_start s metrics⟩
    fun _ hw e ↦ hw.move e

/-- Without cycles and invocations the gate is free. -/
theorem Guarded.free (h : Guarded s w) (gone : ∀ c ∈ w.cycles, c.phase.isOver = true)
    (none : w.invocations = []) : w.gate = .new := by
  have stand (id : Nat) : w.standOf id = .gone := by
    cases hc : w.cycle? id with
    | none => rw [standOf, hc]; rfl
    | some c =>
      rw [standOf_of_cycle? hc]
      have ended := gone c (List.mem_of_find?_eq_some hc)
      cases phase : c.phase with
      | ended r => rfl
      | _ => rw [phase] at ended; cases ended
  cases holder : w.gate.holder with
  | none => exact h.gate.free holder
  | some id =>
    have shares := h.gate.shares id holder
    have pos := h.gate.pos id holder
    simp only [stand, Stand.share, invocationsOf, none, List.filter_nil, List.length_nil] at shares
    omega

/-- **Cycles exclude each other**, for every registry, every configuration and all behaviours of
collectors, whatever the order in which cycles are called for and are dropped, tasks have their
turns, tokens fire and time passes. -/
theorem cycles_exclude_each_other (reached : Reachable s metrics w) : Exclusive s w := by
  obtain ⟨l, run⟩ := reachable_iff_exists_trail.mp reached
  have governed := governed_of_trail run
  have guarded := governed.guarded
  have pool := guarded.pool
  exact
    { single := fun i hi j hj ↦ Option.some.inj ((guarded.holder hi).symm.trans (guarded.holder hj))
      crew := governed.recorded.crew
      inTurn := governed.recorded.inTurn
      bound := by
        split
        · rename_i parallel
          rw [if_pos parallel] at pool
          show _ ≤ s.config.permits
          omega
        · rename_i sequential
          exact guarded.single (by simpa using sequential)
      free := fun gone none ↦ by
        refine ⟨guarded.free gone none, ?_⟩
        rw [none, List.length_nil, ite_self, Nat.add_zero] at pool
        exact pool }

end Runs

/-- A module of two collectors that run side by side and take their time. -/
def sideBySide : SchedulerSetup where
  registry :=
    ⟨[⟨"host",
      [⟨"cpu", fun _ ↦ ⟨some 10, false, false, .batch [.gauge "load" 1]⟩, 0⟩,
        ⟨"disk", fun _ ↦ ⟨some 10, false, false, .batch [.gauge "used" 2]⟩, 0⟩], none⟩]⟩
  config := ⟨true, 2, none, true⟩

/-- Nobody waits for the first cycle any more while one of its collectors is being called. The
second cycle is let through when that invocation is gone. -/
theorem cycles_exclude_each_other_dropped : ∃ w : Scheduler, Reachable sideBySide .new w ∧
    (w.starts 0).length = 1 ∧ (w.ends 0).length = 1 ∧ w.invocations.map (·.cycle) = [1, 1] ∧
      Exclusive sideBySide w := by
  have run : Trail (move sideBySide) (start sideBySide .new) _ _ :=
    Trail.of_follow
      [.call 7, .call 8, .turn (.cycle 0), .turn (.cycle 1), .turn (.cycle 0), .turn (.cycle 0),
        .turn (.cycle 0), .turn (.invocation 2), .drop 0, .turn (.invocation 2), .turn (.cycle 1),
        .turn (.cycle 1), .turn (.cycle 1), .turn (.cycle 1), .turn (.invocation 3)] rfl
  have reached := reachable_iff_exists_trail.mpr ⟨_, run⟩
  exact ⟨_, reached, rfl, rfl, rfl, cycles_exclude_each_other reached⟩

end Scheduler

end MetricsAgent
