import MetricsAgent.Proofs.Scheduler.Cancellation
import MetricsAgent.Proofs.Scheduler.Diary

/-!
# The tour of a cycle through the modules

A cycle visits the modules in the order of registration.  A visit (`Scheduler.Visited`) begins with
the hook before the collectors.  When it is over, invocations are spawned for collectors of the
module, and when all of them are gone, the hook after begins.  The next visit does not begin before
that is over.  So the diary of a cycle is that of its visits one after the other (`Scheduler.Tour`).

`Scheduler.Stage` says for each phase how far the cycle has come on its tour.  When it returns, it
has visited all modules, or those that it had come to before it was called off, or those up to one
that has failed, which it has left through the hook after like any other (`Scheduler.Toured`).

* The parts of a visit are in order, and each begins when the one before it is over, or later.
* A module whose hook before has begun is left through its hook after, also when a collector has
  failed in it or the cycle was called off.
* A module that the cycle has not come to has no event in the diary.

The statement is about the whole diary of a cycle, with the times.  It does not say which of the
collectors of a visited module have had an invocation: a cycle that is called off in a module, or
fails in it, may have passed over some.
-/

set_option autoImplicit false

namespace MetricsAgent

namespace Scheduler

/-- How long the hook before the collectors takes, if the module has one. -/
def beforeMs (m : CollectorModule) : Nat := (m.hooks.map (·.beforeMs)).getD 0

/-! ## Visits

In a visit, the events of invocations may come in any order. -/

/-- What happens between two times are the invocations for the collectors `begun` of a module. -/
structure Crew (id : Nat) (m : CollectorModule) (begun : List Collector) (first last : Nat)
    (log : List (Nat × Event)) : Prop where
  times : ∀ x ∈ log, first ≤ x.1 ∧ x.1 ≤ last
  own : ∀ x ∈ log, ∃ t ∈ m.targets begun, x.2.target? = some t
  spawned : startsIn id log = m.targets begun

/-- A visit to a module, not before `start`, with what happens in it, and the time at which it is
over. -/
inductive Visited (id : Nat) (m : CollectorModule) (start : Nat) :
    List (Nat × Event) → Nat → Prop where
  | intro {opened closed : Nat} {begun : List Collector} {crew : List (Nat × Event)}
    (later : start ≤ opened) (some : begun.Sublist m.collectors)
    (done : opened + beforeMs m ≤ closed)
    (invocations : Crew id m begun (opened + beforeMs m) closed crew)
    (gone : (m.targets begun).Perm ((endsIn id crew).map Prod.fst)) : Visited id m start
      ((beforeEvents id m).map (opened, ·) ++ crew ++ (afterEvents id m).map (closed, ·))
      (closed + afterMs m)

/-- Visits to modules one after the other, in which no invocation fails, with what happens in them,
and the time at which they are over. -/
inductive Tour (id : Nat) : List CollectorModule → List (Nat × Event) → Nat → Prop where
  | start : Tour id [] [] 0
  | visit {done : List CollectorModule} {m : CollectorModule} {visits last : List (Nat × Event)}
    {start finish : Nat} (tour : Tour id done visits start)
    (visited : Visited id m start last finish) (well : ∀ a ∈ endsIn id last, a.2.isRegular = true) :
    Tour id (done ++ [m]) (visits ++ last) finish

/-- What a cycle has done that has returned, where `off` says that it was called off. -/
inductive Toured (s : SchedulerSetup) (id : Nat) (off : Prop) (log : List (Nat × Event)) :
    Except CycleError CycleReport → Prop where
  /-- It has visited all modules, or it was called off before it came to the others. -/
  | completed {done skipped : List CollectorModule} {visits : List (Nat × Event)}
    {finish time : Nat}
    (r : CycleReport) (modules : s.registry.modules = done ++ skipped) (reason : skipped ≠ [] → off)
    (tour : Tour id done visits finish) (later : finish ≤ time)
    (whole : log = visits ++ [(time, .closed id)]) : Toured s id off log (.ok r)
  /-- It has visited the modules up to the one that has failed. -/
  | failed {done rest : List CollectorModule} {m : CollectorModule}
    {visits last : List (Nat × Event)}
    {start finish time : Nat} {e : CycleError} (modules : s.registry.modules = done ++ m :: rest)
    (tour : Tour id done visits start) (visited : Visited id m start last finish)
    (fatal : ∃ t, (t, .fatal e) ∈ endsIn id last) (later : finish ≤ time)
    (whole : log = visits ++ last ++ [(time, .closed id)]) : Toured s id off log (.error e)

section Visits

variable {id : Nat} {m : CollectorModule} {begun : List Collector} {first last : Nat}
  {log : List (Nat × Event)}

theorem parts_beforeEvents (id t : Nat) (m : CollectorModule) :
    startsIn id ((beforeEvents id m).map (t, ·)) = [] ∧
    endsIn id ((beforeEvents id m).map (t, ·)) = [] := by
  rw [startsIn_map, endsIn_map, beforeEvents]
  split <;> exact ⟨rfl, rfl⟩

theorem parts_afterEvents (id t : Nat) (m : CollectorModule) :
    startsIn id ((afterEvents id m).map (t, ·)) = [] ∧
    endsIn id ((afterEvents id m).map (t, ·)) = [] := by
  rw [startsIn_map, endsIn_map, afterEvents]
  split <;> exact ⟨rfl, rfl⟩

/-- All invocations of a visit are gone at its end. -/
theorem Visited.gone {start finish : Nat} (h : Visited id m start log finish) :
    (startsIn id log).Perm ((endsIn id log).map Prod.fst) := by
  cases h with
  | @intro opened closed begun crew later some done invocations gone =>
    obtain ⟨no_start, no_end⟩ := parts_beforeEvents id opened m
    obtain ⟨no_start', no_end'⟩ := parts_afterEvents id closed m
    rw [startsIn_append, startsIn_append, endsIn_append, endsIn_append, no_start, no_end,
      no_start', no_end', invocations.spawned, List.nil_append, List.append_nil, List.nil_append,
      List.append_nil]
    exact gone

variable {done : List CollectorModule} {finish : Nat}

/-- All invocations of a tour are gone at its end. -/
theorem Tour.gone (h : Tour id done log finish) :
    (startsIn id log).Perm ((endsIn id log).map Prod.fst) := by
  induction h with
  | start => exact .nil
  | visit tour visited well ih =>
    rw [startsIn_append, endsIn_append, List.map_append]
    exact ih.append visited.gone

/-- No invocation of a tour has failed. -/
theorem Tour.well (h : Tour id done log finish) : ∀ a ∈ endsIn id log, a.2.isRegular = true := by
  induction h with
  | start => exact fun _ ha ↦ nomatch ha
  | visit tour visited well ih =>
    rw [endsIn_append]
    exact List.forall_mem_append.mpr ⟨ih, well⟩

theorem Crew.later {last' : Nat} (h : Crew id m begun first last log) (later : last ≤ last') :
    Crew id m begun first last' log :=
  ⟨fun x hx ↦ ⟨(h.times x hx).1, Nat.le_trans (h.times x hx).2 later⟩, h.own, h.spawned⟩

/-- An invocation tells something. -/
theorem Crew.tell {es : List Event} {t : Target} (h : Crew id m begun first last log)
    (time : first ≤ last) (ht : t ∈ m.targets begun)
    (about : ∀ e ∈ es, e.target? = some t ∧ e.start? id = none) :
    Crew id m begun first last (log ++ es.map (last, ·)) where
  times :=
    List.forall_mem_append.mpr ⟨h.times, List.forall_mem_map.mpr fun _ _ ↦ ⟨time, Nat.le_refl _⟩⟩
  own :=
    List.forall_mem_append.mpr ⟨h.own, List.forall_mem_map.mpr fun e he ↦ ⟨t, ht, (about e he).1⟩⟩
  spawned := by
    rw [startsIn_append, startsIn_map, List.filterMap_eq_nil_iff.mpr fun e he ↦ (about e he).2,
      List.append_nil]
    exact h.spawned

/-- An invocation is spawned. -/
theorem Crew.spawn (h : Crew id m begun first last log) (time : first ≤ last) (k : Collector) :
    Crew id m (begun ++ [k]) first last (log ++ [(last, .spawned id ⟨m.name, k⟩)]) := by
  have targets : m.targets (begun ++ [k]) = m.targets begun ++ [⟨m.name, k⟩] := by
    simp [CollectorModule.targets]
  refine ⟨?_, ?_, ?_⟩
  · exact List.forall_mem_append.mpr ⟨h.times, List.forall_mem_singleton.mpr ⟨time, Nat.le_refl _⟩⟩
  · rw [targets]
    refine List.forall_mem_append.mpr
      ⟨fun x hx ↦ ?_, List.forall_mem_singleton.mpr ⟨_, by simp, rfl⟩⟩
    obtain ⟨t, ht, about⟩ := h.own x hx
    exact ⟨t, List.mem_append_left _ ht, about⟩
  · rw [startsIn_append, h.spawned, targets]
    simp [startsIn, Event.start?]

end Visits

/-! ## How far a cycle has come

The diary is the visits so far and a part of the current one, with those invocations that are
gone. -/

/-- A cycle has come to the module `m`. -/
def Reached (s : SchedulerSetup) (id : Nat) (m : CollectorModule) (rest : List CollectorModule)
    (visits : List (Nat × Event)) (start : Nat) : Prop :=
  ∃ done, s.registry.modules = done ++ m :: rest ∧ Tour id done visits start

/-- A cycle is in the module `m`, past the hook before the collectors, and may yet spawn invocations
for the collectors `left`. -/
inductive Inside (s : SchedulerSetup) (id now : Nat) (m : CollectorModule) (left : List Collector)
    (rest : List CollectorModule) : List (Nat × Event) → Prop where
  | intro {visits crew : List (Nat × Event)} {start opened : Nat} {begun : List Collector}
    (reached : Reached s id m rest visits start) (later : start ≤ opened)
    (past : opened + beforeMs m ≤ now) (some : (begun ++ left).Sublist m.collectors)
    (invocations : Crew id m begun (opened + beforeMs m) now crew) :
    Inside s id now m left rest (visits ++ ((beforeEvents id m).map (opened, ·) ++ crew))

/-- How far a cycle has come on its tour, by its phase. -/
def Stage (s : SchedulerSetup) (id : Nat) (off : Prop) (now : Nat) (log : List (Nat × Event)) :
    CyclePhase → Prop
  | .arriving | .queued => log = []
  | .visiting rest => ∃ done skipped finish, s.registry.modules = done ++ skipped ++ rest ∧
      (skipped ≠ [] → off) ∧ Tour id done log finish ∧ finish ≤ now
  | .opening m rest until_ => ∃ visits start opened, Reached s id m rest visits start ∧
    start ≤ opened ∧
      until_ = opened + beforeMs m ∧ log = visits ++ (beforeEvents id m).map (opened, ·)
  | .spawning m left rest | .starting m left rest
  | .awaiting m left rest => Inside s id now m left rest log
  | .joining m _ rest => Inside s id now m [] rest log
  | .closing m _ rest until_ => ∃ visits last start, Reached s id m rest visits start ∧
      Visited id m start last until_ ∧ log = visits ++ last
  | .ended r => Toured s id off log r

section Stages

variable {s : SchedulerSetup} {w w' : Scheduler} {c c' : Cycle} {id now now' : Nat}
  {off off' : Prop} {log : List (Nat × Event)} {m : CollectorModule} {left : List Collector}
  {rest : List CollectorModule}

theorem Inside.mono (h : Inside s id now m left rest log) (time : now ≤ now') :
    Inside s id now' m left rest log := by
  cases h with
  | intro reached later past some invocations =>
    exact .intro reached later (Nat.le_trans past time) some (invocations.later time)

theorem Toured.mono {r : Except CycleError CycleReport} (h : Toured s id off log r)
    (fires : off → off') : Toured s id off' log r := by
  cases h with
  | completed r modules reason tour later whole =>
    exact .completed r modules (fun h ↦ fires (reason h)) tour later whole
  | failed modules tour visited fatal later whole =>
    exact .failed modules tour visited fatal later whole

/-- Time may pass, and the cycle may be called off. -/
theorem Stage.mono {φ : CyclePhase} (h : Stage s id off now log φ) (time : now ≤ now')
    (fires : off → off') : Stage s id off' now' log φ := by
  cases φ with
  | arriving | queued | opening | closing => exact h
  | visiting rest =>
    obtain ⟨done, skipped, finish, modules, reason, tour, later⟩ := h
    exact ⟨done, skipped, finish, modules, fun h ↦ fires (reason h), tour, Nat.le_trans later time⟩
  | spawning | starting | awaiting | joining => exact Inside.mono h time
  | ended r => exact Toured.mono h fires

/-- The invocations of the module that the cycle is in are gone or there. -/
theorem Reached.perm {visits crew : List (Nat × Event)} {start : Nat}
    (h : Reached s id m rest visits start) {opened : Nat} {running : List Target}
    (all : (startsIn id (visits ++ ((beforeEvents id m).map (opened, ·) ++ crew))).Perm
      ((endsIn id (visits ++ ((beforeEvents id m).map (opened, ·) ++ crew))).map
        Prod.fst ++ running)) :
    (startsIn id crew).Perm ((endsIn id crew).map Prod.fst ++ running) := by
  obtain ⟨done, -, tour⟩ := h
  obtain ⟨no_start, no_end⟩ := parts_beforeEvents id opened m
  rw [startsIn_append, startsIn_append, endsIn_append, endsIn_append, no_start, no_end,
    List.nil_append, List.nil_append, List.map_append, List.append_assoc] at all
  exact (List.perm_append_left_iff _).mp ((tour.gone.symm.append_right _).trans all)

/-- An invocation of a cycle tells something. -/
theorem Inside.tell (h : Inside s id now m left rest log) {running : List Target}
    (all : (startsIn id log).Perm ((endsIn id log).map Prod.fst ++ running)) {t : Target}
    (ht : t ∈ running) {es : List Event}
    (about : ∀ e ∈ es, e.target? = some t ∧ e.start? id = none) :
    Inside s id now m left rest (log ++ es.map (now, ·)) := by
  cases h with
  | intro reached later past some invocations =>
    have mem := (reached.perm all).mem_iff.mpr (List.mem_append_right _ ht)
    rw [invocations.spawned] at mem
    rw [List.append_assoc, List.append_assoc]
    exact .intro reached later past some (invocations.tell past mem about)

/-- A cycle with invocations is in a module. -/
theorem Stage.tell {φ : CyclePhase} (h : Stage s id off now log φ) (busy : φ.isCalm = false)
    {running : List Target} (all : (startsIn id log).Perm ((endsIn id log).map Prod.fst ++ running))
    {t : Target} (ht : t ∈ running) {es : List Event}
    (about : ∀ e ∈ es, e.target? = some t ∧ e.start? id = none) :
    Stage s id off now (log ++ es.map (now, ·)) φ := by
  cases φ with
  | spawning | awaiting | joining => exact Inside.tell h all ht about
  | _ => cases busy

/-- The first invocations may be spawned. -/
theorem Reached.enter {visits : List (Nat × Event)} {start opened : Nat}
    (h : Reached s id m rest visits start) (later : start ≤ opened)
    (past : opened + beforeMs m ≤ now) :
    Inside s id now m m.collectors rest (visits ++ (beforeEvents id m).map (opened, ·)) := by
  have none : Crew id m [] (opened + beforeMs m) now [] :=
    ⟨fun _ hx ↦ (nomatch hx), fun _ hx ↦ (nomatch hx), rfl⟩
  have some : ([] ++ m.collectors).Sublist m.collectors := List.Sublist.refl _
  have inside := Inside.intro h later past some none
  rw [List.append_nil] at inside
  exact inside

/-- A collector is passed over. -/
theorem Inside.skip {k : Collector} (h : Inside s id now m (k :: left) rest log) :
    Inside s id now m left rest log := by
  cases h with
  | intro reached later past some invocations =>
    exact .intro reached later past
      (((List.sublist_cons_self k left).append_left _).trans some) invocations

/-- An invocation is spawned. -/
theorem Inside.spawn {k : Collector} (h : Inside s id now m (k :: left) rest log) :
    Inside s id now m left rest (log ++ [(now, .spawned id ⟨m.name, k⟩)]) := by
  cases h with
  | intro reached later past some invocations =>
    rw [List.append_assoc, List.append_assoc]
    refine .intro reached later past ?_ (invocations.spawn past k)
    rw [List.append_assoc]
    exact some

/-- The module is left when all invocations are gone. -/
theorem Inside.close (h : Inside s id now m left rest log)
    (all : (startsIn id log).Perm ((endsIn id log).map Prod.fst)) :
    ∃ visits last start, Reached s id m rest visits start ∧
      Visited id m start last (now + afterMs m) ∧
      log ++ (afterEvents id m).map (now, ·) = visits ++ last := by
  cases h with
  | @intro visits crew start opened begun reached later past some invocations =>
    have gone := reached.perm (all.trans (.of_eq (List.append_nil _).symm))
    rw [List.append_nil, invocations.spawned] at gone
    have sublist : begun.Sublist m.collectors := (List.sublist_append_left _ _).trans some
    exact ⟨visits, _, start, reached, .intro later sublist past invocations gone, by
      simp only [List.append_assoc]⟩

/-! ### What each kind of turn makes of the tour

A turn passes over a module, opens it with a hook, enters it, spawns an invocation in it, leaves it
through the hook after, or counts it as visited.  The lemmas below say for each of these how far the
cycle has come then. -/

/-- A cycle that is not called off has passed over no module. -/
theorem Stage.visiting (h : Stage s id off now log (.visiting rest)) (on : ¬off) :
    ∃ done finish, s.registry.modules = done ++ rest ∧ Tour id done log finish ∧ finish ≤ now := by
  obtain ⟨done, skipped, finish, modules, reason, tour, later⟩ := h
  obtain rfl : skipped = [] := by
    by_contra some
    exact on (reason some)
  rw [List.append_nil] at modules
  exact ⟨done, finish, modules, tour, later⟩

/-- A module is passed over. -/
theorem Stage.skipModule (h : Stage s id off now log (.visiting (m :: rest))) (fires : off) :
    Stage s id off now log (.visiting rest) := by
  obtain ⟨done, skipped, finish, modules, -, tour, later⟩ := h
  refine ⟨done, skipped ++ [m], finish, ?_, fun _ ↦ fires, tour, later⟩
  rw [modules, List.append_assoc, List.append_assoc, List.append_assoc, List.singleton_append]

/-- A module with hooks is opened. -/
theorem Stage.open (h : Stage s id off now log (.visiting (m :: rest))) (on : ¬off) {hooks : Hooks}
    (has : m.hooks = some hooks) :
    Stage s id off now (log ++ [(now, .before id m.name)])
      (.opening m rest (now + hooks.beforeMs)) := by
  obtain ⟨done, finish, modules, tour, later⟩ := h.visiting on
  have before : beforeEvents id m = [.before id m.name] := by rw [beforeEvents, has]; rfl
  have until_ : now + hooks.beforeMs = now + beforeMs m := by rw [beforeMs, has]; rfl
  exact ⟨log, finish, now, ⟨done, modules, tour⟩, later, until_, by rw [before]; rfl⟩

/-- A module without hooks is entered at once. -/
theorem Stage.enter (h : Stage s id off now log (.visiting (m :: rest))) (on : ¬off)
    (hooks : m.hooks = none) : Inside s id now m m.collectors rest log := by
  obtain ⟨done, finish, modules, tour, later⟩ := h.visiting on
  have reached : Reached s id m rest log finish := ⟨done, modules, tour⟩
  have past : now + beforeMs m ≤ now := by rw [beforeMs, hooks]; exact Nat.le_refl _
  have inside := reached.enter later past
  rw [beforeEvents, hooks] at inside
  rw [← List.append_nil log]
  exact inside

/-- The collectors of a module have their turn, after its hook if it has one. -/
theorem Stage.unfold (h : Stage s id (w.isCalledOff s c.token = true) w.now log c.phase)
    (phase : c.phase = .visiting (m :: rest) ∧ m.hooks = none ∧ w.isCalledOff s c.token = false ∨
      ∃ t, c.phase = .opening m rest t ∧ t ≤ w.now) :
    Inside s id w.now m m.collectors rest log := by
  rcases phase with ⟨phase, hooks, on⟩ | ⟨t, phase, due⟩
  · rw [phase] at h
    exact h.enter (Bool.eq_false_iff.mp on) hooks
  · rw [phase] at h
    obtain ⟨visits, start, opened, reached, later, rfl, rfl⟩ := h
    exact reached.enter later due

/-- A cycle is in the module that it leaves. -/
theorem Stage.inside {failure : Option CycleError} {arrived : List (Target × InvocationEnd)}
    (h : Stage s id off now log c.phase)
    (phase : (c.phase = .joining m failure rest ∧ w.invocationsOf c.id = [] ∧ c.arrived = [] ∨
          c.phase = .starting m [] rest ∧ failure = none) ∧ arrived = c.arrived ∨
      ∃ left t e, c.phase = .awaiting m left rest ∧ c.arrived = (t, .fatal e) :: arrived ∧
        failure = some e) : ∃ left, Inside s id now m left rest log := by
  rcases phase with ⟨⟨phase, -⟩ | ⟨phase, -⟩, -⟩ | ⟨left, t, e, phase, -⟩ <;> rw [phase] at h <;>
    exact ⟨_, h⟩

/-- A module whose invocations have ended well has been visited. -/
theorem Stage.goOn {until_ : Nat} (h : Stage s id off now log (.closing m none rest until_))
    (due : until_ ≤ now) (well : ∀ a ∈ endsIn id log, a.2.isRegular = true) :
    Stage s id off now log (.visiting rest) := by
  obtain ⟨visits, last, start, ⟨done, modules, tour⟩, visited, rfl⟩ := h
  rw [endsIn_append] at well
  refine ⟨done ++ [m], [], until_, ?_, fun some ↦ absurd rfl some,
    tour.visit visited (List.forall_mem_append.mp well).2, due⟩
  rw [modules, List.append_nil, List.append_assoc, List.singleton_append]

/-- A module with a fatal end is the last one of the tour. -/
theorem Stage.fail {e : CycleError} {until_ : Nat}
    (h : Stage s id off now log (.closing m (some e) rest until_)) (due : until_ ≤ now)
    (blamed : ∃ t, (t, .fatal e) ∈ endsIn id log) :
    Toured s id off (log ++ [(now, .closed id)]) (.error e) := by
  obtain ⟨visits, last, start, ⟨done, modules, tour⟩, visited, rfl⟩ := h
  obtain ⟨target, mem⟩ := blamed
  rw [endsIn_append] at mem
  -- The modules before have ended well, so that it was an invocation of this one.
  have fatal : (target, .fatal e) ∈ endsIn id last := by
    rcases List.mem_append.mp mem with before | here
    · cases tour.well _ before
    · exact here
  exact .failed modules tour visited ⟨target, fatal⟩ due rfl

/-- **A turn of a cycle** takes it further on its tour. -/
theorem Stride.stage {es : List Event} {new : List Invocation} (h : Stride s w c c' es new)
    (stage : Stage s c.id (w.isCalledOff s c.token = true) w.now log c.phase)
    (gone : c'.phase.isCalm = true → (startsIn c.id (log ++ es.map (w.now, ·))).Perm
      ((endsIn c.id (log ++ es.map (w.now, ·))).map Prod.fst))
    (well : c.phase.isCalm = true → c.phase.ahead s ≠ none →
      ∀ a ∈ endsIn c.id log, a.2.isRegular = true)
    (blamed : ∀ e, c.phase.failure? = some e → ∃ t, (t, .fatal e) ∈ endsIn c.id log) :
    Stage s c.id (w.isCalledOff s c.token = true) w.now (log ++ es.map (w.now, ·)) c'.phase := by
  have quiet {φ : CyclePhase} (h : Stage s c.id (w.isCalledOff s c.token = true) w.now log φ) :
      Stage s c.id (w.isCalledOff s c.token = true) w.now (log ++ []) φ := by
    rw [List.append_nil]
    exact h
  cases h with
  | arrives phase =>
    rw [phase] at stage
    exact quiet stage
  | passes phase =>
    rw [phase] at stage
    obtain rfl : log = [] := stage
    exact ⟨[], [], 0, rfl, fun h ↦ absurd rfl h, .start, Nat.zero_le _⟩
  | endsEarly phase off =>
    obtain rfl : log = [] := by
      rcases phase with phase | phase <;> rw [phase] at stage <;> exact stage
    exact .completed _ (List.nil_append _).symm (fun _ ↦ off) .start (Nat.zero_le w.now) rfl
  | skipsModule phase off =>
    rw [phase] at stage
    exact quiet (stage.skipModule off)
  | opens h hooks phase on =>
    rw [phase] at stage
    exact stage.open (Bool.eq_false_iff.mp on) hooks
  | unfolds φ phase after =>
    have inside := stage.unfold phase
    rcases after with rfl | rfl <;> exact quiet inside
  | skips φ phase =>
    rcases phase with ⟨phase, rfl⟩ | ⟨phase, rfl⟩ <;> rw [phase] at stage <;>
      exact quiet (Inside.skip stage)
  | spawns φ pooled phase =>
    rcases phase with ⟨phase, rfl⟩ | ⟨phase, rfl⟩ <;> rw [phase] at stage <;>
      exact Inside.spawn stage
  | gathers phase | fails phase | takes phase =>
    rw [phase] at stage
    exact quiet stage
  | enters phase => exact quiet stage
  | @closes m failure rest arrived until_ phase timed =>
    -- A module is closed once everything it started has ended: this is what the calm phase asks
    -- for.
    obtain ⟨left, inside⟩ := stage.inside phase
    obtain ⟨no_start, no_end⟩ := parts_afterEvents c.id w.now m
    have gone := gone rfl
    rw [startsIn_append, endsIn_append, no_start, no_end, List.append_nil, List.append_nil] at gone
    rw [timed]
    exact inside.close gone
  | goesOn phase due =>
    have well := well (by rw [phase]; rfl) (by rw [phase]; exact Option.some_ne_none _)
    rw [phase] at stage
    exact quiet (stage.goOn due well)
  | @errs m e rest t phase due =>
    have blamed := blamed e (by rw [phase]; rfl)
    rw [phase] at stage
    exact stage.fail due blamed
  | ends phase =>
    rw [phase] at stage
    obtain ⟨done, skipped, finish, modules, reason, tour, later⟩ := stage
    rw [List.append_nil] at modules
    exact .completed _ modules reason tour later rfl

end Stages

/-! ## All runs

That all invocations of a module are gone when it is left comes from the log of the scheduler. -/

/-- Every cycle is on its tour. -/
def Touring (s : SchedulerSetup) (w : Scheduler) : Prop :=
  ∀ id c, w.cycle? id = some c →
    Stage s id (w.isCalledOff s c.token = true) w.now (w.diary id) c.phase

section Runs

variable {s : SchedulerSetup} {metrics : SelfMetrics} {l : List (Passage Scheduler Move)}
  {w w' : Scheduler} {m : Move} {id : Nat} {c : Cycle}

/-- The diary of a cycle shows its invocations: one that was spawned is gone or there. -/
theorem Recorded.diary (h : Recorded w) (id : Nat) : (startsIn id (w.diary id)).Perm
    ((endsIn id (w.diary id)).map Prod.fst ++ (w.invocationsOf id).map (·.target)) := by
  rw [startsIn_diary, endsIn_diary]
  exact h.crew id

/-- **Every move keeps the cycles on their tours.** -/
theorem Touring.move (h : Touring s w) (run : Trail (move s) (start s metrics) l w)
    (e : Scheduler.move s m w = some w') : Touring s w' := by
  have governed := governed_of_trail run
  have governed' := governed.move e
  intro id c' hc'
  -- The stage depends on the clock and the token, and both only move on.
  have on {c : Cycle} {log : List (Nat × Event)} (token : c'.token = c.token)
      (stage : Stage s id (w.isCalledOff s c.token = true) w.now log c'.phase) :
      Stage s id (w'.isCalledOff s c'.token = true) w'.now log c'.phase := by
    rw [token]
    exact stage.mono (now_le_of_move e) (isCalledOff_of_move e)
  cases entry_of_move governed.inv.numbered e hc' with
  | rests there diary =>
    rw [diary]
    exact on rfl (h id c' there)
  | isCalled new phase diary =>
    rw [diary, phase]
    exact diary_of_le run (Nat.le_of_eq new.symm)
  | tells c i es there phase token mem about diary =>
    -- A cycle whose invocation speaks has not let it go, so a module is open.
    have busy : c.phase.isCalm = false := by
      refine Bool.eq_false_iff.mpr fun calm ↦ ?_
      rw [((governed.settled id c there).calm calm).1] at mem
      cases mem
    rw [diary]
    refine on token ?_
    rw [phase]
    exact (h id c there).tell busy (governed.recorded.diary id) (List.mem_map_of_mem mem) about
  | turns c es new there stride yields diary =>
    obtain rfl : c.id = id := Keyed.key_of_find? there
    rw [diary]
    refine on stride.token_eq (stride.stage (h c.id c there) (fun calm ↦ ?_) (fun calm going ↦ ?_)
      fun err failed ↦ ?_)
    · rw [← diary, startsIn_diary, endsIn_diary]
      exact governed'.gone_of_isCalm hc' calm
    · rw [endsIn_diary]
      exact governed.well_of_isCalm there calm going
    · rw [endsIn_diary]
      exact blamed_of_trail run c.id c err there failed

theorem touring_of_trail (h : Trail (Scheduler.move s) (start s metrics) l w) : Touring s w := by
  induction h with
  | start => exact fun _ _ hc ↦ nomatch hc
  | move run m e ih => exact ih.move run e

/-- **The hooks of the modules bracket their invocations**, for every registry, every configuration
and all behaviours of collectors, whatever the order in which cycles are called for and are dropped,
tasks have their turns, tokens fire and time passes.  The diary of a cycle that has returned is that
of visits to the modules in the order of registration, without a gap: to all of them, or to those
before one that the cycle was called off at, or to those up to one that has failed. -/
theorem hooks_bracket_modules (run : Trail (move s) (start s metrics) l w)
    {r : Except CycleError CycleReport} (returned : w.result? id = some r) :
    ∃ c, w.cycle? id = some c ∧ Toured s id (w.isCalledOff s c.token = true) (w.diary id) r := by
  obtain ⟨c, there, ended⟩ := result?_eq_some returned
  have stage := touring_of_trail run id c there
  rw [ended] at stage
  exact ⟨c, there, stage⟩

end Runs

/-- Three modules with hooks, of which the second one has a collector that panics beside one that
hangs. -/
def hookedModules : SchedulerSetup where
  registry :=
    ⟨[⟨"host", [⟨"cpu", fun _ ↦ ⟨some 2, false, false, .batch [.gauge "load" 1]⟩, 0⟩],
      some ⟨true, 3, 4⟩⟩,
      ⟨"fake", [⟨"hangs", fun _ ↦ ⟨none, false, false, .batch []⟩, 0⟩,
        ⟨"boom", fun _ ↦ ⟨some 0, false, false, .crash "bug"⟩, 0⟩], some ⟨true, 0, 5⟩⟩,
      ⟨"net", [⟨"eth", fun _ ↦ ⟨some 0, false, false, .batch []⟩, 0⟩], some ⟨true, 1, 1⟩⟩]⟩
  config := ⟨true, 2, none, true⟩

/-- One cycle fails in the second module and returns after its hook.  The token of another one fires
in the first module, so that it does not come to the others. -/
theorem hooks_bracket_modules_failed :
    (∃ (l : List (Passage Scheduler Move)) (w : Scheduler) (e : CycleError),
      Trail (move hookedModules) (start hookedModules .new) l w ∧ w.result? 0 = some (.error e) ∧
        (w.diary 0).length = 16 ∧ ∃ c, w.cycle? 0 = some c ∧
          Toured hookedModules 0 (w.isCalledOff hookedModules c.token = true)
            (w.diary 0) (.error e)) ∧
    ∃ (l : List (Passage Scheduler Move)) (w : Scheduler) (r : CycleReport),
      Trail (move hookedModules) (start hookedModules .new) l w ∧ w.result? 0 = some (.ok r) ∧
        (w.diary 0).length = 6 ∧ ∃ c, w.cycle? 0 = some c ∧
          Toured hookedModules 0 (w.isCalledOff hookedModules c.token = true)
            (w.diary 0) (.ok r) := by
  constructor
  · have run : Trail (move hookedModules) (start hookedModules .new) _ _ :=
      Trail.of_follow
        [.call 7, .turn (.cycle 0), .turn (.cycle 0), .turn (.cycle 0), .elapse 3, .turn (.cycle 0),
          .turn (.cycle 0), .turn (.invocation 1), .turn (.cycle 0), .elapse 2,
          .turn (.invocation 1), .turn (.cycle 0), .turn (.cycle 0), .elapse 4, .turn (.cycle 0),
          .turn (.cycle 0), .turn (.cycle 0), .turn (.cycle 0), .turn (.cycle 0),
          .turn (.invocation 2), .turn (.invocation 3), .turn (.invocation 3), .turn (.cycle 0),
          .turn (.cycle 0), .turn (.invocation 2), .turn (.cycle 0), .turn (.cycle 0), .elapse 5,
          .turn (.cycle 0)] rfl
    exact ⟨_, _, _, run, rfl, rfl, hooks_bracket_modules run rfl⟩
  · have run : Trail (move hookedModules) (start hookedModules .new) _ _ :=
      Trail.of_follow
        [.call 7, .turn (.cycle 0), .turn (.cycle 0), .turn (.cycle 0), .elapse 3, .turn (.cycle 0),
          .turn (.cycle 0), .turn (.invocation 1), .turn (.cycle 0), .cancel 7,
          .turn (.invocation 1), .turn (.cycle 0), .turn (.cycle 0), .elapse 4, .turn (.cycle 0),
          .turn (.cycle 0), .turn (.cycle 0), .turn (.cycle 0)] rfl
    exact ⟨_, _, _, run, rfl, rfl, hooks_bracket_modules run rfl⟩

end Scheduler

end MetricsAgent
