import MetricsAgent.Proofs.Scheduler.Progress

/-!
# The itinerary of a cycle

A cycle that is not called off visits the modules in the order of registration: it begins the hook
before, spawns an invocation for each collector, and begins the hook after.  `Scheduler.OnCourse`
says for each phase how far the cycle has come with these stops, and that the modules behind it have
ended well.  A cycle that returns a report has made all stops; one that fails has come to the module
of the failure and no further (`Scheduler.onTrack_of_trail`).  The failure of a cycle is always a
fatal end of one of its invocations (`Scheduler.blamed_of_trail`).

The stops of a list of modules are a function of the list (`Scheduler.itinerary`), and so a cycle
that returns a report has made one list of stops, whatever the mode.  In what order its invocations
are called and end is not told by the stops.

`Scheduler.Tour` says more about when things happen, and also of cycles that are called off.  The
itinerary is what two cycles can be compared by.
-/

set_option autoImplicit false

namespace MetricsAgent

namespace Scheduler

/-! ## What moves tell

What a move tells is about the cycle on whose behalf it is made, so the stops of a cycle grow in its
own turns only. -/

/-- The cycle that an event is about. -/
def Event.cycle : Event → Nat
  | before c _ | spawned c _ | started c _ _ | gaveUp c _ | ended c _ | gone c _ _ | after c _
  | closed c => c

section Told

variable {s : SchedulerSetup} {w w' : Scheduler} {m : Move}

theorem Stride.cycle_of_told {c c' : Cycle} {es : List Event} {new : List Invocation}
    (h : Stride s w c c' es new) : ∀ e ∈ es, e.cycle = c.id := by
  intro e he
  cases h with
  | closes =>
    rw [afterEvents] at he
    split at he
    · rw [List.mem_singleton.mp he]
      rfl
    · cases he
  | opens | endsEarly | spawns | errs | ends => rw [List.mem_singleton.mp he]; rfl
  | _ => cases he

theorem ReasonToLeave.cycle_of_told {i : Invocation} {end_ : InvocationEnd} {es : List Event}
    (h : ReasonToLeave s w i end_ es) : ∀ e ∈ es, e.cycle = i.cycle := by
  intro e he
  cases h with
  | gaveUp | returned => rw [List.mem_singleton.mp he]; rfl
  | _ => cases he

/-- **What a move tells** is about the cycle on whose behalf it is made. -/
theorem tells_of_move (e : move s m w = some w') :
    ∃ es, Tells w w' es ∧ ∀ x ∈ es, w.owner? m = some x.cycle := by
  cases effect_of_move e with
  | rests rests => exact ⟨[], tells_nil rests.history, fun _ hx ↦ nomatch hx⟩
  | strides there stride yields =>
    exact ⟨_, yields.tells, fun x hx ↦ by rw [stride.cycle_of_told x hx]; rfl⟩
  | @begins i there =>
    exact ⟨_, tells_beginCall s w i, List.forall_mem_singleton.mpr (owner?_invocation there)⟩
  | departs there why departs =>
    refine ⟨_, departs.tells, fun x hx ↦ (owner?_invocation there).trans (congrArg some ?_)⟩
    rcases List.mem_append.mp hx with hx | hx
    · exact (why.cycle_of_told x hx).symm
    · rw [List.mem_singleton.mp hx]
      rfl

theorem told_of_move (e : move s m w = some w') :
    ∃ es, w'.told = w.told ++ es ∧ ∀ x ∈ es, w.owner? m = some x.cycle := by
  obtain ⟨es, tells, owned⟩ := tells_of_move e
  exact ⟨es, tells.told, owned⟩

/-- A token that has fired stays so. -/
theorem isFired_of_move (e : move s m w = some w') {token : Nat} (h : w.isFired token = true) :
    w'.isFired token = true := by
  cases effect_of_move e with
  | rests rests => exact rests.fired token h
  | strides there stride yields =>
    rw [isFired, yields.fired]
    exact h
  | begins => exact h
  | departs there why departs leaves => exact leaves.fired token h

/-- What was not called off later was not called off before. -/
theorem not_isCalledOff_of_move (e : move s m w = some w') {token : Nat}
    (h : w'.isCalledOff s token = false) : w.isCalledOff s token = false := by
  refine Bool.eq_false_iff.mpr fun off ↦ ?_
  rw [isCalledOff, Bool.and_eq_true] at off
  rw [isCalledOff, off.1, isFired_of_move e off.2] at h
  cases h

end Told

/-! ## Stops

A stop is the beginning of a hook or the spawning of an invocation. -/

/-- Whether an event is a stop of a cycle: a hook begins, or an invocation is spawned. -/
def Event.isStopOf (cycle : Nat) : Event → Bool
  | before c _ | spawned c _ | after c _ => c = cycle
  | _ => false

/-- The stops that a cycle has made, in order. -/
def stops (w : Scheduler) (cycle : Nat) : List Event := w.told.filter (·.isStopOf cycle)

/-- The event at the start of the hook before the collectors, if the module has one. -/
def beforeEvents (cycle : Nat) (m : CollectorModule) : List Event :=
  if m.hooks.isSome then [.before cycle m.name] else []

/-- The invocations that a cycle spawns for collectors of a module. -/
def spawnEvents (cycle : Nat) (m : CollectorModule) (l : List Collector) : List Event :=
  (m.targets l).map (.spawned cycle)

/-- The stops for modules. -/
def itinerary (cycle : Nat) (l : List CollectorModule) : List Event :=
  l.flatMap fun m ↦ beforeEvents cycle m ++ spawnEvents cycle m m.collectors ++ afterEvents cycle m

section Stops

variable {w w' : Scheduler} {id : Nat}

theorem stops_of_told {es : List Event} (h : w'.told = w.told ++ es) (id : Nat) :
    w'.stops id = w.stops id ++ es.filter (·.isStopOf id) := by
  rw [stops, h, List.filter_append, stops]

theorem Event.cycle_of_isStopOf {e : Event} (h : e.isStopOf id = true) : e.cycle = id := by
  cases e <;> first | exact of_decide_eq_true h | cases h

theorem itinerary_append (id : Nat) (l l' : List CollectorModule) :
    itinerary id (l ++ l') = itinerary id l ++ itinerary id l' := List.flatMap_append ..

theorem itinerary_singleton (id : Nat) (m : CollectorModule) :
    itinerary id [m] = beforeEvents id m ++ spawnEvents id m m.collectors ++ afterEvents id m := by
  simp [itinerary]

theorem spawnEvents_append (id : Nat) (m : CollectorModule) (l : List Collector) (k : Collector) :
    spawnEvents id m (l ++ [k]) = spawnEvents id m l ++ [.spawned id ⟨m.name, k⟩] := by
  simp [spawnEvents, CollectorModule.targets]

theorem filter_afterEvents (id : Nat) (m : CollectorModule) :
    (afterEvents id m).filter (·.isStopOf id) = afterEvents id m := by
  rw [afterEvents]
  split <;> simp [Event.isStopOf]

/-- The collectors for which invocations were spawned, going by the stops. -/
theorem starts_eq_stops (w : Scheduler) (id : Nat) :
    w.starts id = (w.stops id).filterMap (·.start? id) := by
  rw [starts, log_eq_told, stops, List.filterMap_filter, List.filterMap_filter]
  congr 1
  funext e
  cases e <;> simp [Event.isCrew, Event.isStopOf, Event.start?]

theorem start?_beforeEvents (id : Nat) (m : CollectorModule) :
    (beforeEvents id m).filterMap (·.start? id) = [] := by
  rw [beforeEvents]
  split <;> rfl

theorem start?_afterEvents (id : Nat) (m : CollectorModule) :
    (afterEvents id m).filterMap (·.start? id) = [] := by
  rw [afterEvents]
  split <;> rfl

theorem start?_spawnEvents (id : Nat) (m : CollectorModule) (l : List Collector) :
    (spawnEvents id m l).filterMap (·.start? id) = m.targets l := by
  rw [spawnEvents, List.filterMap_map]
  refine (List.filterMap_congr fun t _ ↦ ?_).trans List.filterMap_some
  simp [Event.start?]

theorem start?_itinerary (id : Nat) (l : List CollectorModule) :
    (itinerary id l).filterMap (·.start? id) = Registry.targetsOf l := by
  induction l with
  | nil => rfl
  | cons m l ih =>
    rw [← List.singleton_append, itinerary_append, List.filterMap_append, ih, itinerary_singleton,
      List.filterMap_append, List.filterMap_append, start?_beforeEvents, start?_spawnEvents,
      start?_afterEvents, List.nil_append, List.append_nil]
    rfl

end Stops

/-! ## What moves make of a cycle

A cycle is called for, has a turn, hears of an end, or stays as it is. -/

/-- What a move makes of the cycle with a number, which is `c'` after it. -/
inductive Fate (s : SchedulerSetup) (w : Scheduler) (m : Move) (w' : Scheduler)
    (id : Nat) (c' : Cycle) : Prop where
  /-- It stays where it is, while invocations of it may end. -/
  | stays (c : Cycle) (more : List (Target × InvocationEnd)) (there : w.cycle? id = some c)
    (phase : c'.phase = c.phase) (token : c'.token = c.token)
    (ends : w'.ends id = w.ends id ++ more) (stops : w'.stops id = w.stops id)
  | isCalled (new : id = w.next) (phase : c'.phase = .arriving)
  | turns (c : Cycle) (es : List Event) (new : List Invocation) (own : m = .turn (.cycle id))
    (there : w.cycle? id = some c) (stride : Stride s w c c' es new)
    (yields : Yields w c' es new w') (ends : w'.ends id = w.ends id)

section Fate

variable {s : SchedulerSetup} {w w' : Scheduler} {m : Move}

/-- A move on behalf of another cycle makes no stop. -/
theorem stops_of_ne (e : move s m w = some w') {id : Nat} (other : w.owner? m ≠ some id) :
    w'.stops id = w.stops id := by
  obtain ⟨es, told, owned⟩ := told_of_move e
  rw [stops_of_told told, List.filter_eq_nil_iff.mpr fun x hx stop ↦ ?_, List.append_nil]
  exact other (by rw [owned x hx, Event.cycle_of_isStopOf stop])

/-- An invocation that leaves makes no stop. -/
theorem Departs.stops {i : Invocation} {e : InvocationEnd} {es : List Event}
    (h : Departs w i e es w') (why : ReasonToLeave s w i e es) (id : Nat) :
    w'.stops id = w.stops id := by
  have none : (es ++ [Event.gone i.cycle i.target e]).filter (·.isStopOf id) = [] := by
    cases why <;> rfl
  rw [stops_of_told h.told, none, List.append_nil]

theorem fate_of_move (numbered : Numbered w) (e : move s m w = some w') {id : Nat} {c' : Cycle}
    (hc' : w'.cycle? id = some c') : Fate s w m w' id c' := by
  by_cases own : w.owner? m = some id
  · cases effect_of_move e with
    | rests rests => rw [rests.owner?_eq] at own; cases own
    | strides there stride yields =>
      cases own
      obtain rfl := Option.some.inj ((yields.cycle?_self stride.id_eq there).symm.trans hc')
      exact .turns _ _ _ rfl there stride yields ((stride.frame yields).ends _)
    | begins =>
      exact .stays c' [] hc' rfl rfl
        (((beginCall_begins s w _).ends id).trans (List.append_nil _).symm)
        ((stops_of_told (tells_beginCall s w _).told id).trans (List.append_nil _))
    | departs there why departs leaves =>
      rw [leaves.cycle?, Option.map_eq_some_iff] at hc'
      obtain ⟨c, hc, rfl⟩ := hc'
      exact .stays c _ hc (by split <;> rfl) (by split <;> rfl) (leaves.ends _)
        (departs.stops why id)
  · obtain ⟨ends, same⟩ := apart_of_ne numbered e own
    rcases same c' hc' with hc | ⟨new, arriving⟩
    · exact .stays c' [] hc rfl rfl (ends.trans (List.append_nil _).symm) (stops_of_ne e own)
    · exact .isCalled new arriving

/-- A cycle does not go away because of a turn. -/
theorem exists_cycle_of_turn {t : TaskId} {id : Nat} {c : Cycle} (e : move s (.turn t) w = some w')
    (there : w.cycle? id = some c) : ∃ c', w'.cycle? id = some c' ∧ c'.token = c.token := by
  cases effect_of_move e with
  | rests rests => exact absurd rfl (rests.idle t)
  | @strides d d' es new w' here stride yields =>
    by_cases own : id = d.id
    · subst own
      obtain rfl : d = c := Option.some.inj (here.symm.trans there)
      exact ⟨d', yields.cycle?_self stride.id_eq here, stride.token_eq⟩
    · exact ⟨c, (stride.cycle?_of_ne yields own).trans there, rfl⟩
  | begins => exact ⟨c, there, rfl⟩
  | departs here why departs leaves =>
    exact ⟨_, by rw [leaves.cycle?, there]; rfl, by dsimp only; split <;> rfl⟩

end Fate

/-! ## Cycles on course

Whether the collectors of a module have ended well is known when the cycle is calm, since all of its
invocations are gone then and it has heard of all ends. -/

/-- The collectors of these modules have ended, and none of them fatally or because of another. -/
def Accomplished (l : List CollectorModule) (ends : List (Target × InvocationEnd)) : Prop :=
  ∀ t ∈ Registry.targetsOf l, ∃ e, (t, e) ∈ ends ∧ e.isRegular = true

/-- A cycle has come to the module `m`, with the collectors `begun` spawned and `left` not, and made
the stops `last` after that. -/
structure Visit (s : SchedulerSetup) (id : Nat) (stops : List Event)
    (ends : List (Target × InvocationEnd)) (done : List CollectorModule) (m : CollectorModule)
    (begun left : List Collector) (rest : List CollectorModule) (last : List Event) : Prop where
  modules : s.registry.modules = done ++ m :: rest
  collectors : m.collectors = begun ++ left
  stops : stops = itinerary id done ++ beforeEvents id m ++ spawnEvents id m begun ++ last
  accomplished : Accomplished done ends

/-- The phases of a visit to a module before its hook after the collectors. -/
inductive Within (m : CollectorModule) (left : List Collector) (rest : List CollectorModule) :
    CyclePhase → Prop where
  | opening (until_ : Nat) (all : left = m.collectors) : Within m left rest (.opening m rest until_)
  | spawning : Within m left rest (.spawning m left rest)
  | joining (failure : Option CycleError) (none : left = []) :
    Within m left rest (.joining m failure rest)
  | starting : Within m left rest (.starting m left rest)
  | awaiting : Within m left rest (.awaiting m left rest)

/-- How far a cycle has come that is not called off. -/
inductive OnCourse (s : SchedulerSetup) (id : Nat) (stops : List Event)
    (ends : List (Target × InvocationEnd)) : CyclePhase → Prop where
  | waits {φ : CyclePhase} (outside : φ = .arriving ∨ φ = .queued) (none : stops = []) :
    OnCourse s id stops ends φ
  | between (done : List CollectorModule) {rest : List CollectorModule}
    (modules : s.registry.modules = done ++ rest) (made : stops = itinerary id done)
    (accomplished : Accomplished done ends) : OnCourse s id stops ends (.visiting rest)
  | visits {φ : CyclePhase} {done rest : List CollectorModule} {m : CollectorModule}
    {begun left : List Collector} (visit : Visit s id stops ends done m begun left rest [])
    (phase : Within m left rest φ) : OnCourse s id stops ends φ
  | leaves {done rest : List CollectorModule} {m : CollectorModule} {begun left : List Collector}
    {failure : Option CycleError} {until_ : Nat}
    (visit : Visit s id stops ends done m begun left rest (afterEvents id m))
    (whole : failure = none → left = []) : OnCourse s id stops ends (.closing m failure rest until_)
  | failed {done rest : List CollectorModule} {m : CollectorModule} {begun left : List Collector}
    {e : CycleError} (visit : Visit s id stops ends done m begun left rest (afterEvents id m)) :
    OnCourse s id stops ends (.ended (.error e))
  | finished {r : CycleReport} (made : stops = itinerary id s.registry.modules) :
    OnCourse s id stops ends (.ended (.ok r))

section Course

variable {s : SchedulerSetup} {w w' : Scheduler} {c c' : Cycle} {id : Nat} {made : List Event}
  {ends : List (Target × InvocationEnd)}

/-- Another invocation ends. -/
theorem OnCourse.append {φ : CyclePhase} (h : OnCourse s id made ends φ)
    (more : List (Target × InvocationEnd)) : OnCourse s id made (ends ++ more) φ := by
  have kept {l : List CollectorModule} (accomplished : Accomplished l ends) :
      Accomplished l (ends ++ more) := by
    intro t ht
    obtain ⟨e, he, regular⟩ := accomplished t ht
    exact ⟨e, List.mem_append_left _ he, regular⟩
  cases h with
  | waits outside none => exact .waits outside none
  | between done modules told accomplished => exact .between done modules told (kept accomplished)
  | visits visit phase =>
    exact .visits ⟨visit.modules, visit.collectors, visit.stops, kept visit.accomplished⟩ phase
  | leaves visit whole =>
    exact .leaves ⟨visit.modules, visit.collectors, visit.stops, kept visit.accomplished⟩ whole
  | failed visit =>
    exact .failed ⟨visit.modules, visit.collectors, visit.stops, kept visit.accomplished⟩
  | finished told => exact .finished told

/-- A cycle that waits has made no stop. -/
theorem OnCourse.none_of_waits {φ : CyclePhase} (h : OnCourse s id made ends φ)
    (outside : φ = .arriving ∨ φ = .queued) : made = [] := by
  cases h with
  | waits _ none => exact none
  | visits visit phase => rcases outside with rfl | rfl <;> cases phase
  | _ => rcases outside with outside | outside <;> cases outside

/-- Where a cycle is between two modules. -/
theorem OnCourse.visiting {rest : List CollectorModule}
    (h : OnCourse s id made ends (.visiting rest)) :
    ∃ done, s.registry.modules = done ++ rest ∧ made = itinerary id done ∧
      Accomplished done ends := by
  cases h with
  | waits outside => rcases outside with outside | outside <;> cases outside
  | between done modules told accomplished => exact ⟨done, modules, told, accomplished⟩
  | visits visit phase => cases phase

/-- Where a cycle is within a visit. -/
theorem OnCourse.within {φ : CyclePhase} {m : CollectorModule} {left : List Collector}
    {rest : List CollectorModule} (h : OnCourse s id made ends φ) (phase : Within m left rest φ) :
    ∃ done begun, Visit s id made ends done m begun left rest [] := by
  cases h with
  | waits outside => rcases outside with rfl | rfl <;> cases phase
  | visits visit phase' =>
    cases phase with
    | opening _ all =>
      cases phase' with
      | opening _ all' => exact ⟨_, _, all ▸ all' ▸ visit⟩
    | joining _ none =>
      cases phase' with
      | joining _ none' => exact ⟨_, _, none ▸ none' ▸ visit⟩
    | _ => cases phase'; exact ⟨_, _, visit⟩
  | _ => cases phase

/-- Where a cycle is at the end of a visit. -/
theorem OnCourse.closing {m : CollectorModule} {failure : Option CycleError}
    {rest : List CollectorModule} {until_ : Nat}
    (h : OnCourse s id made ends (.closing m failure rest until_)) :
    ∃ done begun left, Visit s id made ends done m begun left rest (afterEvents id m) ∧
      (failure = none → left = []) := by
  cases h with
  | waits outside => rcases outside with outside | outside <;> cases outside
  | visits visit phase => cases phase
  | leaves visit whole => exact ⟨_, _, _, visit, whole⟩

/-- A cycle that has returned a report has made all stops. -/
theorem OnCourse.returned {r : CycleReport} (h : OnCourse s id made ends (.ended (.ok r))) :
    made = itinerary id s.registry.modules := by
  cases h with
  | waits outside => rcases outside with outside | outside <;> cases outside
  | visits visit phase => cases phase
  | finished made => exact made

/-- A cycle that has failed has come to a module and no further. -/
theorem OnCourse.broken {e : CycleError} (h : OnCourse s id made ends (.ended (.error e))) :
    ∃ done m begun left rest, Visit s id made ends done m begun left rest (afterEvents id m) := by
  cases h with
  | waits outside => rcases outside with outside | outside <;> cases outside
  | visits visit phase => cases phase
  | failed visit => exact ⟨_, _, _, _, _, visit⟩

/-! ### What each kind of turn makes of the course

A turn begins a visit, opens it with a hook, spawns an invocation in it, comes to its end, or goes
on to the module after it.  The lemmas below say for each of these what the stops are then. -/

/-- A visit begins, before any collector. -/
theorem visit_of_visiting {done rest : List CollectorModule} {m : CollectorModule}
    (modules : s.registry.modules = done ++ m :: rest)
    (told : made = itinerary id done ++ beforeEvents id m) (accomplished : Accomplished done ends) :
    Visit s id made ends done m [] m.collectors rest [] :=
  ⟨modules, rfl, by rw [told]; simp [spawnEvents, CollectorModule.targets], accomplished⟩

/-- An invocation is spawned for the first collector that is left. -/
theorem Visit.spawn {done rest : List CollectorModule} {m : CollectorModule}
    {begun left : List Collector} {k : Collector}
    (h : Visit s id made ends done m begun (k :: left) rest []) :
    Visit s id (made ++ [.spawned id ⟨m.name, k⟩]) ends done m (begun ++ [k]) left rest [] where
  modules := h.modules
  collectors := by rw [h.collectors, List.append_assoc, List.singleton_append]
  stops := by rw [h.stops, spawnEvents_append]; simp only [List.append_nil, List.append_assoc]
  accomplished := h.accomplished

/-- A visit ends. -/
theorem Visit.close {done rest : List CollectorModule} {m : CollectorModule}
    {begun left : List Collector} (h : Visit s id made ends done m begun left rest []) :
    Visit s id (made ++ afterEvents id m) ends done m begun left rest (afterEvents id m) :=
  ⟨h.modules, h.collectors, by rw [h.stops, List.append_nil], h.accomplished⟩

section Turns

variable {m : CollectorModule} {left : List Collector} {rest : List CollectorModule}

/-- A module with hooks is opened. -/
theorem OnCourse.open (h : OnCourse s id made ends (.visiting (m :: rest))) {hooks : Hooks}
    (has : m.hooks = some hooks) (until_ : Nat) :
    OnCourse s id (made ++ [.before id m.name]) ends (.opening m rest until_) := by
  obtain ⟨done, modules, told, accomplished⟩ := h.visiting
  refine .visits (visit_of_visiting modules ?_ accomplished) (.opening until_ rfl)
  rw [told, beforeEvents, has]
  rfl

/-- The collectors of a module have their turn, after its hook if it has one. -/
theorem OnCourse.visit (h : OnCourse s id made ends c.phase)
    (phase : c.phase = .visiting (m :: rest) ∧ m.hooks = none ∧ w.isCalledOff s c.token = false ∨
      ∃ t, c.phase = .opening m rest t ∧ t ≤ w.now) :
    ∃ done begun, Visit s id made ends done m begun m.collectors rest [] := by
  rcases phase with ⟨phase, hooks, -⟩ | ⟨t, phase, -⟩
  · rw [phase] at h
    obtain ⟨done, modules, told, accomplished⟩ := h.visiting
    refine ⟨done, [], visit_of_visiting modules ?_ accomplished⟩
    rw [told, beforeEvents, hooks]
    exact (List.append_nil _).symm
  · rw [phase] at h
    exact h.within (.opening t rfl)

/-- In either mode an invocation is spawned. -/
theorem OnCourse.spawn {k : Collector} {φ : CyclePhase} (h : OnCourse s id made ends c.phase)
    (phase : c.phase = .spawning m (k :: left) rest ∧ φ = .spawning m left rest ∨
      c.phase = .starting m (k :: left) rest ∧ φ = .awaiting m left rest) :
    OnCourse s id (made ++ [.spawned id ⟨m.name, k⟩]) ends φ := by
  rcases phase with ⟨phase, rfl⟩ | ⟨phase, rfl⟩
  · rw [phase] at h
    obtain ⟨done, begun, visit⟩ := h.within .spawning
    exact .visits visit.spawn .spawning
  · rw [phase] at h
    obtain ⟨done, begun, visit⟩ := h.within .starting
    exact .visits visit.spawn .awaiting

/-- A module is left through the hook after the collectors, when they are done or one of them has
failed. -/
theorem OnCourse.close {failure : Option CycleError} {arrived : List (Target × InvocationEnd)}
    (h : OnCourse s id made ends c.phase)
    (phase : (c.phase = .joining m failure rest ∧ w.invocationsOf c.id = [] ∧ c.arrived = [] ∨
          c.phase = .starting m [] rest ∧ failure = none) ∧ arrived = c.arrived ∨
      ∃ left t e, c.phase = .awaiting m left rest ∧ c.arrived = (t, .fatal e) :: arrived ∧
        failure = some e) (until_ : Nat) :
    OnCourse s id (made ++ afterEvents id m) ends (.closing m failure rest until_) := by
  rcases phase with ⟨⟨phase, -⟩ | ⟨phase, -⟩, -⟩ | ⟨left, t, e, phase, -, failure⟩ <;>
    rw [phase] at h
  · obtain ⟨done, begun, visit⟩ := h.within (.joining _ rfl)
    exact .leaves visit.close fun _ ↦ rfl
  · obtain ⟨done, begun, visit⟩ := h.within .starting
    exact .leaves visit.close fun _ ↦ rfl
  · obtain ⟨done, begun, visit⟩ := h.within .awaiting
    exact .leaves visit.close fun none ↦ by rw [failure] at none; cases none

/-- A module whose collectors have ended well has been visited, and the next one has its turn. -/
theorem OnCourse.goOn {until_ : Nat} (h : OnCourse s id made ends (.closing m none rest until_))
    (well : ∀ t ∈ made.filterMap (·.start? id), ∃ e, (t, e) ∈ ends ∧ e.isRegular = true) :
    OnCourse s id made ends (.visiting rest) := by
  obtain ⟨done, begun, left, visit, whole⟩ := h.closing
  obtain rfl := whole rfl
  have all : m.collectors = begun := by rw [visit.collectors, List.append_nil]
  have told : made = itinerary id (done ++ [m]) := by
    rw [visit.stops, itinerary_append, itinerary_singleton, all]
    simp only [List.append_assoc]
  have modules : s.registry.modules = (done ++ [m]) ++ rest := by
    rw [visit.modules, List.append_assoc, List.singleton_append]
  refine .between (done ++ [m]) modules told fun t ht ↦ well t ?_
  rw [told, start?_itinerary]
  exact ht

end Turns

/-- **A turn of a cycle that is not called off** keeps it on course. When it goes on to the next
module, the collectors of this one must have ended well. -/
theorem Stride.onCourse {es : List Event} {new : List Invocation} (h : Stride s w c c' es new)
    (on : w.isCalledOff s c.token = false) (course : OnCourse s c.id made ends c.phase)
    (well : c.phase.isCalm = true → c.phase.ahead s ≠ none →
      ∀ t ∈ made.filterMap (·.start? c.id), ∃ e, (t, e) ∈ ends ∧ e.isRegular = true) :
    OnCourse s c.id (made ++ es.filter (·.isStopOf c.id)) ends c'.phase := by
  have quiet {φ : CyclePhase} (h : OnCourse s c.id made ends φ) :
      OnCourse s c.id (made ++ []) ends φ := by
    rw [List.append_nil]
    exact h
  -- The early exits and the skips need a cancelled token.
  have on_off (off : w.isCalledOff s c.token = true) {p : Prop} : p := by rw [on] at off; cases off
  cases h with
  | endsEarly phase off | skipsModule phase off | skips φ phase off => exact on_off off
  | arrives phase =>
    rw [phase] at course
    exact quiet (.waits (.inr rfl) (course.none_of_waits (.inl rfl)))
  | passes phase =>
    rw [phase] at course
    exact quiet (.between [] rfl (course.none_of_waits (.inr rfl)) fun t ht ↦ nomatch ht)
  | @opens m rest h hooks phase =>
    have stop : [Event.before c.id m.name].filter (·.isStopOf c.id) = [.before c.id m.name] := by
      simp [Event.isStopOf]
    rw [phase] at course
    rw [stop]
    exact course.open hooks _
  | unfolds φ phase after =>
    obtain ⟨done, begun, visit⟩ := course.visit phase
    rcases after with rfl | rfl
    · exact quiet (.visits visit .spawning)
    · exact quiet (.visits visit .starting)
  | @spawns m k left rest φ pooled phase =>
    have stop : [Event.spawned c.id ⟨m.name, k⟩].filter (·.isStopOf c.id) =
        [.spawned c.id ⟨m.name, k⟩] := by simp [Event.isStopOf]
    rw [stop]
    exact course.spawn phase
  | gathers phase =>
    rw [phase] at course
    obtain ⟨done, begun, visit⟩ := course.within .spawning
    exact quiet (.visits visit (.joining none rfl))
  | enters phase => exact quiet course
  | fails phase =>
    rw [phase] at course
    obtain ⟨done, begun, visit⟩ := course.within (.joining _ rfl)
    exact quiet (.visits visit (.joining _ rfl))
  | takes phase =>
    rw [phase] at course
    obtain ⟨done, begun, visit⟩ := course.within .awaiting
    exact quiet (.visits visit .starting)
  | closes arrived until_ phase =>
    rw [filter_afterEvents]
    exact course.close phase until_
  | goesOn phase =>
    have well := well (by rw [phase]; rfl) (by rw [phase]; exact Option.some_ne_none _)
    rw [phase] at course
    exact quiet (course.goOn well)
  | errs phase =>
    rw [phase] at course
    obtain ⟨done, begun, left, visit, -⟩ := course.closing
    exact quiet (.failed visit)
  | ends phase =>
    rw [phase] at course
    obtain ⟨done, modules, told, -⟩ := course.visiting
    rw [List.append_nil] at modules
    exact quiet (.finished (by rw [modules]; exact told))

end Course

/-- Every cycle that is not called off is on course. -/
def OnTrack (s : SchedulerSetup) (w : Scheduler) : Prop :=
  ∀ id c, w.cycle? id = some c → w.isCalledOff s c.token = false →
    OnCourse s id (w.stops id) (w.ends id) c.phase

section Runs

variable {s : SchedulerSetup} {metrics : SelfMetrics} {l : List (Passage Scheduler Move)}
  {w w' : Scheduler} {m : Move}

/-- What is told is about cycles that have a number. -/
theorem cycle_lt_of_told (h : Trail (move s) (start s metrics) l w) :
    ∀ e ∈ w.told, e.cycle < w.next := by
  induction h with
  | start => exact fun _ he ↦ nomatch he
  | @move l w w' run m step ih =>
    intro e he
    have onward := next_le_move step
    obtain ⟨es, told, owned⟩ := told_of_move step
    rw [told] at he
    rcases List.mem_append.mp he with he | he
    · exact Nat.lt_of_lt_of_le (ih e he) onward
    · exact Nat.lt_of_lt_of_le
        (owner?_lt (invariant_of_trail run).numbered step (owned e he)) onward

/-- A cycle that has no number before a move makes no stop in it. -/
theorem stops_of_move_of_le (h : Trail (move s) (start s metrics) l w)
    (e : move s m w = some w') {id : Nat} (hid : w.next ≤ id) : w'.stops id = [] := by
  have other : w.owner? m ≠ some id := fun own ↦
    Nat.not_lt.mpr hid (owner?_lt (invariant_of_trail h).numbered e own)
  rw [stops_of_ne e other]
  refine List.filter_eq_nil_iff.mpr fun x hx stop ↦ ?_
  have lt := cycle_lt_of_told h x hx
  rw [Event.cycle_of_isStopOf stop] at lt
  omega

/-- In a calm cycle all invocations are gone. -/
theorem Governed.gone_of_isCalm (h : Governed s w) {id : Nat} {c : Cycle}
    (hc : w.cycle? id = some c) (calm : c.phase.isCalm = true) :
    (w.starts id).Perm ((w.ends id).map Prod.fst) := by
  have crew := h.recorded.crew id
  rw [((h.settled id c hc).calm calm).1, List.map_nil, List.append_nil] at crew
  exact crew

/-- In a calm cycle that has not failed no invocation has. -/
theorem Governed.well_of_isCalm (h : Governed s w) {id : Nat} {c : Cycle}
    (hc : w.cycle? id = some c) (calm : c.phase.isCalm = true) (going : c.phase.ahead s ≠ none) :
    ∀ a ∈ w.ends id, a.2.isRegular = true := by
  obtain ⟨later, ahead⟩ := Option.ne_none_iff_exists'.mp going
  have g := (h.inv.cycles id c hc).going later ahead
  obtain ⟨entered, ends, regular, -⟩ := g.entered
  rw [(g.calm calm).2, List.append_nil] at ends
  rw [ends]
  exact regular

/-- In a cycle without failure and without invocations, all that were spawned have ended well. -/
theorem Governed.ended_well (h : Governed s w) {id : Nat} {c : Cycle} (hc : w.cycle? id = some c)
    (calm : c.phase.isCalm = true) (going : c.phase.ahead s ≠ none) :
    ∀ t ∈ w.starts id, ∃ e, (t, e) ∈ w.ends id ∧ e.isRegular = true := by
  intro t ht
  obtain ⟨⟨t', e⟩, mem, rfl⟩ := List.mem_map.mp ((h.gone_of_isCalm hc calm).mem_iff.mp ht)
  exact ⟨e, mem, h.well_of_isCalm hc calm going (t', e) mem⟩

/-- **Every move keeps the cycles on course.** -/
theorem OnTrack.move (h : OnTrack s w) (run : Trail (move s) (start s metrics) l w)
    (e : Scheduler.move s m w = some w') : OnTrack s w' := by
  have governed := governed_of_trail run
  intro id c' hc' on'
  have on := not_isCalledOff_of_move e on'
  cases fate_of_move governed.inv.numbered e hc' with
  | stays c more there phase token ends stops =>
    rw [phase, ends, stops]
    exact (h id c there (token ▸ on)).append more
  | isCalled new phase =>
    rw [stops_of_move_of_le run e (Nat.le_of_eq new.symm)]
    exact .waits (.inl phase) rfl
  | turns c es new own there stride yields ends =>
    obtain rfl : c.id = id := Keyed.key_of_find? there
    have on := stride.token_eq ▸ on
    rw [stops_of_told yields.told, ends]
    refine stride.onCourse on (h c.id c there on) fun calm going t ht ↦ ?_
    rw [← starts_eq_stops] at ht
    exact governed.ended_well there calm going t ht

theorem onTrack_of_trail (h : Trail (move s) (start s metrics) l w) : OnTrack s w := by
  induction h with
  | start => exact fun _ _ hc ↦ nomatch hc
  | move run m e ih => exact ih.move run e

theorem result?_of_ended {id : Nat} {c : Cycle} {r : Except CycleError CycleReport}
    (there : w.cycle? id = some c) (phase : c.phase = .ended r) : w.result? id = some r := by
  show (w.cycle? id).bind _ = some r
  rw [there, Option.bind_some, phase]

/-- The turn in which a cycle has returned. -/
theorem exists_last_turn {id : Nat} {c : Cycle} (run : Trail (move s) (start s metrics) l w)
    (there : w.cycle? id = some c) {r : Except CycleError CycleReport}
    (phase : c.phase = .ended r) :
    ∃ before v u after d c' es new, l = before ++ ⟨v, .turn (.cycle id), u⟩ :: after ∧
      Trail (move s) (start s metrics) before v ∧ v.cycle? id = some d ∧ Stride s v d c' es new ∧
        c'.phase = .ended r := by
  induction run generalizing c with
  | start => cases there
  | @move l v w run m e ih =>
    cases fate_of_move (invariant_of_trail run).numbered e there with
    | stays d more before same =>
      obtain ⟨first, u, u', rest, d', c', es, new, parts, found⟩ :=
        ih before (same.symm.trans phase)
      exact ⟨first, u, u', rest ++ [⟨v, m, w⟩], d', c', es, new, by rw [parts]; simp, found⟩
    | isCalled new arriving =>
      rw [phase] at arriving
      cases arriving
    | turns d es new own before stride =>
      subst own
      exact ⟨l, v, w, [], d, c, es, new, rfl, run, before, stride, phase⟩

/-- A cycle that has returned a report without being called off has spawned an invocation for every
collector. -/
theorem starts_of_returned {id : Nat} {c : Cycle} {r : CycleReport}
    (run : Trail (Scheduler.move s) (start s metrics) l w) (there : w.cycle? id = some c)
    (on : w.isCalledOff s c.token = false) (phase : c.phase = .ended (.ok r)) :
    w.starts id = s.registry.targets := by
  have course := onTrack_of_trail run id c there on
  rw [phase] at course
  rw [starts_eq_stops, course.returned, start?_itinerary]
  rfl

end Runs

/-! ## Failures

A failure is passed on from phase to phase, and comes from the end that the cycle has entered. -/

/-- The failure of a cycle so far. -/
def CyclePhase.failure? : CyclePhase → Option CycleError
  | joining _ failure _ | closing _ failure _ _ => failure
  | ended (.error e) => some e
  | _ => none

/-- Every failure of a cycle is a fatal end of one of its invocations. -/
def Blamed (w : Scheduler) : Prop :=
  ∀ id c e, w.cycle? id = some c → c.phase.failure? = some e → ∃ t, (t, .fatal e) ∈ w.ends id

section Failures

variable {s : SchedulerSetup} {w w' : Scheduler} {m : Move}

/-- A turn of a cycle fails only with a fatal end that it has heard of. -/
theorem Stride.failure {c c' : Cycle} {es : List Event} {new : List Invocation}
    (h : Stride s w c c' es new) {e : CycleError} (failed : c'.phase.failure? = some e) :
    c.phase.failure? = some e ∨ ∃ t, (t, .fatal e) ∈ c.arrived := by
  cases h with
  | enters phase => exact .inl failed
  | fails phase first =>
    cases failed
    exact .inr ⟨_, by rw [first]; exact List.mem_cons_self ..⟩
  | closes arrived until_ phase =>
    rcases phase with ⟨⟨phase, -⟩ | ⟨-, none⟩, -⟩ | ⟨left, t, e', -, first, failure⟩
    · exact .inl (by rw [phase]; exact failed)
    · rw [none] at failed
      cases failed
    · rw [failure] at failed
      cases failed
      exact .inr ⟨t, by rw [first]; exact List.mem_cons_self ..⟩
  | errs phase => exact .inl (by rw [phase]; exact failed)
  | unfolds φ phase after => rcases after with rfl | rfl <;> cases failed
  | skips φ phase | spawns φ pooled phase => rcases phase with ⟨-, rfl⟩ | ⟨-, rfl⟩ <;> cases failed
  | _ => cases failed

/-- **Every move keeps failures blamed.** -/
theorem Blamed.move (h : Blamed w) (inv : Invariant s w) (e : Scheduler.move s m w = some w') :
    Blamed w' := by
  intro id c' err hc' failed
  cases fate_of_move inv.numbered e hc' with
  | stays c more there phase token ends =>
    obtain ⟨t, ht⟩ := h id c err there (phase ▸ failed)
    exact ⟨t, by rw [ends]; exact List.mem_append_left _ ht⟩
  | isCalled new phase =>
    rw [phase] at failed
    cases failed
  | turns c es new own there stride yields ends =>
    rw [ends]
    rcases stride.failure failed with before | ⟨t, heard⟩
    · exact h id c err there before
    · exact ⟨t, (inv.cycles id c there).heard _ heard⟩

theorem blamed_of_trail {metrics : SelfMetrics} {l : List (Passage Scheduler Move)}
    (h : Trail (Scheduler.move s) (start s metrics) l w) : Blamed w := by
  induction h with
  | start => exact fun _ _ _ hc ↦ nomatch hc
  | move run m e ih => exact ih.move (invariant_of_trail run) e

end Failures

end Scheduler

end MetricsAgent
