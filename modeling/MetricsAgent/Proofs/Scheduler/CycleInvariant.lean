import MetricsAgent.Proofs.Scheduler.Advance

/-!
# Every collector of a cycle is accounted for

At any moment a collector of the registry is ahead of the cycle, on its way, ended, or skipped, and
it is just one of these.  The ends that the cycle has entered make up its report; the others wait in
`arrived`.  `Scheduler.Going` says so for a cycle that has not failed, and `Scheduler.Done` for one
that is over.

`Scheduler.CycleInvariant` puts the two together.  The turns of the cycle keep it
(`CycleInvariant.advance`), and so do the turns of its invocations (`CycleInvariant.leave`).

It is stated for one cycle, with its invocations, its ends and its token as parameters, and knows
nothing of a scheduler.  `Proofs.Scheduler.Invariant` supplies these for each cycle, and shows that
a move changes them for one cycle only.

That a collector is just one of the four is said with lists: the collectors ahead, those of the
invocations, the ended ones and the skipped ones, put one behind the other, are the collectors of
the registry in another order.  Collectors with the same name are therefore no problem, and each
move takes a part of one list to another one (`perm_leave`, `perm_skip`, `perm_spawn`).
-/

set_option autoImplicit false

namespace MetricsAgent

/-- Whether an end has a place in a report: it is neither fatal nor due to another end that is. -/
def InvocationEnd.isRegular : InvocationEnd → Bool
  | .fatal _ | .aborted => false
  | _ => true

namespace Scheduler

/-! ## Reports

The report of a list of ends is made by entering them one by one.  What was skipped is a figure of
its own that entering does not change. -/

/-- The report of ended collectors. -/
def reportOf (l : List (Target × InvocationEnd)) : CycleReport :=
  l.foldl (fun r a ↦ r.record a.2) .new

theorem reportOf_append (l : List (Target × InvocationEnd)) (a : Target × InvocationEnd) :
    reportOf (l ++ [a]) = (reportOf l).record a.2 := by
  simp [reportOf]

theorem record_outcome (r : CycleReport) (e : InvocationEnd) :
    (r.record e).outcome = r.outcome := by
  cases e <;> rfl

theorem record_skipped (r : CycleReport) (e : InvocationEnd) :
    (r.record e).skipped = r.skipped := by
  cases e <;> rfl

/-- What was skipped has nothing to do with what is entered. -/
theorem record_with_skipped (r : CycleReport) (n : Nat) (e : InvocationEnd) :
    { r with skipped := n }.record e = { r.record e with skipped := n } := by
  cases e <;> rfl

theorem reportOf_outcome (l : List (Target × InvocationEnd)) :
    (reportOf l).outcome = .completed := by
  have kept : ∀ r : CycleReport, (l.foldl (fun r a ↦ r.record a.2) r).outcome = r.outcome := by
    induction l with
    | nil => exact fun _ ↦ rfl
    | cons a l ih => exact fun r ↦ (ih _).trans (record_outcome r a.2)
  exact kept .new

/-! ## Cycles that go on

Of a cycle that has failed nothing is claimed but that it hears of ends only, and that its
invocations have its token. -/

/-- What holds of a cycle that has not failed, with the collectors `later` ahead, the invocations
`running` on their way, and the collectors `ends` ended. -/
structure Going (s : SchedulerSetup) (c : Cycle) (later : List Target) (running : List Invocation)
    (ends : List (Target × InvocationEnd)) (fired : Bool) : Prop where
  /-- The report is that of the ends that were entered, and what was skipped. -/
  entered : ∃ entered, ends = entered ++ c.arrived ∧ (∀ a ∈ entered, a.2.isRegular = true) ∧
    c.report = { reportOf entered with skipped := c.report.skipped }
  /-- No invocation was told to stop. -/
  unharmed : (∀ a ∈ c.arrived, a.2 ≠ .aborted) ∧ ∀ i ∈ running, i.aborting = false
  /-- Every collector is ahead, on its way, ended or skipped. -/
  count : ∃ skipped : List Target, skipped.length = c.report.skipped ∧
    (later ++ running.map (·.target) ++ ends.map Prod.fst ++ skipped).Perm s.registry.targets
  calm : c.phase.isCalm = true → running = [] ∧ c.arrived = []
  single : c.phase.isAwaiting = true → running.length + c.arrived.length = 1
  /-- Without a fired token, nothing is skipped or cancelled. -/
  fired : c.report.skipped ≠ 0 ∨ (∃ a ∈ ends, a.2 = .cancelled) → fired = true

/-- What holds of a cycle that is over with a report. -/
structure Done (s : SchedulerSetup) (r : CycleReport) (ends : List (Target × InvocationEnd)) :
    Prop where
  regular : ∀ a ∈ ends, a.2.isRegular = true
  /-- The report is that of the ends. -/
  report : r = { reportOf ends with outcome := r.outcome, skipped := r.skipped }
  /-- Every collector is ended or skipped. -/
  count : ∃ skipped : List Target, skipped.length = r.skipped ∧
    (ends.map Prod.fst ++ skipped).Perm s.registry.targets
  completed : r.outcome = .completed → r.skipped = 0 ∧ ∀ a ∈ ends, a.2 ≠ .cancelled

/-- What holds of every cycle. -/
structure CycleInvariant (s : SchedulerSetup) (c : Cycle) (running : List Invocation)
    (ends : List (Target × InvocationEnd)) (fired : Bool) : Prop where
  /-- A cycle hears of nothing but ends. -/
  heard : ∀ a ∈ c.arrived, a ∈ ends
  tokens : ∀ i ∈ running, i.token = c.token
  going : ∀ later, c.phase.ahead s = some later → Going s c later running ends fired
  done : ∀ r, c.phase = .ended (.ok r) → running = [] ∧ Done s r ends

theorem cycleInvariant_arriving (s : SchedulerSetup) (id token : Nat) (fired : Bool) :
    CycleInvariant s ⟨id, token, .arriving, .new, []⟩ [] [] fired where
  heard := by simp
  tokens := by simp
  going later h := by
    obtain rfl : s.registry.targets = later := Option.some.inj h
    exact
      { entered := ⟨[], rfl, by simp, rfl⟩
        unharmed := by simp
        count := ⟨[], rfl, by simp⟩
        calm := fun _ ↦ ⟨rfl, rfl⟩
        single := fun h ↦ nomatch h
        fired := by simp [CycleReport.new] }
  done _ h := nomatch h

section Changes

variable {s : SchedulerSetup} {c : Cycle} {running : List Invocation}
  {ends : List (Target × InvocationEnd)} {fired : Bool}

/-- Tokens may fire. -/
theorem CycleInvariant.of_fired {fired' : Bool} (h : CycleInvariant s c running ends fired)
    (e : fired = true → fired' = true) : CycleInvariant s c running ends fired' where
  heard := h.heard
  tokens := h.tokens
  going later hl :=
    let g := h.going later hl
    ⟨g.entered, g.unharmed, g.count, g.calm, g.single, fun hf ↦ e (g.fired hf)⟩
  done := h.done

/-- Calls of collectors may begin. -/
theorem CycleInvariant.of_map {g : Invocation → Invocation}
    (h : CycleInvariant s c running ends fired) (token : ∀ i, (g i).token = i.token)
    (target : ∀ i, (g i).target = i.target) (aborting : ∀ i, (g i).aborting = i.aborting) :
    CycleInvariant s c (running.map g) ends fired where
  heard := h.heard
  tokens := by
    intro i hi
    obtain ⟨j, hj, rfl⟩ := List.mem_map.mp hi
    rw [token, h.tokens j hj]
  going later hl :=
    { entered := (h.going later hl).entered
      unharmed := by
        refine ⟨(h.going later hl).unharmed.1, fun i hi ↦ ?_⟩
        obtain ⟨j, hj, rfl⟩ := List.mem_map.mp hi
        rw [aborting, (h.going later hl).unharmed.2 j hj]
      count := by
        have same : (running.map g).map (·.target) = running.map (·.target) := by
          simp [target]
        rw [same]
        exact (h.going later hl).count
      calm := fun hc ↦ by
        obtain ⟨hr, ha⟩ := (h.going later hl).calm hc
        exact ⟨by rw [hr]; rfl, ha⟩
      single := fun hs ↦ by rw [List.length_map]; exact (h.going later hl).single hs
      fired := (h.going later hl).fired }
  done r hr := by
    obtain ⟨hrun, hdone⟩ := h.done r hr
    exact ⟨by rw [hrun]; rfl, hdone⟩

/-- A collector that was on its way is ended. -/
theorem perm_leave {later l l' ended skipped : List Target} {t : Target} (h : l.Perm (t :: l')) :
    (later ++ l' ++ (ended ++ [t]) ++ skipped).Perm (later ++ l ++ ended ++ skipped) := by
  have moved : (l' ++ (ended ++ [t])).Perm (l ++ ended) := by
    rw [← List.append_assoc]
    refine (List.perm_append_singleton t (l' ++ ended)).trans ?_
    rw [← List.cons_append]
    exact h.symm.append_right ended
  have := (moved.append_left later).append_right skipped
  simpa only [List.append_assoc] using this

/-- Collectors that were ahead are skipped. -/
theorem perm_skip {l later running ended skipped : List Target} :
    (later ++ running ++ ended ++ (skipped ++ l)).Perm
    (l ++ later ++ running ++ ended ++ skipped) := by
  have :
      (later ++ running ++ ended ++ skipped ++ l).Perm
      (l ++ (later ++ running ++ ended ++ skipped)) :=
    List.perm_append_comm
  simpa only [List.append_assoc] using this

/-- A collector that was ahead is on its way. -/
theorem perm_spawn {t : Target} {later running ended skipped : List Target} :
    (later ++ (running ++ [t]) ++ ended ++ skipped).Perm
    (t :: later ++ running ++ ended ++ skipped) := by
  have : (later ++ running ++ t :: (ended ++ skipped)).Perm
      (t :: (later ++ running ++ (ended ++ skipped))) := List.perm_middle
  simpa only [List.append_assoc, List.cons_append, List.nil_append] using this

/-- **An invocation leaves.** -/
theorem CycleInvariant.leave (h : CycleInvariant s c running ends fired) {i : Invocation}
    {running' : List Invocation} {e : InvocationEnd} {fired' : Bool}
    (perm : running.Perm (i :: running')) (aborted : e = .aborted ↔ i.aborting = true)
    (mono : fired = true → fired' = true) (cancelled : e = .cancelled → fired' = true) :
    CycleInvariant s { c with arrived := c.arrived ++ [(i.target, e)] } running'
      (ends ++ [(i.target, e)])
      fired' := by
  have mem : i ∈ running := perm.mem_iff.mpr (List.mem_cons_self ..)
  have sub : ∀ j ∈ running', j ∈ running := fun j hj ↦ perm.mem_iff.mpr (List.mem_cons_of_mem i hj)
  refine ⟨?_, fun j hj ↦ h.tokens j (sub j hj), ?_, ?_⟩
  · intro a ha
    rcases List.mem_append.mp ha with ha | ha
    · exact List.mem_append_left _ (h.heard a ha)
    · exact List.mem_append_right _ ha
  · intro later hl
    have g := h.going later hl
    obtain ⟨entered, hends, hregular, hreport⟩ := g.entered
    obtain ⟨skipped, hskipped, hcount⟩ := g.count
    exact
      { entered := ⟨entered, by rw [hends, List.append_assoc], hregular, hreport⟩
        unharmed := by
          refine ⟨fun a ha ↦ ?_, fun j hj ↦ g.unharmed.2 j (sub j hj)⟩
          rcases List.mem_append.mp ha with ha | ha
          · exact g.unharmed.1 a ha
          · rw [List.mem_singleton.mp ha]
            intro he
            -- An invocation that nobody aborts does not end aborted.
            rw [g.unharmed.2 i mem] at aborted
            exact absurd (aborted.mp he) Bool.false_ne_true
        count := by
          refine ⟨skipped, hskipped, List.Perm.trans ?_ hcount⟩
          rw [List.map_append, List.map_singleton]
          exact perm_leave (perm.map (·.target))
        calm := fun hc ↦ by
          rw [(g.calm hc).1] at mem
          exact absurd mem List.not_mem_nil
        single := fun hs ↦ by
          have hlen := perm.length_eq
          have hone := g.single hs
          change running'.length + (c.arrived ++ [(i.target, e)]).length = 1
          rw [List.length_cons] at hlen
          rw [List.length_append, List.length_singleton]
          omega
        fired := by
          rintro (hsk | ⟨a, ha, hc⟩)
          · exact mono (g.fired (.inl hsk))
          · rcases List.mem_append.mp ha with ha | ha
            · exact mono (g.fired (.inr ⟨a, ha, hc⟩))
            · rw [List.mem_singleton.mp ha] at hc
              exact cancelled hc }
  · intro r hr
    rw [(h.done r hr).1] at mem
    exact absurd mem List.not_mem_nil

end Changes

/-! ## Turns of the cycle

There is one lemma about `Going` for each kind of turn that goes on or ends with a report, and the
last theorems go through the kinds. -/

section Turns

variable {s : SchedulerSetup} {w w' : Scheduler} {c c' : Cycle}

theorem invocationsOf_congr (h : w'.invocations = w.invocations) (id : Nat) :
    w'.invocationsOf id = w.invocationsOf id := by
  rw [invocationsOf, h, invocationsOf]

/-- Changes that leave every invocation with its cycle. -/
theorem invocationsOf_map {g : Invocation → Invocation} (cycle : ∀ i, (g i).cycle = i.cycle)
    (h : w'.invocations = w.invocations.map g) (id : Nat) :
    w'.invocationsOf id = (w.invocationsOf id).map g := by
  rw [invocationsOf, h, List.filter_map, invocationsOf]
  congr 2
  funext i
  simp [cycle]

/-- The invocations of a cycle after one is spawned. -/
theorem invocationsOf_of_append {i : Invocation}
    (invocations : w'.invocations = w.invocations ++ [i]) (d : Nat) :
    w'.invocationsOf d = w.invocationsOf d ++ if i.cycle = d then [i] else [] := by
  rw [invocationsOf, invocations, List.filter_append, invocationsOf]
  by_cases own : i.cycle = d <;> simp [own]

theorem Going.pass {later : List Target} {running : List Invocation}
    {ends : List (Target × InvocationEnd)} {fired : Bool} {φ : CyclePhase}
    (g : Going s c later running ends fired)
    (calm : φ.isCalm = true → c.phase.isCalm = true ∨ running = [] ∧ c.arrived = [])
    (single : φ.isAwaiting = false) : Going s { c with phase := φ } later running ends fired where
  entered := g.entered
  unharmed := g.unharmed
  count := g.count
  calm hc := by
    rcases calm hc with hcalm | hgone
    · exact g.calm hcalm
    · exact hgone
  single hs := by rw [single] at hs; cases hs
  fired := g.fired

/-- Collectors are skipped. -/
theorem Going.skip {skipped later : List Target} {running : List Invocation}
    {ends : List (Target × InvocationEnd)} {fired : Bool} {φ : CyclePhase}
    (g : Going s c (skipped ++ later) running ends fired) (calm : φ.isCalm = c.phase.isCalm)
    (single : φ.isAwaiting = false) (hfired : fired = true) :
    Going s { c with phase := φ, report := c.report.skip skipped.length } later running
    ends fired where
  entered := by
    obtain ⟨entered, hends, hregular, hreport⟩ := g.entered
    refine ⟨entered, hends, hregular, ?_⟩
    change { c.report with skipped := c.report.skipped + skipped.length } = _
    rw [hreport]
    rfl
  unharmed := g.unharmed
  count := by
    obtain ⟨before, hbefore, hcount⟩ := g.count
    refine ⟨before ++ skipped, ?_, List.Perm.trans ?_ hcount⟩
    · rw [List.length_append, hbefore]
      rfl
    · exact perm_skip
  calm hc := g.calm (calm ▸ hc)
  single hs := by rw [single] at hs; cases hs
  fired _ := hfired

/-- A collector is started. -/
theorem Going.spawn {t : Target} {later : List Target} {running : List Invocation}
    {ends : List (Target × InvocationEnd)} {fired : Bool} {φ : CyclePhase}
    (g : Going s c (t :: later) running ends fired) {i : Invocation} (target : i.target = t)
    (running_ : i.aborting = false) (calm : φ.isCalm = false)
    (single : φ.isAwaiting = true → c.phase.isCalm = true) :
    Going s { c with phase := φ } later (running ++ [i]) ends fired where
  entered := g.entered
  unharmed := by
    refine ⟨g.unharmed.1, fun j hj ↦ ?_⟩
    rcases List.mem_append.mp hj with hj | hj
    · exact g.unharmed.2 j hj
    · rw [List.mem_singleton.mp hj, running_]
  count := by
    obtain ⟨skipped, hskipped, hcount⟩ := g.count
    refine ⟨skipped, hskipped, List.Perm.trans ?_ hcount⟩
    rw [List.map_append, List.map_singleton, target]
    exact perm_spawn
  calm hc := by rw [calm] at hc; cases hc
  single hs := by
    obtain ⟨hrun, harr⟩ := g.calm (single hs)
    rw [hrun]
    change 1 + c.arrived.length = 1
    rw [harr]
    rfl
  fired := g.fired

/-- The end of an invocation is entered. -/
theorem Going.enter {t : Target} {e : InvocationEnd} {arrived : List (Target × InvocationEnd)}
    {later : List Target} {running : List Invocation} {ends : List (Target × InvocationEnd)}
    {fired : Bool} {φ : CyclePhase} (g : Going s c later running ends fired)
    (first : c.arrived = (t, e) :: arrived) (regular : ∀ err, e ≠ .fatal err)
    (calm : φ.isCalm = true → c.phase.isAwaiting = true) (single : φ.isAwaiting = false) :
    Going s { c with phase := φ, report := c.report.record e, arrived := arrived }
    later running ends
      fired where
  entered := by
    obtain ⟨entered, hends, hregular, hreport⟩ := g.entered
    refine ⟨entered ++ [(t, e)], by rw [hends, first, List.append_assoc]; rfl, fun a ha ↦ ?_, ?_⟩
    · rcases List.mem_append.mp ha with ha | ha
      · exact hregular a ha
      · rw [List.mem_singleton.mp ha]
        have hne := g.unharmed.1 (t, e) (by rw [first]; exact List.mem_cons_self ..)
        cases e with
        | fatal err => exact absurd rfl (regular err)
        | aborted => exact absurd rfl hne
        | _ => rfl
    · rw [reportOf_append, ← record_with_skipped]
      change c.report.record e =
        { reportOf entered with skipped := (c.report.record e).skipped }.record e
      rw [record_skipped, ← hreport]
  unharmed := by
    refine ⟨fun a ha ↦ g.unharmed.1 a ?_, g.unharmed.2⟩
    rw [first]
    exact List.mem_cons_of_mem _ ha
  count := by
    obtain ⟨skipped, hskipped, hcount⟩ := g.count
    exact ⟨skipped, by rw [hskipped]; exact (record_skipped _ _).symm, hcount⟩
  calm hc := by
    -- The calm phase follows an awaited collector: it was the only one, and it has just been heard.
    have hone := g.single (calm hc)
    rw [first, List.length_cons] at hone
    have hrun : running.length = 0 := by omega
    have harr : arrived.length = 0 := by omega
    exact ⟨List.length_eq_zero_iff.mp hrun, List.length_eq_zero_iff.mp harr⟩
  single hs := by rw [single] at hs; cases hs
  fired := by
    rintro (hs | hc)
    · exact g.fired (.inl (by rwa [record_skipped] at hs))
    · exact g.fired (.inr hc)

/-- A cycle ends before it has passed the gate, with all collectors skipped. -/
theorem Going.endEarly {running : List Invocation}
    {ends : List (Target × InvocationEnd)} {fired : Bool}
    (g : Going s c s.registry.targets running ends fired) :
    Done s
      { CycleReport.new with outcome := .cancelled, skipped := s.registry.collectorCount }
      ends := by
  have none_ended : ends = [] := by
    obtain ⟨skipped, -, hcount⟩ := g.count
    have hlen := hcount.length_eq
    simp only [List.length_append, List.length_map] at hlen
    exact List.length_eq_zero_iff.mp (by omega)
  subst none_ended
  exact
    { regular := by simp
      report := rfl
      count := ⟨s.registry.targets, s.registry.length_targets, by simp⟩
      completed := fun h ↦ nomatch h }

/-- A cycle ends after the last module. -/
theorem Going.end {running : List Invocation} {ends : List (Target × InvocationEnd)} {fired : Bool}
    (g : Going s c [] running ends fired) (calm : c.phase.isCalm = true) (outcome : CycleOutcome)
    (completed : outcome = .completed → fired = false) :
    Done s { c.report with outcome := outcome } ends := by
  obtain ⟨hrun, harr⟩ := g.calm calm
  obtain ⟨entered, hends, hregular, hreport⟩ := g.entered
  obtain ⟨skipped, hskipped, hcount⟩ := g.count
  rw [harr, List.append_nil] at hends
  subst hends
  refine ⟨hregular, ?_, ⟨skipped, hskipped, ?_⟩, fun ho ↦ ?_⟩
  · change { c.report with outcome := outcome } = _
    rw [hreport]
  · rw [hrun, List.map_nil] at hcount
    simpa using hcount
  · have hnot := completed ho
    constructor
    · refine Classical.byContradiction fun hs ↦ ?_
      rw [g.fired (.inl hs)] at hnot
      cases hnot
    · intro a ha hc
      rw [g.fired (.inr ⟨a, ha, hc⟩)] at hnot
      cases hnot

/-- What a cycle has heard of after a turn, it had heard of before. -/
theorem Advance.mem_arrived (e : Advance s w c w' c') {a : Target × InvocationEnd}
    (ha : a ∈ c'.arrived) : a ∈ c.arrived := by
  cases e with
  | enters φ t e arrived first | fails φ t e arrived first =>
    rw [first]
    exact List.mem_cons_of_mem _ ha
  | _ => exact ha

/-- The invocations of a cycle have its token, also those that it starts or tells to stop. -/
theorem Advance.tokens (e : Advance s w c w' c')
    (h : ∀ i ∈ w.invocationsOf c.id, i.token = c.token) :
    ∀ i ∈ w'.invocationsOf c.id, i.token = c'.token := by
  have stay (same : w'.invocations = w.invocations) :
      ∀ i ∈ w'.invocationsOf c.id, i.token = c.token :=
    invocationsOf_congr same c.id ▸ h
  cases e with
  | spawns φ t later pooled before after calm single unended invocations =>
    intro i hi
    rw [invocationsOf_of_append invocations, if_pos rfl] at hi
    rcases List.mem_append.mp hi with hi | hi
    · exact h i hi
    · rw [List.mem_singleton.mp hi]
  | fails φ t e arrived first ahead unended invocations =>
    rcases invocations with same | told
    · exact stay same
    · intro i hi
      rw [invocationsOf_map (fun i ↦ by split <;> rfl) told] at hi
      obtain ⟨j, hj, rfl⟩ := List.mem_map.mp hi
      rw [← h j hj]
      split <;> rfl
  | passes φ ahead calm single unended same => exact stay same
  | skips φ skipped later before after calm single unended fired same => exact stay same
  | enters φ t e arrived first ahead regular calm single unended same => exact stay same
  | endsEarly r before report fired same => exact stay same
  | endsCancelled before same => exact stay same
  | endsCompleted before fired same => exact stay same
  | errs e before same => exact stay same

section Advance

variable (h : CycleInvariant s c (w.invocationsOf c.id) (w.ends c.id) (w.isFired c.token))

include h

/-- A cycle that goes on after a turn accounts for every collector. -/
theorem CycleInvariant.going_of_advance (e : Advance s w c w' c') {l : List Target}
    (hl : c'.phase.ahead s = some l) :
    Going s c' l (w'.invocationsOf c.id) (w.ends c.id) (w.isFired c.token) := by
  cases e with
  | passes φ ahead calm single unended same =>
    rw [invocationsOf_congr same]
    exact (h.going l (ahead ▸ hl)).pass calm single
  | skips φ skipped later before after calm single unended fired same =>
    rw [invocationsOf_congr same]
    obtain rfl : later = l := Option.some.inj (after.symm.trans hl)
    exact (h.going _ before).skip calm single fired
  | spawns φ t later pooled before after calm single unended invocations =>
    rw [invocationsOf_of_append invocations, if_pos rfl]
    obtain rfl : later = l := Option.some.inj (after.symm.trans hl)
    exact (h.going _ before).spawn rfl rfl calm single
  | enters φ t e arrived first ahead regular calm single unended same =>
    rw [invocationsOf_congr same]
    refine (h.going l (ahead ▸ hl)).enter first (fun err fatal ↦ ?_) calm single
    -- After a fatal end nothing is ahead.
    cases (regular err fatal).symm.trans hl
  | fails φ t e arrived first ahead => cases ahead.symm.trans hl
  | endsEarly | endsCancelled | endsCompleted | errs => cases hl

/-- A cycle that ends in a turn has accounted for every collector. -/
theorem CycleInvariant.done_of_advance (e : Advance s w c w' c') {r : CycleReport}
    (hr : c'.phase = .ended (.ok r)) : w'.invocationsOf c.id = [] ∧ Done s r (w.ends c.id) := by
  have not_over {φ : CyclePhase} (unended : φ.isOver = false) : φ ≠ .ended (.ok r) := by
    rintro rfl
    cases unended
  cases e with
  | passes φ ahead calm single unended => exact absurd hr (not_over unended)
  | skips φ skipped later before after calm single unended =>
    exact absurd hr (not_over unended)
  | spawns φ t later pooled before after calm single unended =>
    exact absurd hr (not_over unended)
  | enters φ t e arrived first ahead regular calm single unended =>
    exact absurd hr (not_over unended)
  | fails φ t e arrived first ahead unended => exact absurd hr (not_over unended)
  | endsEarly r' before report fired same =>
    rw [invocationsOf_congr same]
    obtain rfl : r' = r := by simpa using hr
    have ahead : c.phase.ahead s = some s.registry.targets := by
      rcases before with phase | phase <;> rw [phase] <;> rfl
    have calm : c.phase.isCalm = true := by rcases before with phase | phase <;> rw [phase] <;> rfl
    have g := h.going _ ahead
    rw [report]
    exact ⟨(g.calm calm).1, g.endEarly⟩
  | endsCancelled before same =>
    rw [invocationsOf_congr same]
    obtain rfl : { c.report with outcome := .cancelled } = r := by simpa using hr
    have calm : c.phase.isCalm = true := by rw [before]; rfl
    have g := h.going [] (by rw [before]; rfl)
    exact ⟨(g.calm calm).1, g.end calm .cancelled fun completed ↦ nomatch completed⟩
  | endsCompleted before unfired same =>
    rw [invocationsOf_congr same]
    obtain rfl : c.report = r := by simpa using hr
    have calm : c.phase.isCalm = true := by rw [before]; rfl
    have g := h.going [] (by rw [before]; rfl)
    exact ⟨(g.calm calm).1, g.end calm c.report.outcome fun _ ↦ unfired⟩
  | errs => cases hr

/-- **A turn of the cycle.** -/
theorem CycleInvariant.advance (e : Advance s w c w' c') :
    CycleInvariant s c' (w'.invocationsOf c.id) (w.ends c.id) (w.isFired c.token) where
  heard a ha := h.heard a (e.mem_arrived ha)
  tokens := e.tokens h.tokens
  going _ hl := h.going_of_advance e hl
  done _ hr := h.done_of_advance e hr

end Advance

end Turns

end Scheduler

end MetricsAgent
