import MetricsAgent.Scheduler.Cycle

/-!
# The gate

The gate counts shares: one for each invocation of the cycle that is let through, and one for the
cycle itself until it is over.  `Gate.Keeps` relates the gate to where each cycle stands and to the
number of its invocations, with `due` shares that are about to be given back.

What a cycle can do at the gate is a `Gate.Passing`, and `Gate.Keeps.pass` says that the relation
survives it.  The shares of invocations are counted by `Gate.Keeps.enlist` and
`Gate.Keeps.discharge`, and `Gate.Keeps.release` gives a share back.

* Only the cycle that holds the gate has invocations, and only it stands inside.
* A cycle that waits is in the queue, once, or the gate is open to it already.
* Without a holder the gate is as new.

Cycles are numbers here, and where they stand and how many invocations they have are functions of
these numbers.  The gate is thus separate from schedulers, and a scheduler supplies the two
functions.

A share that is due is one that nobody has any more and that was not given back yet.  With it,
giving back is the last step of any move, and there is one lemma about it, in which the next cycle
may be let through.
-/

set_option autoImplicit false

namespace MetricsAgent

namespace Scheduler

/-- Where a cycle stands with the gate. -/
inductive Stand where
  /-- It has not asked to be let through. -/
  | outside
  /-- It waits, or it was let through without knowing so far. -/
  | queued
  | inside
  /-- It is over, or nobody waits for it any more. -/
  | gone
  deriving DecidableEq

/-- The share that a cycle has of a gate that is open to it. -/
def Stand.share : Stand → Nat
  | queued | inside => 1
  | outside | gone => 0

namespace Gate

/-- The gate agrees with the stands of the cycles and with the numbers of their invocations. Of the
shares that it counts, `due` belong to nobody any more. -/
structure Keeps (g : Gate) (stand : Nat → Stand) (crew : Nat → Nat) (due : Nat) : Prop where
  free : g.holder = none → g = .new
  shares : ∀ id, g.holder = some id → g.shares = crew id + (stand id).share + due
  pos : ∀ id, g.holder = some id → 0 < g.shares
  holder : ∀ id, g.holder = some id → stand id ≠ .outside
  /-- Only the cycle that is let through has invocations. -/
  crew : ∀ id, crew id ≠ 0 → g.holder = some id
  inside : ∀ id, stand id = .inside → g.holder = some id
  queued : ∀ id, stand id = .queued → g.holder = some id ∨ id ∈ g.queue
  queue : ∀ id ∈ g.queue, stand id = .queued ∧ g.holder ≠ some id
  nodup : g.queue.Nodup

theorem keeps_new : Gate.new.Keeps (fun _ ↦ .gone) (fun _ ↦ 0) 0 where
  free _ := rfl
  shares _ h := nomatch h
  pos _ h := nomatch h
  holder _ h := nomatch h
  crew _ h := absurd rfl h
  inside _ h := nomatch h
  queued _ h := nomatch h
  queue _ h := nomatch h
  nodup := .nil

section Shares

variable {g : Gate} {stand : Nat → Stand} {crew crew' : Nat → Nat} {due c : Nat}

/-- Only one cycle has invocations. -/
theorem Keeps.crew_eq_zero (h : Keeps g stand crew due) (hc : g.holder = some c) {d : Nat}
    (hd : d ≠ c) : crew d = 0 := by
  by_cases busy : crew d = 0
  · exact busy
  · have hd' := h.crew d busy
    rw [hc, Option.some_inj] at hd'
    exact absurd hd'.symm hd

/-- When the cycle that was let through has no share and no invocations left, nobody is inside. -/
theorem Keeps.none_inside (h : Keeps g stand crew due) (hc : g.holder = some c) (idle : crew c = 0)
    (gone : (stand c).share = 0) :
    (∀ d, crew d = 0) ∧ (∀ d, stand d ≠ .inside) ∧ ∀ d, stand d = .queued → d ∈ g.queue := by
  refine ⟨fun d ↦ ?_, fun d inside ↦ ?_, fun d queued ↦ ?_⟩
  · by_cases hd : d = c
    · rw [hd, idle]
    · exact h.crew_eq_zero hc hd
  · have there := h.inside d inside
    rw [hc, Option.some_inj] at there
    rw [there, inside] at gone
    cases gone
  · rcases h.queued d queued with there | waits
    · rw [hc, Option.some_inj] at there
      rw [there, queued] at gone
      cases gone
    · exact waits

/-- The last share lets the next cycle through. -/
theorem Keeps.handOver (h : Keeps g stand crew due) (hc : g.holder = some c) (idle : crew c = 0)
    (gone : (stand c).share = 0) : Keeps g.handOver stand crew 0 := by
  obtain ⟨none_busy, not_inside, waits⟩ := h.none_inside hc idle gone
  rw [Gate.handOver]
  cases queue : g.queue with
  | nil =>
    exact
      { free := fun _ ↦ rfl
        shares := fun _ h ↦ nomatch h
        pos := fun _ h ↦ nomatch h
        holder := fun _ h ↦ nomatch h
        crew := fun d hd ↦ absurd (none_busy d) hd
        inside := fun d hd ↦ absurd hd (not_inside d)
        queued := fun d hd ↦ by
          have hd := waits d hd
          rw [queue] at hd
          exact absurd hd List.not_mem_nil
        queue := fun _ h ↦ nomatch h
        nodup := .nil }
  | cons next rest =>
    -- The first in the queue becomes the holder, with the one share that was due.
    have hnodup := h.nodup
    rw [queue, List.nodup_cons] at hnodup
    have hnext := (h.queue next (by rw [queue]; exact List.mem_cons_self ..)).1
    exact
      { free := fun h ↦ nomatch h
        shares := fun d hd ↦ by
          obtain rfl : next = d := Option.some.inj hd
          rw [none_busy, hnext]
          rfl
        pos := fun _ _ ↦ Nat.one_pos
        holder := fun d hd ↦ by
          obtain rfl : next = d := Option.some.inj hd
          rw [hnext]
          exact fun h ↦ nomatch h
        crew := fun d hd ↦ absurd (none_busy d) hd
        inside := fun d hd ↦ absurd hd (not_inside d)
        queued := fun d hd ↦ by
          have hd := waits d hd
          rw [queue] at hd
          rcases List.mem_cons.mp hd with rfl | hd
          · exact .inl rfl
          · exact .inr hd
        queue := fun d hd ↦ by
          refine ⟨(h.queue d (by rw [queue]; exact List.mem_cons_of_mem _ hd)).1, fun hd' ↦ ?_⟩
          obtain rfl : next = d := Option.some.inj hd'
          exact hnodup.1 hd
        nodup := hnodup.2 }

/-- A share of nobody is given back. -/
theorem Keeps.release (h : Keeps g stand crew 1) (hc : g.holder = some c) :
    Keeps g.release stand crew 0 := by
  have hshares := h.shares c hc
  rw [Gate.release]
  split
  · exact h.handOver hc (by omega) (by omega)
  · exact
      { free := fun hn ↦ by rw [show g.holder = none from hn] at hc; cases hc
        shares := fun d hd ↦ by
          have := h.shares d hd
          show g.shares - 1 = _
          omega
        pos := fun _ _ ↦ by
          show 0 < g.shares - 1
          omega
        holder := h.holder
        crew := h.crew
        inside := h.inside
        queued := h.queued
        queue := h.queue
        nodup := h.nodup }

/-- An invocation of the cycle that is let through takes a share. -/
theorem Keeps.enlist (h : Keeps g stand crew due) (hc : g.holder = some c)
    (here : crew' c = crew c + 1) (there : ∀ d, d ≠ c → crew' d = crew d) :
    Keeps g.share stand crew' due where
  free hn := by rw [show g.holder = none from hn] at hc; cases hc
  shares d hd := by
    obtain rfl : c = d := Option.some.inj (hc.symm.trans hd)
    have := h.shares c hc
    show g.shares + 1 = _
    omega
  pos _ _ := Nat.succ_pos _
  holder := h.holder
  crew d hd := by
    by_cases own : d = c
    · rw [own]; exact hc
    · rw [there d own] at hd
      exact h.crew d hd
  inside := h.inside
  queued := h.queued
  queue := h.queue
  nodup := h.nodup

/-- An invocation is gone, and its share with nobody. -/
theorem Keeps.discharge (h : Keeps g stand crew due) (here : crew c = crew' c + 1)
    (there : ∀ d, d ≠ c → crew' d = crew d) :
    g.holder = some c ∧ Keeps g stand crew' (due + 1) := by
  have hc : g.holder = some c := h.crew c (by omega)
  refine ⟨hc, ⟨h.free, fun d hd ↦ ?_, h.pos, h.holder, fun d hd ↦ ?_, h.inside, h.queued, h.queue,
    h.nodup⟩⟩
  · obtain rfl : c = d := Option.some.inj (hc.symm.trans hd)
    have := h.shares c hc
    omega
  · by_cases own : d = c
    · rw [own]; exact hc
    · rw [there d own] at hd
      exact h.crew d hd

end Shares

/-! ## Passing the gate

Each constructor of `Gate.Passing` says where the cycle stands before and after, and what the gate
is then. -/

/-- What the cycle `c` does at the gate: it stands somewhere before and after. -/
inductive Passing (c : Nat) : Gate → Stand → Gate → Stand → Prop where
  /-- It does nothing there. -/
  | stays (g : Gate) (σ : Stand) : Passing c g σ g σ
  | arrives (g : Gate) : Passing c g .outside (g.arrive c) .queued
  /-- It goes away without having asked. -/
  | withdraws (g : Gate) : Passing c g .outside g .gone
  | leaves (g : Gate) : Passing c g .queued (g.leave c) .gone
  | enters (g : Gate) (h : g.holder = some c) : Passing c g .queued g .inside
  | closes (g : Gate) : Passing c g .inside g.release .gone

section Passing

variable {g g' : Gate} {stand stand' : Nat → Stand} {crew : Nat → Nat} {due due' c : Nat}

/-- A cycle stands elsewhere, without asking the gate. -/
theorem Keeps.restand (h : Keeps g stand crew due) (there : ∀ d, d ≠ c → stand' d = stand d)
    (shares : g.holder = some c →
      (stand' c).share + due' = (stand c).share + due ∧ stand' c ≠ .outside)
    (inside : stand' c = .inside → g.holder = some c)
    (queued : stand' c = .queued → stand c = .queued) (queue : c ∈ g.queue → stand' c = .queued)
    (due_eq : g.holder ≠ some c → due' = due) : Keeps g stand' crew due' where
  free := h.free
  shares d hd := by
    have hshares := h.shares d hd
    by_cases own : d = c
    · subst own
      have := (shares hd).1
      omega
    · rw [there d own, due_eq fun hc ↦ own (Option.some.inj (hd.symm.trans hc))]
      exact hshares
  pos := h.pos
  holder d hd := by
    by_cases own : d = c
    · subst own
      exact (shares hd).2
    · rw [there d own]
      exact h.holder d hd
  crew := h.crew
  inside d hd := by
    by_cases own : d = c
    · subst own
      exact inside hd
    · rw [there d own] at hd
      exact h.inside d hd
  queued d hd := by
    by_cases own : d = c
    · subst own
      exact h.queued d (queued hd)
    · rw [there d own] at hd
      exact h.queued d hd
  queue d hd := by
    refine ⟨?_, (h.queue d hd).2⟩
    by_cases own : d = c
    · subst own
      exact queue hd
    · rw [there d own]
      exact (h.queue d hd).1
  nodup := h.nodup

/-- A cycle whose stand does not call for it is not in the queue. -/
theorem Keeps.not_mem_queue (h : Keeps g stand crew due) (hc : stand c ≠ .queued) : c ∉ g.queue :=
  fun mem ↦ hc (h.queue c mem).1

/-- A cycle is let through at once by a gate that nobody holds. -/
theorem Keeps.open (h : Keeps g stand crew 0) (free : g.holder = none) (here : stand' c = .queued)
    (there : ∀ d, d ≠ c → stand' d = stand d) : Keeps ⟨some c, 1, g.queue⟩ stand' crew 0 := by
  have idle : ∀ d, crew d = 0 := by
    intro d
    by_cases busy : crew d = 0
    · exact busy
    · have := h.crew d busy
      rw [free] at this
      cases this
  have empty : g.queue = [] := by rw [h.free free]; rfl
  rw [empty]
  exact
    { free := fun h ↦ nomatch h
      shares := fun d hd ↦ by
        obtain rfl : c = d := Option.some.inj hd
        rw [idle, here]
        rfl
      pos := fun _ _ ↦ Nat.one_pos
      holder := fun d hd ↦ by
        obtain rfl : c = d := Option.some.inj hd
        rw [here]
        exact fun h ↦ nomatch h
      crew := fun d hd ↦ absurd (idle d) hd
      inside := fun d hd ↦ by
        by_cases own : d = c
        · rw [own, here] at hd
          cases hd
        · rw [there d own] at hd
          have := h.inside d hd
          rw [free] at this
          cases this
      queued := fun d hd ↦ by
        by_cases own : d = c
        · exact .inl (by rw [own])
        · rw [there d own] at hd
          rcases h.queued d hd with hd | hd
          · rw [free] at hd
            cases hd
          · rw [empty] at hd
            cases hd
      queue := fun _ h ↦ nomatch h
      nodup := .nil }

/-- A cycle waits behind the others. -/
theorem Keeps.enqueue (h : Keeps g stand crew due) (busy : g.holder ≠ none)
    (before : stand c = .outside) (here : stand' c = .queued)
    (there : ∀ d, d ≠ c → stand' d = stand d) :
    Keeps { g with queue := g.queue ++ [c] } stand' crew due := by
  have fresh : c ∉ g.queue := h.not_mem_queue (by rw [before]; exact fun h ↦ nomatch h)
  have not_holder : g.holder ≠ some c := fun hc ↦ h.holder c hc before
  have other : ∀ d, g.holder = some d → d ≠ c := by
    rintro d hd rfl
    exact not_holder hd
  exact
    { free := fun hn ↦ absurd hn busy
      shares := fun d hd ↦ by
        rw [there d (other d hd)]
        exact h.shares d hd
      pos := h.pos
      holder := fun d hd ↦ by
        rw [there d (other d hd)]
        exact h.holder d hd
      crew := h.crew
      inside := fun d hd ↦ by
        by_cases own : d = c
        · rw [own, here] at hd
          cases hd
        · rw [there d own] at hd
          exact h.inside d hd
      queued := fun d hd ↦ by
        by_cases own : d = c
        · exact .inr (List.mem_append_right _ (List.mem_singleton.mpr own))
        · rw [there d own] at hd
          exact (h.queued d hd).imp_right (List.mem_append_left _)
      queue := fun d hd ↦ by
        rcases List.mem_append.mp hd with hd | hd
        · have own : d ≠ c := fun e ↦ fresh (e ▸ hd)
          rw [there d own]
          exact h.queue d hd
        · rw [List.mem_singleton.mp hd]
          exact ⟨here, not_holder⟩
      nodup := by
        refine List.nodup_append.mpr ⟨h.nodup, by simp, fun d hd e he ↦ ?_⟩
        rw [List.mem_singleton.mp he]
        exact fun same ↦ fresh (same ▸ hd) }

theorem Keeps.arrive (h : Keeps g stand crew 0) (before : stand c = .outside)
    (here : stand' c = .queued) (there : ∀ d, d ≠ c → stand' d = stand d) :
    Keeps (g.arrive c) stand' crew 0 := by
  rw [Gate.arrive]
  split
  · rename_i free
    exact h.open (Option.isNone_iff_eq_none.mp free) here there
  · rename_i busy
    exact h.enqueue (fun free ↦ busy (Option.isNone_iff_eq_none.mpr free)) before here there

theorem Keeps.leave (h : Keeps g stand crew 0) (before : stand c = .queued) (idle : crew c = 0)
    (here : stand' c = .gone) (there : ∀ d, d ≠ c → stand' d = stand d) :
    Keeps (g.leave c) stand' crew 0 := by
  rw [Gate.leave]
  split
  · rename_i hc
    -- The one that leaves had just been handed the gate, and passes its share on.
    have gone : Keeps g stand' crew 1 :=
      h.restand there (fun _ ↦ by rw [before, here]; exact ⟨rfl, fun h ↦ nomatch h⟩)
        (by rw [here]; exact fun h ↦ nomatch h) (fun _ ↦ before)
        (fun mem ↦ absurd hc (h.queue c mem).2) (fun hn ↦ absurd hc hn)
    exact gone.handOver hc idle (by rw [here]; rfl)
  · rename_i hc
    exact
      { free := fun hn ↦ by rw [h.free hn]; rfl
        shares := fun d hd ↦ by
          have own : d ≠ c := fun e ↦ hc (e ▸ hd)
          rw [there d own]
          exact h.shares d hd
        pos := h.pos
        holder := fun d hd ↦ by
          have own : d ≠ c := fun e ↦ hc (e ▸ hd)
          rw [there d own]
          exact h.holder d hd
        crew := h.crew
        inside := fun d hd ↦ by
          have own : d ≠ c := by
            rintro rfl
            rw [here] at hd
            cases hd
          rw [there d own] at hd
          exact h.inside d hd
        queued := fun d hd ↦ by
          have own : d ≠ c := by
            rintro rfl
            rw [here] at hd
            cases hd
          rw [there d own] at hd
          exact (h.queued d hd).imp_right fun mem ↦ List.mem_filter.mpr ⟨mem, by simpa using own⟩
        queue := fun d hd ↦ by
          obtain ⟨mem, own⟩ := List.mem_filter.mp hd
          rw [there d (by simpa using own)]
          exact h.queue d mem
        nodup := h.nodup.filter _ }

/-- **Whatever a cycle does at the gate**, the gate goes on agreeing with the cycles. -/
theorem Keeps.pass {σ : Stand} (h : Keeps g stand crew 0) (e : Passing c g (stand c) g' σ)
    (idle : stand c = .queued → crew c = 0) (here : stand' c = σ)
    (there : ∀ d, d ≠ c → stand' d = stand d) : Keeps g' stand' crew 0 := by
  generalize before : stand c = τ at e
  cases e with
  | stays =>
    have same : stand' = stand := by
      funext d
      by_cases own : d = c
      · rw [own, here, before]
      · exact there d own
    rw [same]
    exact h
  | arrives => exact h.arrive before here there
  | withdraws =>
    exact h.restand there (fun hc ↦ absurd before (h.holder c hc))
      (by rw [here]; exact fun h ↦ nomatch h) (by rw [here]; exact fun h ↦ nomatch h)
      (fun mem ↦ absurd mem (h.not_mem_queue (by rw [before]; exact fun h ↦ nomatch h))) fun _ ↦ rfl
  | leaves => exact h.leave before (idle before) here there
  | enters hc =>
    exact h.restand there (fun _ ↦ by rw [before, here]; exact ⟨rfl, fun h ↦ nomatch h⟩)
      (fun _ ↦ hc)
      (fun _ ↦ before) (fun mem ↦ absurd hc (h.queue c mem).2) fun _ ↦ rfl
  | closes =>
    have hc := h.inside c before
    have gone : Keeps g stand' crew 1 :=
      h.restand there (fun _ ↦ by rw [before, here]; exact ⟨rfl, fun h ↦ nomatch h⟩)
        (by rw [here]; exact fun h ↦ nomatch h) (by rw [here]; exact fun h ↦ nomatch h)
        (fun mem ↦ absurd hc (h.queue c mem).2) (fun hn ↦ absurd hc hn)
    exact gone.release hc

/-- A cycle that was not there before arrives. -/
theorem Keeps.call (h : Keeps g stand crew due) (before : stand c = .gone)
    (fresh : g.holder ≠ some c) (here : stand' c = .outside)
    (there : ∀ d, d ≠ c → stand' d = stand d) : Keeps g stand' crew due :=
  h.restand there (fun hc ↦ absurd hc fresh) (by rw [here]; exact fun h ↦ nomatch h)
    (by rw [here]; exact fun h ↦ nomatch h)
    (fun mem ↦ absurd mem (h.not_mem_queue (by rw [before]; exact fun h ↦ nomatch h))) fun _ ↦ rfl

end Passing

end Gate

end Scheduler

end MetricsAgent
