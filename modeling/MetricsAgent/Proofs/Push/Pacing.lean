import MetricsAgent.Proofs.Config.Startup
import MetricsAgent.Proofs.Push.Shutdown

/-!
# How often a sender reads an empty queue

A sender that finds its queue empty naps before it reads the queue again, and all that keeps it from
reading again at once is the length of the nap.  `Pipeline.Paces` follows one such read through a
run: the sender that has read still naps, or time has passed since, or its token has fired.  It is
kept by every move (`Pipeline.Paces.move`), and while a sender naps no other reads.

`Config.paced_iff` tells for the configurations that are accepted which of them make a sender that
does not spin: those whose nap takes time.  Both directions are about all remote ends and all
sources of jitter.  For the one direction, no run reads an empty queue twice at one time.  For the
other one there is a run that does: a pipeline with nothing but a sender in it, whose queue is empty
at first, and which goes from one read to the next without any time in between.

A firing of the token is an exception on purpose.  It ends the nap at once, and when the sender is
through, the next one may begin and read the queue at the same time.
-/

set_option autoImplicit false

namespace MetricsAgent

/-! ## Reading the queue

A read that finds nothing is one that drains nothing, and since a batch may hold something this
means that the queue is empty. -/

namespace Sender

variable {σ : Type} {s : SenderSetup σ} {once fired : Bool} {φ φ' : Phase} {p p' : PushState σ}

theorem drain_of_nil {c : Channel Envelope} (empty : c.queue.items = []) (n : Nat) :
    drain n c = ([], c) := by
  have nothing : c.tryDequeue? = none := by
    rw [Channel.tryDequeue?, BoundedQueue.pop?, empty]
    rfl
  cases n with
  | zero => rfl
  | succ n => rw [drain, nothing]

/-- Nothing is drained from an empty queue only, if a batch may hold anything at all. -/
theorem drain_eq_nil_iff {n : Nat} (room : n ≠ 0) (c : Channel Envelope) :
    (drain n c).1 = [] ↔ c.queue.items = [] := by
  refine ⟨fun nothing ↦ ?_, fun empty ↦ by rw [drain_of_nil empty]⟩
  obtain ⟨n, rfl⟩ := Nat.exists_eq_succ_of_ne_zero room
  cases taken : c.tryDequeue? with
  | none =>
    rw [Channel.tryDequeue?, BoundedQueue.pop?, Option.map_eq_none_iff] at taken
    cases items : c.queue.items with
    | nil => rfl
    | cons e rest => rw [items] at taken; cases taken
  | some r => rw [drain, taken] at nothing; cases nothing

/-- A read of the queue naps or begins with a batch. -/
theorem step_draining (s : SenderSetup σ) (once fired : Bool) (p : PushState σ) :
    ∃ ψ q, step s once fired .draining p = some (ψ, q) ∧
      q.channel = (drain s.maxBatchSize p.channel).2 ∧
        ((drain s.maxBatchSize p.channel).1 = [] ∧
          ψ = .napping (p.now + s.emptyQueueDelay.ceilMillis) ∨
            (drain s.maxBatchSize p.channel).1 ≠ [] ∧ ∃ job, ψ = .deciding job) := by
  by_cases empty : (drain s.maxBatchSize p.channel).1.isEmpty = true
  · exact ⟨_, _, if_pos empty, rfl, .inl ⟨List.isEmpty_iff.mp empty, rfl⟩⟩
  · exact ⟨_, _, if_neg empty, rfl, .inr ⟨mt List.isEmpty_iff.mpr empty, _, rfl⟩⟩

/-- A turn of a sender takes no time. -/
theorem now_step (e : step s once fired φ p = some (φ', p')) : p'.now = p.now := by
  -- Time passes in the awaits only: neither a call's beginning nor its failure takes any.
  have call (job : Job) (rest : List Envelope) (q : PushState σ) :
      (beginCall s job rest q).2.now = q.now := by
    cases rest <;> rfl
  have failure (job : Job) (err : ExportError) (q : PushState σ) :
      (afterFailure s job err q).2.now = q.now := by
    rw [afterFailure]
    split <;> rfl
  cases φ with
  | looping => cases fired <;> cases e <;> rfl
  | draining => simp only [step] at e; split at e <;> cases e <;> rfl
  | napping t =>
    simp only [step, Option.ite_none_right_eq_some] at e
    cases e.2
    rfl
  | deciding job =>
    simp only [step] at e
    split at e
    · cases e; rfl
    · rw [(eq_of_some e).2]
      exact call job job.batch _
  | submitting job x rest t result =>
    simp only [step, Option.ite_none_left_eq_some] at e
    cases result with
    | ok => rw [(eq_of_some e.2).2]; exact call job rest _
    | error err => rw [(eq_of_some e.2).2]; exact failure job err _
  | flushing job t result =>
    simp only [step, Option.ite_none_left_eq_some] at e
    cases result with
    | ok => cases e.2; rfl
    | error err => rw [(eq_of_some e.2).2]; exact failure job err _
  | backingOff job t =>
    simp only [step] at e
    split at e
    · cases e; rfl
    · simp only [Option.ite_none_right_eq_some] at e
      cases e.2
      rfl
  | ticked o => cases once <;> cases e; rfl
  | stopped => cases e

end Sender

namespace Pipeline

variable {σ : Type} {s : SenderSetup σ} {w w' : Pipeline σ} {m : Move}

/-- A sender reads the queue in a turn. -/
structure Reads (x : Loop) (t : Passage (Pipeline σ) Move) : Prop where
  turn : t.move = .turn (.sending x.id)
  found : t.before.loops.find? (·.id = x.id) = some x
  draining : x.phase = .draining

/-- A sender reads the queue and has nothing to send. -/
structure Idles (x : Loop) (t : Passage (Pipeline σ) Move) : Prop extends Reads x t where
  naps : ∃ u, t.after.phase? x.id = some (.napping u)

/-- No queue is read twice at one time after it was found empty, as long as the token of the sender
that found it so has not fired. -/
def Paced (l : List (Passage (Pipeline σ) Move)) : Prop :=
  l.Pairwise fun t t' ↦ ∀ x y, Idles x t → Reads y t' →
    t.before.shared.now < t'.before.shared.now ∨ t'.before.isFired x.token = true

/-- What a sender that reads does next. -/
theorem Reads.next {x : Loop} (h : Reads x ⟨w, m, w'⟩) (e : move s m w = some w') :
    ∃ ψ, w'.loops.find? (·.id = x.id) = some { x with phase := ψ } ∧
      ((Sender.drain s.maxBatchSize w.shared.channel).1 = [] ∧
          ψ = .napping (w.shared.now + s.emptyQueueDelay.ceilMillis) ∨
        (Sender.drain s.maxBatchSize w.shared.channel).1 ≠ [] ∧ ∃ job, ψ = .deciding job) := by
  obtain ⟨rfl, found, draining⟩ := h
  obtain ⟨ψ, q, stepped, -, next⟩ := Sender.step_draining s x.once (w.isFired x.token) w.shared
  have e : (w.stepLoop s x) = some w' := by
    rw [← e, move, step, found, Option.bind_some]
  rw [stepLoop, draining, stepped, Option.map_some, Option.some_inj] at e
  obtain rfl := e
  exact ⟨ψ, Keyed.find?_replace (c := { x with phase := ψ }) found, next⟩

/-- A sender idles when it drains nothing. -/
theorem Reads.idles_iff {x : Loop} (h : Reads x ⟨w, m, w'⟩) (e : move s m w = some w') :
    Idles x ⟨w, m, w'⟩ ↔ (Sender.drain s.maxBatchSize w.shared.channel).1 = [] := by
  obtain ⟨ψ, found, next⟩ := h.next e
  have phase : w'.phase? x.id = some ψ := by rw [phase?, found, Option.map_some]
  constructor
  · rintro ⟨-, u, naps⟩
    obtain rfl : ψ = .napping u := Option.some.inj (phase.symm.trans naps)
    rcases next with ⟨nothing, -⟩ | ⟨-, job, other⟩
    · exact nothing
    · cases other
  · intro nothing
    rcases next with ⟨-, rfl⟩ | ⟨loaded, -⟩
    · exact ⟨h, _, phase⟩
    · exact absurd nothing loaded

/-! ## Time passes

The turns of a sender take no time, and neither do those of exports; time passes by a move of its
own. -/

theorem now_beside {φ φ' : Sender.Phase} {p p' : PushState σ} (h : Beside φ p φ' p') :
    p.now ≤ p'.now := by
  cases h with
  | offer e pushed c => cases pushed <;> exact Nat.le_refl _
  | elapse ms => exact Nat.le_add_right _ _
  | _ => exact Nat.le_refl _

/-- No move goes back in time. -/
theorem now_move {φ : Sender.Phase} (h : w.At φ) (e : move s m w = some w') :
    w.shared.now ≤ w'.shared.now := by
  obtain ⟨φ', -, ⟨⟨once, fired, turned⟩, -⟩ | ⟨beside, -⟩⟩ := turn_or_beside h e
  · exact Nat.le_of_eq (Sender.now_step turned).symm
  · exact now_beside beside

theorem fired_move (e : move s m w = some w') : w.fired ⊆ w'.fired := by
  by_cases sending : ∃ id, m = .turn (.sending id)
  · obtain ⟨id, rfl⟩ := sending
    obtain ⟨x, -, turned⟩ := Option.bind_eq_some_iff.mp e
    obtain ⟨r, -, rfl⟩ := Option.map_eq_some_iff.mp turned
    exact List.Subset.refl _
  · exact (move_leaves (not_exists.mp sending) e).fired

/-- The sender `x` has found nothing at the time `t`: it still naps, or time has passed, or its
token has fired. -/
def Paces (x : Loop) (t : Nat) (w : Pipeline σ) : Prop :=
  t < w.shared.now ∨ w.isFired x.token = true ∨
    ∃ u, t < u ∧ w.loops.find? (·.id = x.id) = some { x with phase := .napping u }

/-- The sender at work is the one that naps. -/
theorem At.eq_of_napping {φ : Sender.Phase} (h : w.At φ) {x y : Loop} {u : Nat}
    (naps : w.loops.find? (·.id = x.id) = some { x with phase := .napping u })
    (found : w.loops.find? (·.id = y.id) = some y) (works : y.isOver = false) :
    y = { x with phase := .napping u } := by
  have same : y.id = x.id :=
    h.alone y (List.mem_of_find?_eq_some found) { x with phase := .napping u }
    (List.mem_of_find?_eq_some naps) works rfl
  rw [same] at found
  exact Option.some.inj (found.symm.trans naps)

/-- **Every move keeps the pace.** -/
theorem Paces.move {φ : Sender.Phase} {x : Loop} {t : Nat} (paces : Paces x t w) (h : w.At φ)
    (e : Pipeline.move s m w = some w') : Paces x t w' := by
  rcases paces with passed | fired | ⟨u, later, naps⟩
  · exact .inl (Nat.lt_of_lt_of_le passed (now_move h e))
  · exact .inr (.inl (isFired_mono (fired_move e) fired))
  · by_cases sending : ∃ id, m = .turn (.sending id)
    · obtain ⟨id, rfl⟩ := sending
      obtain ⟨y, found, turned⟩ := Option.bind_eq_some_iff.mp e
      obtain ⟨⟨ψ, q⟩, stepped, rfl⟩ := Option.map_eq_some_iff.mp turned
      obtain rfl : y.id = id := Keyed.key_of_find? found
      have works : y.isOver = false := by
        refine Bool.eq_false_iff.mpr fun through ↦ ?_
        rw [step_of_isOver through] at stepped
        cases stepped
      -- Only the end of the nap is possible, and it has one of two reasons.
      obtain rfl := h.eq_of_napping naps found works
      simp only [Sender.step, Option.ite_none_right_eq_some, Option.some_inj, Bool.or_eq_true,
        decide_eq_true_eq] at stepped
      obtain ⟨fired | due, ends⟩ := stepped
      · exact .inr (.inl fired)
      · have same : q.now = w.shared.now := (congrArg (·.2.now) ends).symm
        refine .inl (Nat.lt_of_lt_of_le later ?_)
        exact Nat.le_trans due (Nat.le_of_eq same.symm)
    · obtain ⟨new, loops⟩ := (move_leaves (not_exists.mp sending) e).loops
      exact .inr (.inr ⟨u, later, by rw [loops, List.find?_append, naps, Option.some_or]⟩)

/-- A read that finds nothing begins a nap, which takes time. -/
theorem Idles.paces {x : Loop} (h : Idles x ⟨w, m, w'⟩) (delay : s.emptyQueueDelay ≠ .zero)
    (e : move s m w = some w') : Paces x w.shared.now w' := by
  obtain ⟨ψ, found, ⟨-, rfl⟩ | ⟨loaded, -⟩⟩ := h.toReads.next e
  · have positive := Duration.ceilMillis_pos_iff.mpr delay
    exact .inr (.inr ⟨_, by omega, found⟩)
  · exact absurd ((h.toReads.idles_iff e).mp h) loaded

/-- A sender reads the queue when none naps. -/
theorem Paces.of_reads {φ : Sender.Phase} {x y : Loop} {t : Nat} (paces : Paces x t w) (h : w.At φ)
    (reads : Reads y ⟨w, m, w'⟩) : t < w.shared.now ∨ w.isFired x.token = true := by
  rcases paces with passed | fired | ⟨u, -, naps⟩
  · exact .inl passed
  · exact .inr fired
  · have works : y.isOver = false := by rw [Loop.isOver, reads.draining]
    have same := h.eq_of_napping naps reads.found works
    have draining := reads.draining
    rw [same] at draining
    cases draining

/-- **A sender whose nap takes time does not spin**, whatever else happens. -/
theorem paced_of_trail {c : Channel Envelope} {client : σ} {l : List (Passage (Pipeline σ) Move)}
    (delay : s.emptyQueueDelay ≠ .zero) (run : Trail (move s) (start c client) l w) : Paced l := by
  have follows : (∃ φ, w.At φ) ∧ Paced l ∧ ∀ t ∈ l, ∀ x, Idles x t →
      Paces x t.before.shared.now w := by
    induction run with
    | start => exact ⟨⟨_, at_start c client⟩, .nil, fun _ ht ↦ absurd ht List.not_mem_nil⟩
    | move _ m e ih =>
      obtain ⟨⟨φ, stands⟩, paced, paces⟩ := ih
      obtain ⟨φ', stands', -⟩ := turn_or_beside stands e
      refine ⟨⟨φ', stands'⟩, List.pairwise_append.mpr ⟨paced, List.pairwise_singleton _ _, ?_⟩, ?_⟩
      · intro t ht t' ht' x y idles reads
        obtain rfl := List.mem_singleton.mp ht'
        exact (paces t ht x idles).of_reads stands reads
      · intro t ht x idles
        rcases List.mem_append.mp ht with ht | ht
        · exact (paces t ht x idles).move stands e
        · obtain rfl := List.mem_singleton.mp ht
          exact idles.paces delay e
  exact follows.2.1

/-! ## A sender that spins

One round of an idle sender has four stretches: the read, the end of the nap, the end of the tick,
and the look at the token. -/

/-- A pipeline with nothing but a sender in it. -/
def solo (φ : Sender.Phase) (p : PushState σ) : Pipeline σ := ⟨p, [], [⟨1, 1, false, φ⟩], []⟩

theorem move_solo {φ φ' : Sender.Phase} {p p' : PushState σ}
    (e : Sender.step s false false φ p = some (φ', p')) :
    move s (.turn (.sending 1)) (solo φ p) = some (solo φ' p') := by
  have turned : (solo φ p).stepLoop s ⟨1, 1, false, φ⟩ = some (solo φ' p') :=
    congrArg (Option.map fun r : Sender.Phase × PushState σ ↦ solo r.1 r.2) e
  exact turned

/-- What a sender that does not nap does with an empty queue. -/
theorem exists_step_draining (zero : s.emptyQueueDelay = .zero) {p : PushState σ}
    (empty : p.channel.queue.items = []) :
    ∃ q, Sender.step s false false .draining p = some (.napping p.now, q) ∧
      q.channel.queue.items = [] ∧ q.now = p.now := by
  obtain ⟨ψ, q, stepped, channel, next⟩ := Sender.step_draining s false false p
  rw [Sender.drain_of_nil empty] at channel next
  rcases next with ⟨-, rfl⟩ | ⟨loaded, -⟩
  · refine ⟨q, ?_, by rw [channel, empty], Sender.now_step stepped⟩
    rw [stepped, zero]
    rfl
  · exact absurd rfl loaded

/-- From one read of an empty queue to the next, without a nap. -/
theorem exists_round (zero : s.emptyQueueDelay = .zero) {p : PushState σ}
    (empty : p.channel.queue.items = []) :
    ∃ l q, Trail (move s) (solo .draining p) l (solo .draining q) ∧ q.channel.queue.items = [] ∧
      q.now = p.now ∧ ∃ t ∈ l, Idles ⟨1, 1, false, .draining⟩ t ∧ t.before.shared.now = p.now := by
  obtain ⟨q, read, still, same⟩ := exists_step_draining zero empty
  have wakes :
      Sender.step s false false (.napping p.now) q = some (.ticked .idle, q.note (.ticked .idle)) :=
    if_pos (by rw [same, Bool.false_or, decide_eq_true_iff])
  have ticks :
      Sender.step s false false (.ticked .idle) (q.note (.ticked .idle)) = some (.looping, _) := rfl
  have loops :
      Sender.step s false false .looping (q.note (.ticked .idle)) = some (.draining, _) := rfl
  have run : Trail (move s) (solo .draining p) _ (solo .draining (q.note (.ticked .idle))) :=
    (((Trail.start.move _ (move_solo read)).move _ (move_solo wakes)).move _
      (move_solo ticks)).move _ (move_solo loops)
  exact ⟨_, _, run, still, same, ⟨solo .draining p, _, solo (.napping p.now) q⟩, by simp,
    ⟨⟨rfl, rfl, rfl⟩, p.now, rfl⟩, rfl⟩

/-- A sender that does not nap reads an empty queue twice at one time. -/
theorem exists_not_paced (zero : s.emptyQueueDelay = .zero) {c : Channel Envelope}
    (empty : c.queue.items = []) (client : σ) :
    ∃ l w, Trail (move s) (start c client) l w ∧ ¬Paced l := by
  have begun : Trail (move s) (start c client) _ (solo .draining (start c client).shared) :=
    (Trail.start.move (.startSender 1 1) rfl).move (.turn (.sending 1)) (move_solo rfl)
  obtain ⟨l, q, round, still, same, t, mem, idles, time⟩ :=
    exists_round zero (p := (start c client).shared) empty
  obtain ⟨r, read, -⟩ := exists_step_draining zero still
  refine ⟨_, _, (begun.append round).move (.turn (.sending 1)) (move_solo read), fun paced ↦ ?_⟩
  have reads :
      Reads ⟨1, 1, false, .draining⟩
      ⟨solo .draining q, .turn (.sending 1), solo (.napping q.now) r⟩ :=
    ⟨rfl, rfl, rfl⟩
  have apart := (List.pairwise_append.mp paced).2.2 t (List.mem_append_right _ mem) _
    (List.mem_singleton_self _) _ _ idles reads
  rcases apart with passed | fired
  · rw [time] at passed
    exact Nat.lt_irrefl _ (Nat.lt_of_lt_of_eq passed same)
  · cases fired

end Pipeline

/-! ## Which configurations make a sender that does not spin

A run starts with the channel that the configuration makes, and without exports and senders. -/

namespace Config

open Pipeline

variable {σ : Type}

/-- The moves of a run of the pipeline of a configuration, with a remote end and a source of
jitter. -/
def IsRun (c : Config) (client : RemoteClient σ) (jitter : Nat → Duration → Duration) (initial : σ)
    (l : List (Passage (Pipeline σ) Move)) : Prop :=
  ∃ metrics channel w, c.push.toChannel metrics = .ok channel ∧
    Trail (move (c.toSender client jitter)) (Pipeline.start channel initial) l w

/-- Without a nap some run is not paced: the queue is empty at first. -/
theorem exists_isRun_not_paced {env : Environment} {c : Config} (checked : c.check env = .ok ())
    (zero : c.push.emptyQueueDelay = .zero) (client : RemoteClient σ)
    (jitter : Nat → Duration → Duration) (initial : σ) :
    ∃ l, c.IsRun client jitter initial l ∧ ¬Paced l := by
  have capacity := (check_eq_ok_iff.mp checked).capacity
  obtain ⟨channel, made⟩ := Push.toChannel_eq_ok capacity MetricsAgent.SelfMetrics.new
  have empty : channel.queue.items = [] := by
    rw [Push.toChannel, Channel.new, BoundedQueue.new?,
      dif_pos (Nat.pos_of_ne_zero capacity)] at made
    cases made
    rfl
  obtain ⟨l, w, run, spins⟩ := exists_not_paced (s := c.toSender client jitter) zero empty initial
  exact ⟨l, ⟨_, channel, w, made, run⟩, spins⟩

/-- **A configuration that was accepted makes a sender that does not spin just if its nap takes
time**, for every remote end, every source of jitter and all that happens beside the sender. Its
sender has nothing to send only if it finds the queue empty. -/
theorem paced_iff {env : Environment} {c : Config} (checked : c.check env = .ok ())
    (client : RemoteClient σ) (jitter : Nat → Duration → Duration) (initial : σ) :
    (∀ l, c.IsRun client jitter initial l → ∀ t ∈ l, ∀ x, Reads x t →
        (Idles x t ↔ t.before.shared.channel.queue.items = [])) ∧
      ((∀ l, c.IsRun client jitter initial l → Paced l) ↔ c.push.emptyQueueDelay ≠ .zero) := by
  have accepted := check_eq_ok_iff.mp checked
  refine ⟨?_, ?_, ?_⟩
  · rintro l ⟨metrics, channel, w, -, run⟩ ⟨v, m, v'⟩ ht x reads
    obtain ⟨-, e⟩ := run.forall_mem (P := fun _ ↦ True) trivial (fun _ _ _ ↦ trivial) _ ht
    exact (reads.idles_iff e).trans (Sender.drain_eq_nil_iff accepted.batchSize v.shared.channel)
  · intro paced zero
    obtain ⟨l, run, spins⟩ := exists_isRun_not_paced checked zero client jitter initial
    exact spins (paced l run)
  · rintro delay l ⟨metrics, channel, w, -, run⟩
    exact paced_of_trail delay run

/-- A configuration that has something to push does not spin. -/
theorem paced_iff_pushing : pushing.check namesHost = .ok () ∧
    ∀ l, pushing.IsRun ScriptedClient.client (fun _ window ↦ window) ⟨[], []⟩ l → Paced l :=
  ⟨check_pushing,
    (paced_iff check_pushing ScriptedClient.client (fun _ window ↦ window) ⟨[], []⟩).2.mpr
    (by decide)⟩

/-- The default without a nap. -/
def napless : Config :=
  { Config.default with push := { Push.default with emptyQueueDelay := .zero } }

/-- It is not so that no configuration that is accepted makes a sender that spins: nothing asks
about the length of the nap. -/
theorem exists_checked_not_paced : ¬∀ (env : Environment) (c : Config), c.check env = .ok () →
    ∀ l, c.IsRun ScriptedClient.client (fun _ window ↦ window) ⟨[], []⟩ l → Paced l := by
  intro paced
  have checked : napless.check (fun _ ↦ none) = .ok () := by
    have usual := check_eq_ok_iff.mp (@check_sideBySide (fun _ ↦ none) none nofun)
    exact check_eq_ok_iff.mpr { usual with }
  obtain ⟨l, run, spins⟩ :=
    exists_isRun_not_paced checked rfl ScriptedClient.client (fun _ window ↦ window)
    ⟨[], []⟩
  exact spins (paced _ _ checked l run)

end Config

end MetricsAgent
