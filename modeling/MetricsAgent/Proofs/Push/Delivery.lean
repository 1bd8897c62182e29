import MetricsAgent.Proofs.Push.Effect
import MetricsAgent.Proofs.Push.Remote

/-!
# What a flush delivers

A remote end keeps what it is given until a flush.  An attempt that fails at a submission is not
followed by a flush, so what the remote end took in it is still there in the next one.  `Uptake` is
what the remote end has taken since the last flush, told apart by when it was submitted: for batches
before, in attempts before, and in this attempt.  It is computed from the history alone.

`Pipeline.Kept` is the invariant that ties the uptake to where the sender stands, and from it
follows what each flush delivers (`Pipeline.flush_delivers_batch`): the batch, as a whole and in
order, after what was taken in attempts that had failed before.

* What was taken in an earlier attempt is less than the batch, and from its front
  (`Pipeline.IsPart`).  An attempt that submits the whole batch ends with a flush, which leaves
  nothing behind.
* What comes before the batch is what earlier attempts to send this batch took, if nothing is left
  from batches before it.

All of this is said of any remote end that keeps and delivers as it is told
(`RemoteClient.Follows`); how its calls end and how long they take is left open.
-/

set_option autoImplicit false

namespace MetricsAgent

/-! ## Uptake

Four events change the uptake: a batch is drained, an attempt begins, a submission succeeds, a flush
ends. -/

/-- What a remote end has taken since the last flush. -/
structure Uptake where
  /-- For batches that have come to their end. -/
  carried : List Envelope
  /-- In earlier attempts to send the latest batch. -/
  repeated : List Envelope
  /-- In the latest attempt. -/
  current : List Envelope

namespace Uptake

/-- Nothing was taken. -/
def empty : Uptake := ⟨[], [], []⟩

/-- All that was taken, in order. -/
def all (u : Uptake) : List Envelope := u.carried ++ u.repeated ++ u.current

/-- What an event changes. -/
def next (u : Uptake) : PushEvent → Uptake
  | .drained _ => ⟨u.all, [], []⟩
  | .attempt => ⟨u.carried, u.repeated ++ u.current, []⟩
  | .submitted e (.ok ()) => ⟨u.carried, u.repeated, u.current ++ [e]⟩
  | .flushed _ => empty
  | _ => u

end Uptake

namespace PushState

variable {σ : Type}

/-- What the remote end has taken since the last flush, as the history tells. -/
def uptake (p : PushState σ) : Uptake := p.events.foldl Uptake.next .empty

@[simp] theorem uptake_note (p : PushState σ) (e : PushEvent) :
    (p.note e).uptake = p.uptake.next e := by
  simp [uptake]

@[simp] theorem uptake_become (p : PushState σ) (s : SenderState) :
    (p.become s).uptake = p.uptake := by
  simp [uptake, Uptake.next]

@[simp] theorem uptake_count (p : PushState σ) (f : SelfMetrics → SelfMetrics) :
    (p.count f).uptake = p.uptake := rfl

@[simp] theorem drained_note (p : PushState σ) (e : PushEvent) :
    (p.note e).drained = p.drained ++ e.drained?.toList := by
  cases h : e.drained? <;> simp [drained, h]

@[simp] theorem drained_become (p : PushState σ) (s : SenderState) :
    (p.become s).drained = p.drained := by
  simp [drained, PushEvent.drained?]

@[simp] theorem drained_count (p : PushState σ) (f : SelfMetrics → SelfMetrics) :
    (p.count f).drained = p.drained := rfl

/-- Two states between which nothing was drained, and nothing was asked of the remote end. -/
structure Still (p p' : PushState σ) : Prop where
  client : p'.client = p.client
  uptake : p'.uptake = p.uptake
  drained : p'.drained = p.drained

theorem Still.refl (p : PushState σ) : p.Still p := ⟨rfl, rfl, rfl⟩

theorem Still.trans {p q r : PushState σ} (h : p.Still q) (h' : q.Still r) : p.Still r :=
  ⟨h'.client.trans h.client, h'.uptake.trans h.uptake, h'.drained.trans h.drained⟩

end PushState

namespace Sender

variable {σ : Type}

theorem abandon_still (job : Job) (p : PushState σ) : p.Still (abandon job p).2 := by
  constructor <;> simp [abandon, endTick, Uptake.next, PushEvent.drained?]

theorem succeed_still (job : Job) (p : PushState σ) : p.Still (succeed job p).2 := by
  constructor <;> simp [succeed, endTick, Uptake.next, PushEvent.drained?]

theorem fail_still (job : Job) (p : PushState σ) : p.Still (fail job p).2 := by
  constructor <;> simp [fail, endTick, Uptake.next, PushEvent.drained?]

/-- Whether a call to the remote end is in progress. -/
def Phase.inCall : Phase → Bool
  | .submitting .. | .flushing .. => true
  | _ => false

/-- After a failure no call is in progress, and if a batch is still underway it is the same. -/
theorem afterFailure_still (s : SenderSetup σ) (job : Job) (e : ExportError) (p : PushState σ) :
    p.Still (afterFailure s job e p).2 ∧ (afterFailure s job e p).1.inCall = false ∧
      ∀ batch, (afterFailure s job e p).1.batch? = some batch → batch = job.batch := by
  rw [afterFailure]
  split
  · exact ⟨fail_still job p, rfl, by rintro _ ⟨⟩⟩
  · exact ⟨fail_still job p, rfl, by rintro _ ⟨⟩⟩
  · exact ⟨by constructor <;> simp [Uptake.next, PushEvent.drained?], rfl,
      fun _ h ↦ (Option.some.inj h).symm⟩

/-! ## What the remote end keeps

A call is decided when it begins, and told of when it ends.  While a submission is in progress, the
remote end may therefore have one envelope more than the uptake. -/

/-- Some of a batch from its front, but not all of it. -/
def IsPart (l batch : List Envelope) : Prop := l <+: batch ∧ l ≠ batch

/-- What was taken in attempts that failed before all of the batch was submitted. -/
def Repeats (l batch : List Envelope) : Prop :=
  ∃ parts : List (List Envelope), l = parts.flatten ∧ ∀ part ∈ parts, IsPart part batch

theorem Repeats.nil (batch : List Envelope) : Repeats [] batch := ⟨[], rfl, fun _ h ↦ nomatch h⟩

theorem Repeats.append {l part batch : List Envelope} (h : Repeats l batch)
    (hp : IsPart part batch) : Repeats (l ++ part) batch := by
  obtain ⟨parts, rfl, hparts⟩ := h
  refine ⟨parts ++ [part], by simp, fun q hq ↦ ?_⟩
  rcases List.mem_append.mp hq with hq | hq
  · exact hparts q hq
  · rw [List.mem_singleton.mp hq]
    exact hp

theorem isPart_nil {batch : List Envelope} (h : batch ≠ []) : IsPart [] batch :=
  ⟨List.nil_prefix, h.symm⟩

theorem isPart_of_append {l rest batch : List Envelope} {e : Envelope}
    (h : l ++ e :: rest = batch) : IsPart l batch := by
  refine ⟨⟨_, h⟩, fun hl ↦ ?_⟩
  rw [hl] at h
  simp at h

/-- A batch is on its way, and some of it may have been taken before. -/
structure Underway (batch : List Envelope) (p : PushState σ) : Prop where
  latest : p.drained.getLast? = some batch
  nonempty : batch ≠ []
  repeated : Repeats p.uptake.repeated batch

theorem Underway.of_still {batch : List Envelope} {p p' : PushState σ} (h : Underway batch p)
    (still : p.Still p') : Underway batch p' :=
  ⟨by rw [still.drained]; exact h.latest, h.nonempty, by rw [still.uptake]; exact h.repeated⟩

/-- The envelope of a submission, if it succeeds. -/
def taken (e : Envelope) : Except ExportError Unit → List Envelope
  | .ok () => [e]
  | .error _ => []

/-- What the remote end keeps when the sender stands at a phase. -/
inductive Kept (buffer : σ → List Envelope) (p : PushState σ) : Phase → Prop where
  | resting {φ : Phase} (call : φ.inCall = false) (kept : buffer p.client = p.uptake.all)
    (underway : ∀ batch, φ.batch? = some batch → Underway batch p ∧ IsPart p.uptake.current batch) :
    Kept buffer p φ
  | submitting {job : Job} {e : Envelope} {rest : List Envelope} {t : Nat}
    {result : Except ExportError Unit} (kept : buffer p.client = p.uptake.all ++ taken e result)
    (underway : Underway job.batch p) (todo : p.uptake.current ++ e :: rest = job.batch) :
    Kept buffer p (.submitting job e rest t result)
  | flushing {job : Job} {t : Nat} {result : Except ExportError Unit} (kept : buffer p.client = [])
    (underway : Underway job.batch p) (done : p.uptake.current = job.batch) :
    Kept buffer p (.flushing job t result)

/-- A turn after which the sender stands at a phase delivers what the remote end has taken if it is
the beginning of a flush that succeeds, and nothing otherwise. -/
def Delivers (delivered : σ → List (List Envelope)) (p p' : PushState σ) : Phase → Prop
  | .flushing job _ (.ok ()) => delivered p'.client =
      delivered p.client ++ [p'.uptake.carried ++ p'.uptake.repeated ++ job.batch]
  | _ => delivered p'.client = delivered p.client

section Steps

variable {s : SenderSetup σ} {buffer : σ → List Envelope} {delivered : σ → List (List Envelope)}
  {p q p' : PushState σ} {φ φ' : Phase} {job : Job}

/-- Nothing is asked of the remote end. -/
theorem Kept.rest (kept : buffer p.client = p.uptake.all) (still : p.Still p')
    (call : φ'.inCall = false)
    (underway : ∀ batch, φ'.batch? = some batch →
      Underway batch p ∧ IsPart p.uptake.current batch) :
    Kept buffer p' φ' ∧ Delivers delivered p p' φ' := by
  constructor
  · refine .resting call ?_ fun batch h ↦ ?_
    · rw [still.client, still.uptake]; exact kept
    · rw [still.uptake]; exact ⟨(underway batch h).1.of_still still, (underway batch h).2⟩
  · cases φ' with
    | submitting | flushing => cases call
    | _ => exact congrArg delivered still.client

/-- No batch is underway any more. -/
theorem Kept.rest_of_none (kept : buffer p.client = p.uptake.all) (still : p.Still p')
    (call : φ'.inCall = false) (idle : φ'.batch? = none) :
    Kept buffer p' φ' ∧ Delivers delivered p p' φ' :=
  Kept.rest kept still call fun batch h ↦ by
    rw [idle] at h
    cases h

/-- The next call of an attempt begins. -/
theorem beginCall_kept (follows : s.client.Follows buffer delivered)
    (kept : buffer p.client = p.uptake.all) (underway : Underway job.batch p) {rest : List Envelope}
    (todo : p.uptake.current ++ rest = job.batch) :
    Kept buffer (beginCall s job rest p).2 (beginCall s job rest p).1 ∧
      Delivers delivered p (beginCall s job rest p).2 (beginCall s job rest p).1 := by
  cases rest with
  | nil =>
    -- Nothing is left to submit, so the whole batch is with the client when the flush begins.
    rw [List.append_nil] at todo
    simp only [beginCall, beginFlush]
    refine ⟨.flushing (follows.flush_buffer _) ⟨underway.1, underway.2, underway.3⟩ todo, ?_⟩
    cases hr : (s.client.flush p.client).2.result with
    | ok =>
      refine (follows.flush_ok hr).trans ?_
      rw [kept, Uptake.all, todo]
      rfl
    | error => exact follows.flush_error hr
  | cons e rest =>
    simp only [beginCall]
    refine ⟨.submitting ?_ ⟨underway.1, underway.2, underway.3⟩ todo, follows.submit_delivered _ _⟩
    cases hr : (s.client.submit p.client e).2.result with
    | ok =>
      refine (follows.submit_ok hr).trans ?_
      rw [kept]
      rfl
    | error =>
      refine (follows.submit_error hr).trans ?_
      rw [kept]
      exact (List.append_nil _).symm

theorem draining_kept {once fired : Bool} (e : step s once fired .draining p = some (φ', p'))
    (kept : buffer p.client = p.uptake.all) :
    Kept buffer p' φ' ∧ Delivers delivered p p' φ' := by
  cases hd : drain s.maxBatchSize p.channel with
  | mk batch c =>
    simp only [step, PushState.channel_become, hd] at e
    cases batch with
    | nil =>
      obtain ⟨rfl, rfl⟩ := eq_of_some e
      refine Kept.rest_of_none kept ⟨rfl, ?_, ?_⟩ rfl rfl
      · exact (PushState.uptake_become _ _).trans (PushState.uptake_become p .draining)
      · exact (PushState.drained_become _ _).trans (PushState.drained_become p .draining)
    | cons x batch =>
      obtain ⟨rfl, rfl⟩ := eq_of_some e
      -- what the remote end has taken so far was for batches before
      have huptake :
          (({ p.become .draining with channel := c }).note (.drained (x :: batch))).uptake =
            ⟨p.uptake.all, [], []⟩ := by
        rw [PushState.uptake_note]
        exact congrArg (Uptake.next · (.drained (x :: batch))) (PushState.uptake_become p .draining)
      refine ⟨.resting rfl ?_ ?_, rfl⟩
      · rw [huptake]
        exact kept.trans (by simp [Uptake.all])
      · rintro _ ⟨⟩
        refine ⟨⟨?_, List.cons_ne_nil _ _, ?_⟩, ?_⟩
        · rw [PushState.drained_note]
          exact List.getLast?_concat
        · rw [huptake]; exact .nil _
        · rw [huptake]; exact isPart_nil (List.cons_ne_nil _ _)

/-- An attempt begins. -/
theorem attempt_kept (follows : s.client.Follows buffer delivered)
    (kept : buffer p.client = p.uptake.all) (underway : Underway job.batch p)
    (part : IsPart p.uptake.current job.batch) (q : PushState σ)
    (hq : q = (p.become .sending).note .attempt) :
    Kept buffer (beginCall s job job.batch q).2 (beginCall s job job.batch q).1 ∧
      Delivers delivered p (beginCall s job job.batch q).2 (beginCall s job job.batch q).1 := by
  subst hq
  refine beginCall_kept follows ?_ ⟨?_, underway.nonempty, ?_⟩ (by simp [Uptake.next])
  · simp [kept, Uptake.next, Uptake.all]
  · simpa [PushEvent.drained?] using underway.latest
  · simpa [Uptake.next] using underway.repeated.append part

/-- A turn from a phase without a call. -/
theorem resting_kept (follows : s.client.Follows buffer delivered) {once fired : Bool}
    (e : step s once fired φ p = some (φ', p')) (call : φ.inCall = false)
    (kept : buffer p.client = p.uptake.all)
    (underway : ∀ batch, φ.batch? = some batch → Underway batch p ∧ IsPart p.uptake.current batch) :
    Kept buffer p' φ' ∧ Delivers delivered p p' φ' := by
  cases φ with
  | looping =>
    cases fired <;> simp only [step, Option.some_inj, Prod.mk.injEq, if_true, Bool.false_eq_true,
      if_false] at e <;> obtain ⟨rfl, rfl⟩ := e
    · exact Kept.rest_of_none kept (.refl p) rfl rfl
    · exact Kept.rest_of_none kept ⟨rfl, by simp, by simp⟩ rfl rfl
  | draining => exact draining_kept e kept
  | napping t =>
    simp only [step, Option.ite_none_right_eq_some, Option.some_inj, endTick, Prod.mk.injEq] at e
    obtain ⟨-, rfl, rfl⟩ := e
    exact Kept.rest_of_none kept ⟨rfl, by simp [Uptake.next], by simp [PushEvent.drained?]⟩ rfl rfl
  | deciding job =>
    simp only [step] at e
    split at e
    · obtain ⟨rfl, rfl⟩ := eq_of_some e
      exact Kept.rest_of_none kept (abandon_still job p) rfl rfl
    · obtain ⟨rfl, rfl⟩ := eq_of_some e
      obtain ⟨hunder, hpart⟩ := underway job.batch rfl
      exact attempt_kept follows kept hunder hpart _ rfl
  | backingOff job t =>
    simp only [step] at e
    split at e
    · obtain ⟨rfl, rfl⟩ := eq_of_some e
      exact Kept.rest_of_none kept (abandon_still job p) rfl rfl
    · simp only [Option.ite_none_right_eq_some, Option.some_inj, Prod.mk.injEq] at e
      obtain ⟨-, rfl, rfl⟩ := e
      exact Kept.rest kept (.refl p) rfl underway
  | ticked o =>
    cases once <;> simp [step] at e
    obtain ⟨rfl, rfl⟩ := e
    exact Kept.rest_of_none kept (.refl p) rfl rfl
  | submitting | flushing => cases call
  | stopped => simp [step] at e

/-- A submission ends. -/
theorem submitting_kept (follows : s.client.Follows buffer delivered)
    {once fired : Bool} {x : Envelope} {rest : List Envelope} {t : Nat}
    {result : Except ExportError Unit}
    (e : step s once fired (.submitting job x rest t result) p = some (φ', p'))
    (kept : buffer p.client = p.uptake.all ++ taken x result) (underway : Underway job.batch p)
    (todo : p.uptake.current ++ x :: rest = job.batch) :
    Kept buffer p' φ' ∧ Delivers delivered p p' φ' := by
  simp only [step, Option.ite_none_left_eq_some] at e
  obtain ⟨-, e⟩ := e
  cases result with
  | ok =>
    obtain ⟨rfl, rfl⟩ := eq_of_some e
    refine beginCall_kept (p := p.note (.submitted x (.ok ()))) follows ?_
      ⟨?_, underway.nonempty, ?_⟩ ?_
    · simpa [Uptake.next, Uptake.all, taken] using kept
    · simpa [PushEvent.drained?] using underway.latest
    · simpa [Uptake.next] using underway.repeated
    · simpa [Uptake.next] using todo
  | error err =>
    obtain ⟨rfl, rfl⟩ := eq_of_some e
    obtain ⟨still, call, same⟩ := afterFailure_still s job err (p.note (.submitted x (.error err)))
    have noted : p.Still (p.note (.submitted x (.error err))) :=
      ⟨rfl, by simp [Uptake.next], by simp [PushEvent.drained?]⟩
    refine Kept.rest (by simpa [taken] using kept) (noted.trans still) call fun batch h ↦ ?_
    rw [same batch h]
    exact ⟨underway, isPart_of_append todo⟩

/-- A flush ends. -/
theorem flushing_kept {once fired : Bool} {t : Nat} {result : Except ExportError Unit}
    (e : step s once fired (.flushing job t result) p = some (φ', p')) (kept : buffer p.client = [])
    (underway : Underway job.batch p) : Kept buffer p' φ' ∧ Delivers delivered p p' φ' := by
  simp only [step, Option.ite_none_left_eq_some] at e
  obtain ⟨-, e⟩ := e
  -- a flush leaves nothing behind, whether it succeeds or fails
  have huptake : (p.note (.flushed result)).uptake = .empty := by simp [Uptake.next]
  have hkept :
      buffer (p.note (.flushed result)).client = (p.note (.flushed result)).uptake.all := by
    rw [huptake]; exact kept
  have hunder : Underway job.batch (p.note (.flushed result)) :=
    ⟨by simpa [PushEvent.drained?] using underway.latest, underway.nonempty,
      by rw [huptake]; exact .nil _⟩
  have hpart : IsPart (p.note (.flushed result)).uptake.current job.batch := by
    rw [huptake]; exact isPart_nil underway.nonempty
  cases result with
  | ok =>
    obtain ⟨rfl, rfl⟩ := eq_of_some e
    exact Kept.rest_of_none (p := p.note (.flushed (.ok ()))) hkept (succeed_still job _) rfl rfl
  | error err =>
    obtain ⟨rfl, rfl⟩ := eq_of_some e
    obtain ⟨still, call, same⟩ := afterFailure_still s job err (p.note (.flushed (.error err)))
    refine Kept.rest (p := p.note (.flushed (.error err))) hkept still call fun batch h ↦ ?_
    rw [same batch h]
    exact ⟨hunder, hpart⟩

/-- **What a turn of the sender makes of what the remote end keeps, and what it delivers.** -/
theorem step_kept (follows : s.client.Follows buffer delivered) {once fired : Bool}
    (e : step s once fired φ p = some (φ', p')) (h : Kept buffer p φ) :
    Kept buffer p' φ' ∧ Delivers delivered p p' φ' := by
  cases h with
  | resting call kept underway => exact resting_kept follows e call kept underway
  | submitting kept underway todo => exact submitting_kept follows e kept underway todo
  | flushing kept underway done => exact flushing_kept e kept underway

theorem Kept.of_still (h : Kept buffer p φ) (still : p.Still p') : Kept buffer p' φ := by
  cases h with
  | resting call kept underway =>
    refine .resting call (by rw [still.client, still.uptake]; exact kept) fun batch h ↦ ?_
    rw [still.uptake]
    exact ⟨(underway batch h).1.of_still still, (underway batch h).2⟩
  | submitting kept underway todo =>
    exact .submitting (by rw [still.client, still.uptake]; exact kept) (underway.of_still still)
      (by rw [still.uptake]; exact todo)
  | flushing kept underway done =>
    exact .flushing (by rw [still.client]; exact kept) (underway.of_still still)
      (by rw [still.uptake]; exact done)

end Steps

end Sender

namespace Pipeline

variable {σ : Type} {s : SenderSetup σ} {buffer : σ → List Envelope}
  {delivered : σ → List (List Envelope)}

open Sender

/-- Nothing is asked of the remote end beside the turns of the sender. -/
theorem kept_of_beside {φ φ' : Phase} {p p' : PushState σ} (e : Beside φ p φ' p')
    (h : Kept buffer p φ) : Kept buffer p' φ' ∧ p'.client = p.client := by
  cases e with
  | begin hφ hψ =>
    cases h with
    | resting call kept underway =>
      rcases hψ with rfl | rfl <;> exact ⟨.resting rfl kept (fun _ h ↦ nomatch h), rfl⟩
    | submitting | flushing => cases hφ
  | offer e pushed c hc =>
    have still : p.Still ((offerEvents e pushed).foldl PushState.note { p with channel := c }) := by
      cases pushed <;> refine ⟨rfl, ?_, ?_⟩ <;>
        simp [offerEvents, PushState.uptake, PushState.drained, PushState.events, PushState.note,
          Uptake.next, PushEvent.drained?]
    exact ⟨h.of_still still, still.client⟩
  | wait c same => exact ⟨h.of_still ⟨rfl, rfl, rfl⟩, rfl⟩
  | elapse ms => exact ⟨h.of_still ⟨rfl, rfl, rfl⟩, rfl⟩

/-- The batch that a move begins to flush, if the flush succeeds. -/
def flushes? (t : Passage (Pipeline σ) Move) : Option (List Envelope) :=
  match senderTurn? t with
  | some (_, .flushing job _ (.ok ())) => some job.batch
  | _ => none

/-- What a successful flush of a batch delivers. -/
structure Delivery (delivered : σ → List (List Envelope)) (batch : List Envelope)
    (t : Passage (Pipeline σ) Move) : Prop where
  /-- The batch is the one that was drained last. -/
  latest : t.after.shared.drained.getLast? = some batch
  /-- All of the batch is delivered, in order. It comes after what was taken in earlier attempts,
  when nothing is left from batches before. -/
  whole : ∃ earlier, delivered t.after.shared.client =
      delivered t.before.shared.client ++ [earlier ++ batch] ∧
    (t.after.shared.uptake.carried = [] → earlier = t.after.shared.uptake.repeated)
  /-- In each earlier attempt, what was taken is less than the batch. -/
  repeated : Repeats t.after.shared.uptake.repeated batch

/-- A turn delivers what `Delivers` says it does. -/
theorem delivery_of_turn {t : Passage (Pipeline σ) Move} {φ φ' : Phase}
    (turn : senderTurn? t = some (φ, φ')) (kept : Kept buffer t.after.shared φ')
    (delivers : Delivers delivered t.before.shared t.after.shared φ') :
    (flushes? t = none → delivered t.after.shared.client = delivered t.before.shared.client) ∧
      ∀ batch, flushes? t = some batch → Delivery delivered batch t := by
  simp only [flushes?, turn]
  cases kept with
  | flushing kept underway done =>
    rename_i job until_ result
    cases result with
    | ok =>
      refine ⟨(fun h ↦ nomatch h), fun batch h ↦ ?_⟩
      obtain rfl : job.batch = batch := Option.some.inj h
      refine ⟨underway.latest, ⟨_, delivers, fun h ↦ ?_⟩, underway.repeated⟩
      rw [h, List.nil_append]
    | error => exact ⟨fun _ ↦ delivers, fun _ h ↦ nomatch h⟩
  | submitting => exact ⟨fun _ ↦ delivers, fun _ h ↦ nomatch h⟩
  | resting call =>
    cases φ' with
    | submitting | flushing => cases call
    | _ => exact ⟨fun _ ↦ delivers, fun _ h ↦ nomatch h⟩

theorem move_kept (follows : s.client.Follows buffer delivered) {m : Move} {w w' : Pipeline σ}
    {φ : Phase} (hat : w.At φ) (h : Kept buffer w.shared φ) (e : move s m w = some w') :
    (∃ φ', w'.At φ' ∧ Kept buffer w'.shared φ') ∧
      (flushes? ⟨w, m, w'⟩ = none →
        delivered w'.shared.client = delivered w.shared.client) ∧
      ∀ batch, flushes? ⟨w, m, w'⟩ = some batch → Delivery delivered batch ⟨w, m, w'⟩ := by
  obtain ⟨φ', hat', ⟨⟨once, fired, hstep⟩, turn⟩ | ⟨hbeside, turn⟩⟩ := turn_or_beside hat e
  · obtain ⟨hkept, hdelivers⟩ := step_kept follows hstep h
    exact ⟨⟨φ', hat', hkept⟩, delivery_of_turn turn hkept hdelivers⟩
  · obtain ⟨hkept, hclient⟩ := kept_of_beside hbeside h
    refine ⟨⟨φ', hat', hkept⟩, fun _ ↦ congrArg delivered hclient, fun batch hbatch ↦ ?_⟩
    simp [flushes?, turn] at hbatch

/-- **A successful flush delivers the batch that was drained last, as a whole and in order**, and
nothing but this batch if no attempt that took envelopes has failed before it; every other move
delivers nothing. -/
theorem flush_delivers_batch (follows : s.client.Follows buffer delivered) {c : Channel Envelope}
    {client : σ} (fresh : buffer client = []) {l : List (Passage (Pipeline σ) Move)}
    {w : Pipeline σ} (run : Trail (move s) (start c client) l w) :
    ∀ t ∈ l, (flushes? t = none →
        delivered t.after.shared.client = delivered t.before.shared.client) ∧
      ∀ batch, flushes? t = some batch → Delivery delivered batch t := by
  intro t ht
  have first : ∃ φ, (start c client).At φ ∧ Kept buffer (start c client).shared φ :=
    ⟨.stopped, at_start c client, .resting rfl fresh (fun _ h ↦ nomatch h)⟩
  obtain ⟨⟨φ, hat, hkept⟩, e⟩ := run.forall_mem (P := fun w ↦ ∃ φ, w.At φ ∧ Kept buffer w.shared φ)
    first (fun m ⟨φ, hat, hkept⟩ e ↦ (move_kept follows hat hkept e).1) t ht
  exact (move_kept follows hat hkept e).2

/-- A remote end that takes one envelope and does not take the next one at first. -/
def faltering : Buffered ScriptedClient := .start ⟨[⟨0, .ok ()⟩, ⟨0, .error (.timeout "late")⟩], []⟩

/-- Two envelopes are exported and sent. -/
def sendTwo : List Move :=
  [.beginExport 1 [.gauge "a" 1, .gauge "b" 1], .turn (.exporting 1),
    .turn (.exporting 1), .beginTick 2 2, .turn (.sending 2), .turn (.sending 2),
    .turn (.sending 2), .turn (.sending 2), .turn (.sending 2), .turn (.sending 2),
    .turn (.sending 2), .turn (.sending 2), .turn (.sending 2)]

/-- An attempt that takes one of two envelopes fails; with the next one, three are delivered. -/
theorem flush_delivers_batch_again :
    ∃ (c : Channel Envelope) (l : List (Passage (Pipeline (Buffered ScriptedClient)) Move))
      (w : Pipeline (Buffered ScriptedClient)),
      Channel.new 10 .dropNewest .new = .ok c ∧
      Trail (move (retryingOnce (Buffered.client ScriptedClient.client))) (start c faltering) l w ∧
      (l.filterMap flushes?).map List.length = [2] ∧
      w.shared.client.delivered.map List.length = [3] ∧
      ∀ t ∈ l, ∀ batch, flushes? t = some batch → Delivery Buffered.delivered batch t := by
  have run : Trail (move (retryingOnce (Buffered.client ScriptedClient.client)))
      (start ⟨⟨10, .dropNewest, [], by decide⟩, 0, .new, .new, .new⟩ faltering) _ _ :=
    Trail.of_follow sendTwo rfl
  have follows := Buffered.client_follows ScriptedClient.client
  exact ⟨_, _, _, rfl, run, rfl, rfl, fun t ht ↦ (flush_delivers_batch follows rfl run t ht).2⟩

/-- Not every successful flush delivers exactly the batch that was drained last: when a batch is
tried again, the remote end still has what it took in the attempt before. -/
theorem not_flush_delivers_exactly_batch :
    ¬ ∀ {σ : Type} (s : SenderSetup σ) (buffer : σ → List Envelope)
      (delivered : σ → List (List Envelope)) (_ : s.client.Follows buffer delivered)
      (c : Channel Envelope) (client : σ) (_ : buffer client = [])
      (l : List (Passage (Pipeline σ) Move)) (w : Pipeline σ)
      (_ : Trail (move s) (start c client) l w), ∀ t ∈ l, ∀ batch, flushes? t = some batch →
        delivered t.after.shared.client = delivered t.before.shared.client ++ [batch] := by
  intro h
  have run : Trail (move (retryingOnce (Buffered.client ScriptedClient.client)))
      (start ⟨⟨10, .dropNewest, [], by decide⟩, 0, .new, .new, .new⟩ faltering) _ _ :=
    Trail.of_follow sendTwo rfl
  have follows := Buffered.client_follows ScriptedClient.client
  have exact_batch :=
    h (retryingOnce (Buffered.client ScriptedClient.client)) _ _ follows _ _ rfl _ _
    run _ (List.mem_of_getElem? (i := 11) rfl) _ rfl
  exact absurd (congrArg (List.map List.length) exact_batch) (by decide)

end Pipeline

end MetricsAgent
