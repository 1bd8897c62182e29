import MetricsAgent.Proofs.Push.Body
import MetricsAgent.Proofs.Push.Delivery

/-!
# What is posted for a batch

A client that posts over HTTP keeps what is submitted until the flush, and no submission fails.  So
when a flush begins, what it has kept is the batch (`HttpPush.Holds`), and what it posts is the
batch, whatever came of the requests before: `Pipeline.posts_carry_batch`.

Three things are put together for this.

* What a turn of the sender asks of the remote end (`Sender.Asks`): nothing, the submission of the
  next envelope of the batch, or a flush when there is none left.
* What the client makes of a flush (`HttpPush.Posts`), for every reception of its request: a
  transport that breaks off in any way, and an answer with any status, whose body comes or does not
  come, at any time.
* Which batch it is: the one that was drained last, in every attempt.

`Pipeline.Conduct` says of each move of a run what it makes of the client.  There is one request for
each flush at most, and every other move leaves what was posted as it was.  That the body tells the
batch exactly is the subject of `Proofs.Push.Body`.

What the other side answers is a parameter of the client.  It may depend on the number of requests
before and on the request, and so be different each time.
-/

set_option autoImplicit false

namespace MetricsAgent

open Sender

/-! ## What the sender asks of the remote end

This holds of every remote end.  A turn makes one call at most, because a call has to end before the
next one begins. -/

namespace Sender

variable {σ : Type}

/-- What an attempt has still to submit, once a call has succeeded or before the first one. -/
def Phase.todo? : Phase → Option (Job × List Envelope)
  | .deciding job => some (job, job.batch)
  | .submitting job _ rest _ (.ok ()) => some (job, rest)
  | _ => none

/-- Whether a submission was successful, and is about to be heard of. -/
def Phase.isSubmitted : Phase → Bool
  | .submitting _ _ _ _ (.ok ()) => true
  | _ => false

/-- What a turn of the sender asks of the remote end. -/
inductive Asks (s : SenderSetup σ) (φ : Phase) (p : PushState σ) : Phase → PushState σ → Prop where
  | nothing {φ' : Phase} {p' : PushState σ} (pause : φ.isSubmitted = false)
    (call : φ'.inCall = false)
    (client : p'.client = p.client) : Asks s φ p φ' p'
  | submission {job : Job} {e : Envelope} {rest : List Envelope} {p' : PushState σ}
    (todo : φ.todo? = some (job, e :: rest)) (client : p'.client = (s.client.submit p.client e).1)
    (until_ : Nat) :
    Asks s φ p (.submitting job e rest until_ (s.client.submit p.client e).2.result) p'
  | flush {job : Job} {p' : PushState σ} (todo : φ.todo? = some (job, []))
    (client : p'.client = (s.client.flush p.client).1) (until_ : Nat) :
    Asks s φ p (.flushing job until_ (s.client.flush p.client).2.result) p'

section Steps

variable {s : SenderSetup σ} {φ φ' : Phase} {p p' q : PushState σ} {job : Job}

/-- An attempt goes on with the next call. -/
theorem beginCall_asks {rest : List Envelope} (todo : φ.todo? = some (job, rest))
    (client : q.client = p.client) :
    Asks s φ p (beginCall s job rest q).1 (beginCall s job rest q).2 := by
  cases rest with
  | nil =>
    simp only [beginCall, beginFlush, client]
    exact .flush todo rfl _
  | cons e rest =>
    simp only [beginCall, client]
    exact .submission todo rfl _

theorem afterFailure_asks {e : ExportError} (pause : φ.isSubmitted = false)
    (client : q.client = p.client) :
    Asks s φ p (afterFailure s job e q).1 (afterFailure s job e q).2 := by
  obtain ⟨still, call, -⟩ := afterFailure_still s job e q
  exact .nothing pause call (still.client.trans client)

/-- **A turn of the sender makes one call at most**, the next one of its attempt. -/
theorem step_asks {once fired : Bool} (h : step s once fired φ p = some (φ', p')) :
    Asks s φ p φ' p' := by
  cases φ with
  | looping =>
    cases fired <;> simp only [step, Option.some_inj, Prod.mk.injEq, if_true, Bool.false_eq_true,
      if_false] at h <;> obtain ⟨rfl, rfl⟩ := h <;> exact .nothing rfl rfl rfl
  | draining =>
    simp only [step] at h
    split at h <;> obtain ⟨rfl, rfl⟩ := eq_of_some h <;> exact .nothing rfl rfl rfl
  | napping t =>
    simp only [step, Option.ite_none_right_eq_some] at h
    obtain ⟨rfl, rfl⟩ := eq_of_some h.2
    exact .nothing rfl rfl rfl
  | deciding job =>
    simp only [step] at h
    split at h
    · obtain ⟨rfl, rfl⟩ := eq_of_some h
      exact .nothing rfl rfl (abandon_still job p).client
    · obtain ⟨rfl, rfl⟩ := eq_of_some h
      exact beginCall_asks rfl rfl
  | submitting job e rest t result =>
    simp only [step, Option.ite_none_left_eq_some] at h
    cases result with
    | ok =>
      obtain ⟨rfl, rfl⟩ := eq_of_some h.2
      exact beginCall_asks rfl rfl
    | error err =>
      obtain ⟨rfl, rfl⟩ := eq_of_some h.2
      exact afterFailure_asks rfl rfl
  | flushing job t result =>
    simp only [step, Option.ite_none_left_eq_some] at h
    cases result with
    | ok =>
      obtain ⟨rfl, rfl⟩ := eq_of_some h.2
      exact .nothing rfl rfl (succeed_still job _).client
    | error err =>
      obtain ⟨rfl, rfl⟩ := eq_of_some h.2
      exact afterFailure_asks rfl rfl
  | backingOff job t =>
    simp only [step] at h
    split at h
    · obtain ⟨rfl, rfl⟩ := eq_of_some h
      exact .nothing rfl rfl (abandon_still job p).client
    · simp only [Option.ite_none_right_eq_some] at h
      obtain ⟨rfl, rfl⟩ := eq_of_some h.2
      exact .nothing rfl rfl rfl
  | ticked o =>
    cases once <;> simp only [step, if_true, Bool.false_eq_true, if_false] at h
    · obtain ⟨rfl, rfl⟩ := eq_of_some h
      exact .nothing rfl rfl rfl
    · cases h
  | stopped => cases h

end Steps

end Sender

/-! ## The client

In a submission the client already has the envelope that is submitted.  Between attempts it has
nothing, since the only way out of an attempt is a flush. -/

namespace HttpPush

variable {h : HttpPush}

/-- What the client keeps while the sender stands at a phase: in a submission, which succeeds, the
batch up to the envelope that is submitted, and nothing otherwise. -/
def Holds (c : State) : Phase → Prop
  | .submitting job _ rest _ result => result = .ok () ∧ c.pending ++ rest = job.batch
  | _ => c.pending = []

theorem holds_of_not_inCall {c : State} {φ : Phase} (call : φ.inCall = false) :
    Holds c φ ↔ c.pending = [] := by
  cases φ with
  | submitting | flushing => cases call
  | _ => exact .rfl

/-- What has been submitted and what is still to be submitted make the batch. -/
theorem Holds.pending_append {c : State} {φ : Phase} (holds : Holds c φ) {job : Job}
    {rest : List Envelope} (todo : φ.todo? = some (job, rest)) : c.pending ++ rest = job.batch := by
  cases φ with
  | deciding job' =>
    cases todo
    rw [show c.pending = [] from holds]
    rfl
  | submitting job' e rest' t result =>
    obtain ⟨rfl, pending⟩ := holds
    cases todo
    exact pending
  | _ => cases todo

/-- No submission fails, so a turn that asks for nothing leaves nothing behind. -/
theorem Holds.pending_eq_nil {c : State} {φ : Phase} (holds : Holds c φ)
    (pause : φ.isSubmitted = false) : c.pending = [] := by
  cases φ with
  | submitting job e rest t result =>
    obtain ⟨rfl, -⟩ := holds
    cases pause
  | _ => exact holds

/-- A flush leaves nothing behind, whatever comes of it. -/
theorem pending_flush (h : HttpPush) (c : State) : (h.flush c).1.pending = [] := by
  rw [flush]
  split
  · assumption
  · rfl
  · rfl

theorem holds_of_asks {s : SenderSetup State} (client : s.client = h.client) {φ φ' : Phase}
    {p p' : PushState State} (holds : Holds p.client φ) (asks : Asks s φ p φ' p') :
    Holds p'.client φ' := by
  cases asks with
  | nothing pause call same =>
    rw [holds_of_not_inCall call, same]
    exact holds.pending_eq_nil pause
  | submission todo same until_ =>
    rw [client] at same ⊢
    refine ⟨rfl, ?_⟩
    rw [same, ← holds.pending_append todo]
    exact List.append_assoc _ _ _
  | flush todo same until_ =>
    rw [client] at same
    show p'.client.pending = []
    rw [same]
    exact pending_flush h p.client

/-! ## The batch

The batch that is underway belongs to the phase, and the one that was drained last to the
history. -/

/-- The batch that is underway is the one that was drained last. -/
def IsLatest (p : PushState State) (φ : Phase) : Prop :=
  ∀ batch, φ.batch? = some batch → batch ≠ [] ∧ p.drained.getLast? = some batch

theorem isLatest_of_effect {s : SenderSetup State} {φ φ' : Phase} {p p' : PushState State}
    (latest : IsLatest p φ) (e : Effect s φ p φ' p') : IsLatest p' φ' := by
  cases e with
  | goes batch queue figures retries tells =>
    have drained : p'.drained = p.drained := tells.drained.trans (List.append_nil _)
    intro b hb
    rw [drained]
    exact latest b (batch ▸ hb)
  | drains job batch next size queue items figures retries tells =>
    have drained : p'.drained = p.drained ++ [job.batch] := tells.drained
    subst next
    rintro b ⟨⟩
    rw [drained]
    exact ⟨List.ne_nil_of_length_pos size.1, List.getLast?_concat⟩
  | settles batch o before next =>
    subst next
    rintro b ⟨⟩

/-! ## Requests

What a flush posts depends on the batch alone, and what it answers on the reception alone.  `Posts`
says both, reception by reception, in terms of what was heard and not of the function that hears
it. -/

/-- What the client makes of a flush when it has kept a batch. -/
structure Posts (h : HttpPush) (batch : List Envelope) (result : Except ExportError Unit)
    (before after : State) : Prop where
  /-- Nothing is kept, whatever comes of the request. -/
  emptied : after.pending = []
  /-- A request with a header that cannot be written fails without being sent. -/
  unsent : h.requestHeaders? = none →
    after.posted = before.posted ∧ result = .error (.request h.unwritable)
  /-- One request is made otherwise. It depends on nothing but the batch, and the result on nothing
  but what was heard of it. -/
  sent : ∀ headers, h.requestHeaders? = some headers →
    let request : PostRequest := ⟨h.endpoint, headers, body batch⟩
    let reception := h.remote before.posted.length request
    after.posted = before.posted ++ [(request, reception)] ∧ result = (h.receive reception).result
  /-- A request that breaks off is an error of the kind that the transport tells. -/
  broken : ∀ request ms e, after.posted = before.posted ++ [(request, .broken ms e)] →
    ¬h.timeout < .ofMillis ms → result = .error e.classify
  /-- A good status is a success, whatever the body. -/
  accepted : ∀ request ms status b,
    after.posted = before.posted ++ [(request, .answered ms status b)] →
    ¬h.timeout < .ofMillis ms → 200 ≤ status ∧ status ≤ 299 → result = .ok ()
  /-- Any other status is an error with the first characters of the body, -/
  refused : ∀ request ms status b bytes,
    after.posted = before.posted ++ [(request, .answered ms status b)] →
    ¬h.timeout < .ofMillis ms → ¬(200 ≤ status ∧ status ≤ 299) →
    b.bytes? = some bytes → ¬h.timeout < .ofMillis (ms + b.readMs) →
    result = .error (.status status (String.ofList ((Utf8.decode bytes).toList.take 256)))
  /-- and with none of them where the body cannot be read. -/
  unread : ∀ request ms status b,
    after.posted = before.posted ++ [(request, .answered ms status b)] →
    ¬h.timeout < .ofMillis ms → ¬(200 ≤ status ∧ status ≤ 299) →
    b.bytes? = none ∨ h.timeout < .ofMillis (ms + b.readMs) → result = .error (.status status "")
  /-- The body is an object whose one member holds the envelopes, in order. -/
  parses : Json.parse? (body batch) = some (.object [("points", .array (batch.map (·.toJson)))])
  /-- No other envelopes have the body, -/
  tells : (∀ e ∈ batch, e.value.IsFinite) → ∀ es, body es = body batch → es = batch
  /-- and the reader of envelopes reads them. -/
  reads : (∀ e ∈ batch, IsReadable e) → decode? (body batch) = some batch

theorem isGood_iff {status : Nat} : isGood status = true ↔ 200 ≤ status ∧ status ≤ 299 := by
  rw [isGood, Bool.and_eq_true, decide_eq_true_iff, decide_eq_true_iff]

/-- A flush posts nothing, or one request, and then it answers what the client makes of what it
hears. -/
theorem flush_posted (h : HttpPush) (c : State) : (h.flush c).1.posted = c.posted ∨
    ∃ request r, (h.flush c).1.posted = c.posted ++ [(request, r)] ∧
      (h.flush c).2 = h.receive r := by
  rw [flush]
  split
  · exact .inl rfl
  · exact .inl rfl
  · exact .inr ⟨_, _, rfl, rfl⟩

theorem flush_result_of_posted {c : State} {request : PostRequest} {r : Reception}
    (posted : (h.flush c).1.posted = c.posted ++ [(request, r)]) :
    (h.flush c).2.result = (h.receive r).result := by
  rcases flush_posted h c with nothing | ⟨request', r', one, answer⟩
  · rw [nothing] at posted
    exact absurd (List.self_eq_append_right.mp posted) (List.cons_ne_nil _ _)
  · rw [one] at posted
    obtain ⟨-, rfl⟩ := Prod.mk.inj (List.singleton_inj.mp (List.append_cancel_left posted))
    rw [answer]

section Receive

variable {ms status : Nat} {b : AnswerBody}

/-- An answer with a status that is not good is an error with the first characters of what is
read. -/
theorem receive_answered (inTime : ¬h.timeout < .ofMillis ms)
    (bad : ¬(200 ≤ status ∧ status ≤ 299)) : (h.receive (.answered ms status b)).result =
      .error (.status status (String.ofList ((h.readBody ms b).2.toList.take 256))) := by
  rw [receive, if_neg inTime, ofAnswer, if_neg (isGood_iff.not.mpr bad), maxErrorBody]

theorem readBody_of_bytes {bytes : List UInt8} (there : b.bytes? = some bytes)
    (inTime : ¬h.timeout < .ofMillis (ms + b.readMs)) :
    (h.readBody ms b).2 = Utf8.decode bytes := by
  rw [readBody, if_neg inTime, there]
  rfl

theorem readBody_of_unreadable (lost : b.bytes? = none ∨ h.timeout < .ofMillis (ms + b.readMs)) :
    (h.readBody ms b).2 = "" := by
  rw [readBody]
  split
  · rfl
  · rename_i inTime
    rw [lost.resolve_right inTime]
    rfl

end Receive

theorem posts_of_flush {c : State} (nonempty : c.pending ≠ []) :
    Posts h c.pending (h.flush c).2.result c (h.flush c).1 where
  emptied := pending_flush h c
  unsent none := by
    obtain ⟨e, es, pending⟩ := List.exists_cons_of_ne_nil nonempty
    simp only [flush, pending, none, and_self]
  sent headers some := by
    obtain ⟨e, es, pending⟩ := List.exists_cons_of_ne_nil nonempty
    simp only [flush, pending, some, and_self]
  broken request ms e posted inTime := by
    rw [flush_result_of_posted posted, receive, if_neg inTime]
  accepted request ms status b posted inTime good := by
    rw [flush_result_of_posted posted, receive, if_neg inTime, ofAnswer,
      if_pos (isGood_iff.mpr good)]
  refused request ms status b bytes posted inTime bad there read := by
    rw [flush_result_of_posted posted, receive_answered inTime bad, readBody_of_bytes there read]
  unread request ms status b posted inTime bad lost := by
    rw [flush_result_of_posted posted, receive_answered inTime bad, readBody_of_unreadable lost,
      String.toList_empty, List.take_nil, String.ofList_nil]
  parses := parse?_body _
  tells finite es same := (body_inj finite same.symm).symm
  reads readable := decode?_body readable

/-- **A flush with nothing pending makes no request.** -/
theorem flush_of_pending_eq_nil {c : State} (nothing : c.pending = []) :
    h.flush c = (c, ⟨0, .ok ()⟩) := by
  rw [flush, nothing]

end HttpPush

/-! ## Runs

The flush of a turn is decided when it begins: the request is posted in that move, and what comes of
it is told when the flush ends. -/

namespace Pipeline

variable {s : SenderSetup HttpPush.State} {h : HttpPush}

/-- The batch that a move drains. -/
def drains? {σ : Type} (t : Passage (Pipeline σ) Move) : Option (List Envelope) :=
  match senderTurn? t with
  | some (.draining, .deciding job) => some job.batch
  | _ => none

/-- The batch whose flush a move begins, and the result that the flush will have. -/
def beginsFlush? {σ : Type} (t : Passage (Pipeline σ) Move) :
    Option (List Envelope × Except ExportError Unit) :=
  match senderTurn? t with
  | some (_, .flushing job _ result) => some (job.batch, result)
  | _ => none

/-- Whether a move ends a flush. -/
def endsFlush {σ : Type} (t : Passage (Pipeline σ) Move) : Bool :=
  match senderTurn? t with
  | some (.flushing .., _) => true
  | _ => false

/-- What a move makes of the client of a pipeline that pushes over HTTP. -/
structure Conduct (h : HttpPush) (t : Passage (Pipeline HttpPush.State) Move) : Prop where
  /-- Nothing is pending at the start of a batch. -/
  fresh : ∀ batch, drains? t = some batch → t.after.shared.client.pending = []
  /-- A request is made at the beginning of a flush only. -/
  silent : beginsFlush? t = none → t.after.shared.client.posted = t.before.shared.client.posted
  /-- What is posted is the batch that was drained last, in the first attempt as in every other
  one. -/
  posts : ∀ batch result, beginsFlush? t = some (batch, result) →
    t.after.shared.drained.getLast? = some batch ∧
      h.Posts batch result t.before.shared.client t.after.shared.client
  /-- Nothing is pending after a flush. -/
  emptied : endsFlush t = true → t.after.shared.client.pending = []

open HttpPush

/-- What is known of the client and the batch when the sender stands at a phase. -/
structure Stands (p : PushState State) (φ : Phase) : Prop where
  holds : Holds p.client φ
  latest : IsLatest p φ

theorem stands_of_beside {φ φ' : Phase} {p p' : PushState State} (e : Beside φ p φ' p')
    (stands : Stands p φ) : Stands p' φ' ∧ p'.client = p.client := by
  cases e with
  | begin ended next =>
    have pending : p.client.pending = [] :=
      stands.holds.pending_eq_nil (by cases φ <;> first | rfl | cases ended)
    rcases next with rfl | rfl <;> exact ⟨⟨pending, by rintro b ⟨⟩⟩, rfl⟩
  | offer e pushed c follows =>
    have client :
        ((offerEvents e pushed).foldl PushState.note { p with channel := c }).client = p.client :=
      (PushState.foldl_note _ _).2
    have drained : ((offerEvents e pushed).foldl PushState.note { p with channel := c }).drained =
        p.drained := by
      cases pushed <;> simp [offerEvents, PushState.drained, PushState.events, PushState.note,
        PushEvent.drained?]
    refine ⟨⟨?_, fun b hb ↦ ?_⟩, client⟩
    · rw [client]
      exact stands.holds
    · rw [drained]
      exact stands.latest b hb
  | wait c same => exact ⟨⟨stands.holds, stands.latest⟩, rfl⟩
  | elapse ms => exact ⟨⟨stands.holds, stands.latest⟩, rfl⟩

/-- A move beside the turns of the sender leaves the client alone. -/
theorem conduct_of_silent {t : Passage (Pipeline State) Move} (turn : senderTurn? t = none)
    (same : t.after.shared.client = t.before.shared.client) : Conduct h t where
  fresh batch drains := by simp [drains?, turn] at drains
  silent _ := congrArg State.posted same
  posts batch result begins := by simp [beginsFlush?, turn] at begins
  emptied ends := by simp [endsFlush, turn] at ends

/-- The turn in which a flush begins posts the batch. -/
theorem posts_of_asks (client : s.client = h.client) {φ : Phase}
    {p p' : PushState State} {job : Job} {t : Nat} {result : Except ExportError Unit}
    (before : Holds p.client φ) (asks : Asks s φ p (.flushing job t result) p')
    (after : Stands p' (.flushing job t result)) :
    p'.drained.getLast? = some job.batch ∧ h.Posts job.batch result p.client p'.client := by
  obtain ⟨nonempty, latest⟩ := after.latest job.batch rfl
  cases asks with
  | nothing pause call => cases call
  | flush todo same =>
    have pending : p.client.pending = job.batch := by
      rw [← before.pending_append todo, List.append_nil]
    refine ⟨latest, ?_⟩
    rw [same, client, ← pending]
    exact posts_of_flush (pending ▸ nonempty)

theorem conduct_of_turn (client : s.client = h.client)
    {t : Passage (Pipeline State) Move} {φ φ' : Phase} (turn : senderTurn? t = some (φ, φ'))
    (before : Holds t.before.shared.client φ) (asks : Asks s φ t.before.shared φ' t.after.shared)
    (after : Stands t.after.shared φ') : Conduct h t where
  fresh batch drains := by
    simp only [drains?, turn] at drains
    split at drains
    · rename_i same
      cases same
      exact after.holds
    · cases drains
  silent begins := by
    simp only [beginsFlush?, turn] at begins
    cases asks with
    | nothing pause call same => rw [same]
    | submission todo same =>
      rw [same, client]
      rfl
    | flush todo same => cases begins
  posts batch result begins := by
    simp only [beginsFlush?, turn] at begins
    split at begins
    · rename_i same
      cases same
      cases begins
      exact posts_of_asks client before asks after
    · cases begins
  emptied ends := by
    simp only [endsFlush, turn] at ends
    split at ends
    · rename_i same
      cases same
      cases asks with
      | nothing pause call same =>
        rw [same]
        exact before
      | submission todo | flush todo => cases todo
    · cases ends

theorem move_conduct (client : s.client = h.client) {m : Move} {w w' : Pipeline State} {φ : Phase}
    (hat : w.At φ) (stands : Stands w.shared φ) (e : move s m w = some w') :
    (∃ φ', w'.At φ' ∧ Stands w'.shared φ') ∧ Conduct h ⟨w, m, w'⟩ := by
  obtain ⟨φ', hat', ⟨⟨once, fired, hstep⟩, turn⟩ | ⟨beside, turn⟩⟩ := turn_or_beside hat e
  · have asks := step_asks hstep
    have stands' : Stands w'.shared φ' :=
      ⟨holds_of_asks client stands.holds asks, isLatest_of_effect stands.latest (step_effect hstep)⟩
    exact ⟨⟨φ', hat', stands'⟩, conduct_of_turn client turn stands.holds asks stands'⟩
  · obtain ⟨stands', same⟩ := stands_of_beside beside stands
    exact ⟨⟨φ', hat', stands'⟩, conduct_of_silent turn same⟩

/-- **Every request for a batch carries exactly the batch.** -/
theorem posts_carry_batch (client : s.client = h.client) {c : Channel Envelope}
    {l : List (Passage (Pipeline State) Move)} {w : Pipeline State}
    (run : Trail (move s) (start c .start) l w) :
    (∀ t ∈ l, Conduct h t) ∧ ∀ c : State, c.pending = [] → h.flush c = (c, ⟨0, .ok ()⟩) := by
  refine ⟨fun t ht ↦ ?_, fun c ↦ flush_of_pending_eq_nil⟩
  have first : ∃ φ, (start c State.start).At φ ∧ Stands (start c State.start).shared φ :=
    ⟨.stopped, at_start c _, rfl, by rintro b ⟨⟩⟩
  obtain ⟨⟨φ, hat, stands⟩, e⟩ :=
    run.forall_mem (P := fun w ↦ ∃ φ, w.At φ ∧ Stands w.shared φ) first
    (fun m ⟨φ, hat, stands⟩ e ↦ (move_conduct client hat stands e).1) t ht
  exact (move_conduct client hat stands e).2

/-- A remote end that is busy at first, and takes the second request. -/
def busyOnce : HttpPush :=
  { endpoint := ⟨"http", "", none, some (.domain "metrics"), none, "/push", none, none⟩
    headers := [("X-Token", "secret")]
    timeout := .ofMillis 1000
    unwritable := "builder error"
    remote := fun n _ ↦
      if n = 0 then .answered 0 503 ⟨0, some [98, 117, 115, 121]⟩ else .answered 0 200
        ⟨0, some []⟩ }

/-- A batch that is refused is posted once more, with the same body. -/
theorem posts_carry_batch_twice :
    ∃ (c : Channel Envelope) (l : List (Passage (Pipeline State) Move)) (w : Pipeline State)
      (request : PostRequest),
      Channel.new 10 .dropNewest .new = .ok c ∧
      Trail (move (retryingOnce busyOnce.client)) (start c .start) l w ∧
      (l.filterMap beginsFlush?).map (·.1.length) = [2, 2] ∧
      w.shared.client.posted.map (·.1) = [request, request] ∧ ∀ t ∈ l, Conduct busyOnce t := by
  have run : Trail (move (retryingOnce busyOnce.client))
      (start ⟨⟨10, .dropNewest, [], by decide⟩, 0, .new, .new, .new⟩ State.start) _ _ :=
    Trail.of_follow sendTwo rfl
  exact ⟨_, _, _, _, rfl, run, rfl, rfl, (posts_carry_batch rfl run).1⟩

end Pipeline

end MetricsAgent
