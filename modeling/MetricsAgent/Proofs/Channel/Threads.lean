import MetricsAgent.Channel.Traffic
import MetricsAgent.Proofs.Channel.Refinement

/-!
# A channel between threads

In `Traffic` a task runs without a break from one point where it may have to wait to the next.
Between threads others come in between: a call takes its ticket, others push and pop, and only then
it looks at the queue; it has changed the queue and given the lock back, and nobody knows of it so
far.  Here a call is cut at each of these places, and `Threads.step` is the stretch of a call from
one to the next.

* `Stage` is how far a call has come: it is arriving, it is about to look at the queue, it has
  changed the queue and is about to announce that, it is about to return, or it waits.
* `Threads.move` is what can happen next: a call is made, goes on or is given up, or a token fires.
* `Threads.exists_of_traffic` says that a turn of `Traffic` is some of these stretches made one
  after the other, so that what holds between threads holds of `Traffic`.

There is one consumer: `Threads.move` refuses a second call that waits for an item.  That is how the
channel is used, and it is needed for what follows, since a notification that goes to one of two
consumers may not be the one that was meant.
-/

set_option autoImplicit false

namespace MetricsAgent

namespace Threads

/-- What is called. -/
inductive Request (α : Type) where
  | enqueue (x : α)
  | tryEnqueue (x : α)
  | dequeue
  | tryDequeue

namespace Request

variable {α : Type}

/-- Whether the call waits for space. -/
def isEnqueue : Request α → Bool
  | enqueue _ => true
  | _ => false

/-- Whether the call waits for an item. -/
def isDequeue : Request α → Bool
  | dequeue => true
  | _ => false

/-- Whether the call puts an item in. -/
def isPush : Request α → Bool
  | enqueue _ | tryEnqueue _ => true
  | _ => false

end Request

/-- How far a call has come. -/
inductive Stage where
  /-- It has no ticket. -/
  | arriving
  /-- It is about to lock the queue. -/
  | looking
  /-- It has changed the queue and given the lock back. It is about to show the new length, if there
  is one, and to notify the others. -/
  | announcing (length : Option Nat)
  /-- It has its result, and a ticket to give back. -/
  | returning
  | parked

/-- A call under way: the number of its ticket, its token, what is called, and how far it has
come. -/
structure Call (α : Type) where
  id : Nat
  token : Nat
  request : Request α
  stage : Stage

end Threads

/-- A channel with the calls under way and the tokens that have fired. -/
structure Threads (α : Type) where
  channel : Channel α
  calls : List (Threads.Call α)
  fired : List Nat

namespace Threads

variable {α : Type}

/-- A channel without calls. -/
def start (c : Channel α) : Threads α := ⟨c, [], []⟩

/-! ## The stretches of a call

Each leaves the channel and the call as they are at its end; a call that is over is `none`. -/

/-- Take a ticket, if the call may have to wait. -/
def arrive (ch : Channel α) (c : Call α) : Channel α × Call α :=
  match c.request with
  | .enqueue x =>
    if ch.queue.mode = .block then
      ({ ch with space := ch.space.register c.id }, { c with stage := .looking })
    else (ch, { c with request := .tryEnqueue x, stage := .looking })
  | .dequeue => ({ ch with items := ch.items.register c.id }, { c with stage := .looking })
  | _ => (ch, { c with stage := .looking })

/-- The call has changed the queue, which has `n` items now. -/
def changed (ch : Channel α) (c : Call α) (queue : BoundedQueue α) (n : Nat) :
    Channel α × Option (Call α) :=
  ({ ch with queue := queue, length := n }, some { c with stage := .announcing (some n) })

/-- Lock the queue, change it if that is possible, and give the lock back. -/
def look (ch : Channel α) (c : Call α) : Channel α × Option (Call α) :=
  match c.request with
  | .enqueue x =>
    match ch.queue.pushIfSpace? x with
    | some queue => changed ch c queue (ch.length + 1)
    | none => (ch, some { c with stage := .parked })
  | .tryEnqueue x =>
    match ch.queue.push x with
    | (.stored, queue) => changed ch c queue (ch.length + 1)
    | (.evicted _, queue) =>
      ({ ch with queue := queue }.countDrop, some { c with stage := .announcing none })
    | (.refused, queue) => ({ ch with queue := queue }.countDrop, none)
  | .dequeue =>
    match ch.queue.pop? with
    | some (_, queue) => changed ch c queue (ch.length - 1)
    | none => (ch, some { c with stage := .parked })
  | .tryDequeue =>
    match ch.queue.pop? with
    | some (_, queue) => changed ch c queue (ch.length - 1)
    | none => (ch, none)

/-- Show a length to observers. -/
def showLength (ch : Channel α) : Option Nat → Channel α
  | some n => { ch with metrics := { ch.metrics with queueLength := n.toUInt64 } }
  | none => ch

/-- Show the new length, and notify those who wait for what there is now. -/
def announce (ch : Channel α) (c : Call α) (length : Option Nat) : Channel α × Option (Call α) :=
  let ch := showLength ch length
  match c.request with
  | .enqueue _ => (ch.announceItem, some { c with stage := .returning })
  | .tryEnqueue _ => (ch.announceItem, none)
  | .dequeue => ({ ch with space := ch.space.notifyAll }, some { c with stage := .returning })
  | .tryDequeue => ({ ch with space := ch.space.notifyAll }, none)

/-- Give the ticket back. -/
def leave (ch : Channel α) (c : Call α) : Channel α :=
  match c.request with
  | .enqueue _ => { ch with space := ch.space.giveBack c.id }
  | .dequeue => { ch with items := ch.items.giveBack c.id }
  | _ => ch

/-- Whether the ticket has fired. -/
def isTold (ch : Channel α) (c : Call α) : Bool :=
  match c.request with
  | .enqueue _ => ch.space.isFired c.id
  | .dequeue => ch.items.isFired c.id
  | _ => false

/-- Go on with the fired ticket. -/
def wake (ch : Channel α) (c : Call α) : Channel α :=
  match c.request with
  | .enqueue _ => { ch with space := ch.space.consume c.id }
  | .dequeue => { ch with items := ch.items.consume c.id }
  | _ => ch

/-- The next stretch of a call; `none` while neither its token nor its ticket has fired. -/
def stretch (ch : Channel α) (cancelled : Bool) (c : Call α) :
    Option (Channel α × Option (Call α)) :=
  match c.stage with
  | .arriving => some ((arrive ch c).1, some (arrive ch c).2)
  | .looking => some (look ch c)
  | .announcing length => some (announce ch c length)
  | .returning => some (leave ch c, none)
  | .parked =>
    if cancelled then some (leave ch c, none)
    else if isTold ch c then some (wake ch c, some { c with stage := .arriving })
    else none

/-! ## Runs

A call that is over is taken out of the list of calls, so that the list has those under way. -/

/-- What a stretch of the call with a number has left. -/
def settle (w : Threads α) (id : Nat) (r : Channel α × Option (Call α)) : Threads α :=
  { w with
    channel := r.1
    calls := w.calls.filterMap fun d ↦ if d.id = id then r.2 else some d }

/-- The next stretch of the call with a number. -/
def step (id : Nat) (w : Threads α) : Option (Threads α) :=
  (w.calls.find? (·.id = id)).bind fun c ↦
    (stretch w.channel (w.fired.contains c.token) c).map (w.settle id)

/-- What can happen next. -/
inductive Move (α : Type) where
  | call (id token : Nat) (r : Request α)
  /-- Nobody waits for a call any more. -/
  | abandon (id : Nat)
  | cancel (token : Nat)
  | turn (id : Nat)

/-- Whether a call can be made under a number: the number is free, and there is one consumer. -/
def admits (w : Threads α) (id : Nat) (r : Request α) : Bool :=
  w.calls.all fun c ↦ c.id ≠ id && !(r.isDequeue && c.request.isDequeue)

/-- Make a move, if it is possible. A call can be given up where it waits. -/
def move (m : Move α) (w : Threads α) : Option (Threads α) :=
  match m with
  | .call id token r =>
    if w.admits id r then some { w with calls := w.calls ++ [⟨id, token, r, .arriving⟩] } else none
  | .abandon id =>
    (w.calls.find? (·.id = id)).bind fun c ↦ match c.stage with
      | .parked => some (w.settle id (leave w.channel c, none))
      | _ => none
  | .cancel token => some { w with fired := token :: w.fired }
  | .turn id => w.step id

/-! ## Stretches without a break

A turn of a task is a number of stretches of its call with nobody in between. -/

theorem settle_settle (w : Threads α) {id : Nat} {ch : Channel α} {c : Call α} (h : c.id = id)
    (r : Channel α × Option (Call α)) : (w.settle id (ch, some c)).settle id r = w.settle id r := by
  simp only [settle, List.filterMap_filterMap, Threads.mk.injEq, true_and, and_true]
  congr 1
  funext d
  by_cases hd : d.id = id <;> simp [hd, h]

theorem find?_settle {w : Threads α} {id : Nat} {c d : Call α} (ch : Channel α)
    (h : w.calls.find? (·.id = id) = some c) (hd : d.id = id) :
    (w.settle id (ch, some d)).calls.find? (·.id = id) = some d := by
  have hc := Keyed.key_of_find? h
  have replaced : (w.settle id (ch, some d)).calls =
      w.calls.map fun e ↦ if e.id = d.id then d else e := by
    rw [← List.filterMap_eq_map]
    refine List.filterMap_congr fun e _ ↦ ?_
    by_cases he : e.id = id <;> simp [he, hd]
  subst hd
  rw [replaced]
  exact Keyed.find?_replace h

/-- Stretches of a call that are made one after the other. -/
inductive Unbroken (cancelled : Bool) :
    Channel α → Call α → Channel α × Option (Call α) → Prop where
  | last {ch : Channel α} {c : Call α} {r : Channel α × Option (Call α)}
    (h : stretch ch cancelled c = some r) : Unbroken cancelled ch c r
  | more {ch ch' : Channel α} {c c' : Call α} {r : Channel α × Option (Call α)}
    (h : stretch ch cancelled c = some (ch', some c')) (id : c'.id = c.id)
    (token : c'.token = c.token) (rest : Unbroken cancelled ch' c' r) : Unbroken cancelled ch c r

theorem Unbroken.exists_follow {w : Threads α} {c : Call α} {r : Channel α × Option (Call α)}
    (h : Unbroken (w.fired.contains c.token) w.channel c r)
    (hc : w.calls.find? (·.id = c.id) = some c) :
    ∃ ms l, Trail.follow move ms w = some (l, w.settle c.id r) := by
  generalize hch : w.channel = ch at h
  generalize hf : w.fired.contains c.token = cancelled at h
  induction h generalizing w with
  | @last ch c r h =>
    have e : move (.turn c.id) w = some (w.settle c.id r) := by
      rw [move, step, hc, Option.bind_some, hf, hch, h, Option.map_some]
    exact ⟨[.turn c.id], _, by rw [Trail.follow, e]; rfl⟩
  | @more ch ch' c c' r h id token rest ih =>
    have e : move (.turn c.id) w = some (w.settle c.id (ch', some c')) := by
      rw [move, step, hc, Option.bind_some, hf, hch, h, Option.map_some]
    have found := find?_settle ch' hc id
    rw [← id] at found
    obtain ⟨ms, l, follow⟩ := ih (by rw [id] at found ⊢; exact found) rfl (by rw [token]; exact hf)
    rw [id, settle_settle w id] at follow
    exact ⟨.turn c.id :: ms, _, by rw [Trail.follow, e, Option.bind_some, follow]; rfl⟩

/-! ## Turns of `Traffic`

One lemma for each operation of the channel: its stretches, made without a break, come to what the
operation does in one go. -/

/-- Where a turn leaves the channel and the call. -/
def outcome {ρ : Type} (c : Call α) : Channel.Turn α ρ → Channel α × Option (Call α)
  | .done _ ch => (ch, none)
  | .parked ch => (ch, some { c with stage := .parked })

section Stretches

variable {cancelled : Bool} {ch : Channel α} {c : Call α}

theorem stretch_looking (stage : c.stage = .looking) :
    stretch ch cancelled c = some (look ch c) := by
  rw [stretch, stage]

/-- Offering an item without waiting. -/
theorem unbroken_tryEnqueue {x : α} (request : c.request = .tryEnqueue x)
    (stage : c.stage = .looking) : Unbroken cancelled ch c ((ch.tryEnqueue x).2, none) := by
  rcases h : ch.queue.push x with ⟨_ | old | _, queue⟩
  · have looks : stretch ch cancelled c = some (changed ch c queue (ch.length + 1)) := by
      rw [stretch_looking stage, look, request]
      simp only [h]
    refine .more looks rfl rfl (.last ?_)
    simp only [stretch, announce, request, Channel.tryEnqueue, h]
    rfl
  · have looks : stretch ch cancelled c = some
        ({ ch with queue := queue }.countDrop, some { c with stage := .announcing none }) := by
      rw [stretch_looking stage, look, request]
      simp only [h]
    refine .more looks rfl rfl (.last ?_)
    simp only [stretch, announce, request, Channel.tryEnqueue, h]
    rfl
  · refine .last ?_
    rw [stretch_looking stage, look, request]
    simp only [h, Channel.tryEnqueue]

/-- Asking for an item without waiting. -/
theorem unbroken_tryDequeue (request : c.request = .tryDequeue) (stage : c.stage = .looking) :
    Unbroken cancelled ch c ((ch.tryDequeue?.map Prod.snd).getD ch, none) := by
  cases h : ch.queue.pop? with
  | none =>
    refine .last ?_
    rw [stretch_looking stage, look, request]
    simp only [h, Channel.tryDequeue?, Option.map_none, Option.getD_none]
  | some q =>
    obtain ⟨x, queue⟩ := q
    have looks : stretch ch cancelled c = some (changed ch c queue (ch.length - 1)) := by
      rw [stretch_looking stage, look, request]
      simp only [h]
    refine .more looks rfl rfl (.last ?_)
    simp only [stretch, announce, request, Channel.tryDequeue?, h]
    rfl

/-- The turn of a producer. -/
theorem unbroken_enqueue {x : α} (request : c.request = .enqueue x) (stage : c.stage = .arriving) :
    Unbroken cancelled ch c (outcome c (ch.enqueueTurn c.id x)) := by
  by_cases mode : ch.queue.mode = .block
  · -- In blocking mode a call registers before it looks, and parks if there is no space.
    have arrives : stretch ch cancelled c = some
        ({ ch with space := ch.space.register c.id }, some { c with stage := .looking }) := by
      simp only [stretch, stage, arrive, request, mode, if_true]
    refine .more arrives rfl rfl ?_
    cases h : ch.queue.pushIfSpace? x with
    | none =>
      refine .last ?_
      simp only [stretch_looking, look, request, h, Channel.enqueueTurn, mode, if_true,
        Channel.pushIfSpace?, Option.map_none, outcome]
    | some queue =>
      let seen : Channel α := { ch with space := ch.space.register c.id }
      have looks : stretch seen cancelled { c with stage := .looking } =
          some (changed seen c queue (ch.length + 1)) := by
        simp only [stretch_looking, look, request, seen, h, changed]
      -- With space it goes on through two more stretches to its end.
      have announces : stretch (changed seen c queue (ch.length + 1)).1 cancelled
          { c with stage := .announcing (some (ch.length + 1)) } =
          some (({ seen with queue := queue }.setLength (ch.length + 1)).announceItem,
            some { c with stage := .returning }) := by
        simp only [stretch, announce, request]
        rfl
      refine .more looks rfl rfl (.more announces rfl rfl (.last ?_))
      simp only [stretch, leave, request, h, Channel.enqueueTurn, mode, if_true,
        Channel.pushIfSpace?, Option.map_some, outcome]
      rfl
  · have arrives : stretch ch cancelled c =
        some (ch, some { c with request := .tryEnqueue x, stage := .looking }) := by
      simp only [stretch, stage, arrive, request, mode, if_false]
    have turn : outcome c (ch.enqueueTurn c.id x) = ((ch.tryEnqueue x).2, none) := by
      simp only [Channel.enqueueTurn, mode, if_false, outcome]
    rw [turn]
    exact .more arrives rfl rfl (unbroken_tryEnqueue rfl rfl)

/-- The turn of a consumer. -/
theorem unbroken_dequeue (request : c.request = .dequeue) (stage : c.stage = .arriving) :
    Unbroken cancelled ch c (outcome c (ch.dequeueTurn c.id)) := by
  let seen : Channel α := { ch with items := ch.items.register c.id }
  have arrives : stretch ch cancelled c = some (seen, some { c with stage := .looking }) := by
    simp only [stretch, stage, arrive, request, seen]
  refine .more arrives rfl rfl ?_
  cases h : ch.queue.pop? with
  | none =>
    refine .last ?_
    simp only [stretch_looking, look, request, seen, h, Channel.dequeueTurn, Channel.tryDequeue?,
      Option.map_none, outcome]
  | some q =>
    obtain ⟨x, queue⟩ := q
    have looks : stretch seen cancelled { c with stage := .looking } =
        some (changed seen c queue (ch.length - 1)) := by
      simp only [stretch_looking, look, request, seen, h, changed]
    have announces : stretch (changed seen c queue (ch.length - 1)).1 cancelled
        { c with stage := .announcing (some (ch.length - 1)) } =
        some ({ { seen with queue := queue }.setLength (ch.length - 1) with
          space := seen.space.notifyAll }, some { c with stage := .returning }) := by
      simp only [stretch, announce, request]
      rfl
    refine .more looks rfl rfl (.more announces rfl rfl (.last ?_))
    simp only [stretch, leave, request, h, Channel.dequeueTurn, Channel.tryDequeue?,
      Option.map_some, outcome]
    rfl

/-- A call that waits, and whose token has fired, is over. -/
theorem unbroken_cancelled (stage : c.stage = .parked) : Unbroken true ch c (leave ch c, none) :=
  .last (by rw [stretch, stage]; rfl)

/-- A call that waits goes on with its fired ticket. -/
theorem Unbroken.wake {r : Channel α × Option (Call α)} (stage : c.stage = .parked)
    (told : isTold ch c = true)
    (rest : Unbroken false (wake ch c) { c with stage := .arriving } r) :
    Unbroken false ch c r := by
  have wakes :
      stretch ch false c = some (Threads.wake ch c, some { c with stage := .arriving }) := by
    simp only [stretch, stage, told, Bool.false_eq_true, if_false, if_true]
  exact .more wakes rfl rfl rest

end Stretches

/-! ## Runs of `Traffic`

A task under way is a call that waits, and everything else about it is over by the end of its
turn. -/

/-- The call that a task makes, as long as it is under way. -/
def callOf? (t : Traffic.Task α) : Option (Call α) :=
  match t.phase with
  | .arriving x => some ⟨t.id, t.token, .enqueue x, .arriving⟩
  | .producing x => some ⟨t.id, t.token, .enqueue x, .parked⟩
  | .asking => some ⟨t.id, t.token, .dequeue, .arriving⟩
  | .consuming => some ⟨t.id, t.token, .dequeue, .parked⟩
  | .ended _ => none

/-- A state of `Traffic`, as it is seen between threads. -/
def ofTraffic (w : Traffic α) : Threads α := ⟨w.channel, w.tasks.filterMap callOf?, w.fired⟩

/-- Whether a task is a consumer under way. -/
def isConsuming (t : Traffic.Task α) : Bool :=
  match t.phase with
  | .asking | .consuming => true
  | _ => false

/-- Whether a consumer arrives. -/
def isAsking : Traffic.Move α → Bool
  | .consume _ _ => true
  | _ => false

/-- The run has one consumer: it asks for an item only when its last call is over. -/
def OneConsumer (l : List (Passage (Traffic α) (Traffic.Move α))) : Prop :=
  ∀ p ∈ l, isAsking p.move = true → ∀ t ∈ p.before.tasks, isConsuming t = false

instance (l : List (Passage (Traffic α) (Traffic.Move α))) : Decidable (OneConsumer l) :=
  inferInstanceAs (Decidable (∀ p ∈ l, _))

theorem id_of_callOf? {t : Traffic.Task α} {c : Call α} (h : callOf? t = some c) : c.id = t.id := by
  rw [callOf?] at h
  split at h <;> cases h <;> rfl

theorem isDequeue_of_callOf? {t : Traffic.Task α} {c : Call α} (h : callOf? t = some c) :
    c.request.isDequeue = isConsuming t := by
  rw [callOf?] at h
  rw [isConsuming]
  split at h <;> cases h <;> simp_all [Request.isDequeue]

/-- The tasks of `Traffic` have different numbers. -/
def Distinct (w : Traffic α) : Prop := (w.tasks.map (·.id)).Nodup

section Traffic

variable {w w' : Traffic α}

theorem Distinct.add (h : Distinct w) {id : Nat} (fresh : w.isFresh id) {t : Traffic.Task α}
    (ht : t.id = id) : ((w.tasks ++ [t]).map (·.id)).Nodup := by
  rw [List.map_append, List.map_singleton, ht]
  refine List.nodup_append.mpr ⟨h, by simp, fun n hn m hm ↦ ?_⟩
  obtain ⟨u, hu, rfl⟩ := List.mem_map.mp hn
  rw [List.mem_singleton.mp hm]
  exact fresh u hu

theorem ids_setPhase (w : Traffic α) (id : Nat) (p : Traffic.Phase α) :
    (w.setPhase id p).tasks.map (·.id) = w.tasks.map (·.id) := by
  rw [Traffic.setPhase, List.map_map]
  exact List.map_congr_left fun t _ ↦ by simp only [Function.comp_apply]; split <;> rfl

theorem Distinct.move {m : Traffic.Move α} (h : Distinct w) (e : Traffic.move m w = some w') :
    Distinct w' := by
  cases m with
  | produce id token x =>
    simp only [Traffic.move, Option.ite_none_right_eq_some, Option.some_inj] at e
    obtain ⟨fresh, rfl⟩ := e
    exact h.add fresh rfl
  | consume id token =>
    simp only [Traffic.move, Option.ite_none_right_eq_some, Option.some_inj] at e
    obtain ⟨fresh, rfl⟩ := e
    exact h.add fresh rfl
  | offer x => cases e; exact h
  | poll =>
    cases e
    rw [Distinct, Traffic.poll]
    split <;> exact h
  | cancel token => cases e; exact h
  | turn id =>
    obtain ⟨t, ht, hs⟩ := Option.bind_eq_some_iff.mp e
    cases Traffic.stepTask_ends hs <;> · rw [Distinct, ids_setPhase]; exact h

theorem Distinct.ofTraffic (h : Distinct w) : ((Threads.ofTraffic w).calls.map (·.id)).Nodup :=
  Keyed.nodup_filterMap (fun _ _ ↦ id_of_callOf?) h

/-- A task under way is found as a call. -/
theorem Distinct.find?_ofTraffic (h : Distinct w) {t : Traffic.Task α}
    (ht : t ∈ w.tasks) {c : Call α} (hc : callOf? t = some c) :
    (Threads.ofTraffic w).calls.find? (·.id = c.id) = some c :=
  Keyed.find?_of_mem h.ofTraffic (List.mem_filterMap.mpr ⟨t, ht, hc⟩)

/-- A task goes on to another phase, or it is over. -/
theorem Distinct.settle_ofTraffic (h : Distinct w) {t : Traffic.Task α}
    (ht : t ∈ w.tasks) {c : Call α} (hc : callOf? t = some c) (ch : Channel α) (p : Traffic.Phase α)
    (history : List (Traffic.Event α)) :
    (Threads.ofTraffic w).settle c.id (ch, callOf? { t with phase := p }) =
      Threads.ofTraffic ({ w with channel := ch, history := history }.setPhase t.id p) := by
  have calls : (w.tasks.filterMap callOf?).filterMap
        (fun d ↦ if d.id = c.id then callOf? { t with phase := p } else some d) =
      (w.tasks.map fun u ↦ if u.id = t.id then { u with phase := p } else u).filterMap callOf? := by
    rw [List.filterMap_filterMap, List.filterMap_map]
    refine List.filterMap_congr fun u hu ↦ ?_
    by_cases same : u.id = t.id
    · obtain rfl := List.inj_on_of_nodup_map h hu ht same
      simp only [hc, Option.bind_some, Function.comp_apply, if_true]
    · cases hd : callOf? u with
      | none => simp only [Option.bind_none, Function.comp_apply, same, if_false, hd]
      | some d =>
        have differs : d.id ≠ c.id := by rwa [id_of_callOf? hd, id_of_callOf? hc]
        simp only [Option.bind_some, Function.comp_apply, same, differs, if_false, hd]
  rw [settle, Threads.ofTraffic, calls]
  rfl

theorem admits_eq_true {v : Threads α} {id : Nat} {r : Request α} (fresh : ∀ c ∈ v.calls, c.id ≠ id)
    (single : r.isDequeue = true → ∀ c ∈ v.calls, c.request.isDequeue = false) :
    v.admits id r = true := by
  rw [admits, List.all_eq_true]
  intro c hc
  cases hr : r.isDequeue with
  | false => simpa using fresh c hc
  | true => simpa [single hr c hc] using fresh c hc

/-- A call that does not wait comes and goes without a trace but for what it does to the channel. -/
theorem exists_follow_alone (v : Threads α) {r : Request α} {ch : Channel α}
    (r_waits : r.isDequeue = false)
    (run : ∀ id cancelled, Unbroken cancelled v.channel ⟨id, 0, r, .arriving⟩ (ch, none)) :
    ∃ ms l, Trail.follow move ms v = some (l, { v with channel := ch }) := by
  obtain ⟨id, fresh⟩ := Keyed.exists_fresh Call.id v.calls
  let called : Threads α := { v with calls := v.calls ++ [⟨id, 0, r, .arriving⟩] }
  have calls : move (.call id 0 r) v = some called :=
    if_pos (admits_eq_true fresh fun h ↦ by rw [r_waits] at h; cases h)
  have found : called.calls.find? (·.id = id) = some ⟨id, 0, r, .arriving⟩ := by
    have none_before : v.calls.find? (·.id = id) = none :=
      List.find?_eq_none.mpr fun c hc ↦ by simpa using fresh c hc
    simp [called, List.find?_append, none_before]
  obtain ⟨ms, l, follow⟩ := (run id _).exists_follow (w := called) found
  have gone : called.settle id (ch, none) = { v with channel := ch } := by
    have kept : v.calls.filterMap (fun d ↦ if d.id = id then none else some d) = v.calls := by
      refine (List.filterMap_congr fun d hd ↦ ?_).trans List.filterMap_some
      rw [if_neg (fresh d hd)]
    simp [settle, called, kept]
  rw [gone] at follow
  exact ⟨.call id 0 r :: ms, _, by rw [Trail.follow, calls, Option.bind_some, follow]; rfl⟩

/-- The turn of a producer, as the channel and the task are left by it. -/
theorem Distinct.afterEnqueue (h : Distinct w) {t : Traffic.Task α} (ht : t ∈ w.tasks) {x : α}
    {c : Call α} (hc : callOf? t = some c) (request : c.request = .enqueue x)
    (token : c.token = t.token) (turn : Channel.Turn α (Pushed α)) :
    (Threads.ofTraffic w).settle c.id (outcome c turn) =
      Threads.ofTraffic (w.afterEnqueue t.id x turn) := by
  have id := id_of_callOf? hc
  obtain ⟨_, _, _, _⟩ := c
  cases id
  cases request
  cases token
  cases turn with
  | done pushed ch => exact h.settle_ofTraffic ht hc ch (.ended (.enqueued pushed.accepted)) _
  | parked ch => exact h.settle_ofTraffic ht hc ch (.producing x) w.history

/-- The turn of a consumer, as the channel and the task are left by it. -/
theorem Distinct.afterDequeue (h : Distinct w) {t : Traffic.Task α} (ht : t ∈ w.tasks) {c : Call α}
    (hc : callOf? t = some c) (request : c.request = .dequeue) (token : c.token = t.token)
    (turn : Channel.Turn α α) :
    (Threads.ofTraffic w).settle c.id (outcome c turn) =
      Threads.ofTraffic (w.afterDequeue t.id turn) := by
  have id := id_of_callOf? hc
  obtain ⟨_, _, _, _⟩ := c
  cases id
  cases request
  cases token
  cases turn with
  | done x ch => exact h.settle_ofTraffic ht hc ch (.ended (.dequeued x)) _
  | parked ch => exact h.settle_ofTraffic ht hc ch .consuming w.history

/-- A turn of a task is some stretches of its call. -/
theorem Distinct.exists_follow_of_stepTask (h : Distinct w) {t : Traffic.Task α} (ht : t ∈ w.tasks)
    (e : w.stepTask t = some w') :
    ∃ ms l, Trail.follow Threads.move ms (Threads.ofTraffic w) = some
      (l, Threads.ofTraffic w') := by
  have follow {c : Call α} {r : Channel α × Option (Call α)} (hc : callOf? t = some c)
      (run : Unbroken (w.fired.contains c.token) w.channel c r)
      (settled : (Threads.ofTraffic w).settle c.id r = Threads.ofTraffic w') :
      ∃ ms l, Trail.follow Threads.move ms (Threads.ofTraffic w) = some (l, Threads.ofTraffic w') :=
    settled ▸ run.exists_follow (w := Threads.ofTraffic w) (h.find?_ofTraffic ht hc)
  -- A call that was parked wakes, or is cancelled; one that arrives runs to its end or to the place
  -- where it parks.
  cases phase : t.phase with
  | arriving x =>
    have hc : callOf? t = some ⟨t.id, t.token, .enqueue x, .arriving⟩ := by rw [callOf?, phase]
    simp only [Traffic.stepTask, phase, Option.some_inj] at e
    subst e
    exact follow hc (unbroken_enqueue rfl rfl) (h.afterEnqueue ht hc rfl rfl _)
  | producing x =>
    have hc : callOf? t = some ⟨t.id, t.token, .enqueue x, .parked⟩ := by rw [callOf?, phase]
    simp only [Traffic.stepTask, phase, Channel.resumeEnqueue] at e
    cases cancelled : w.fired.contains t.token with
    | true =>
      rw [cancelled] at e
      cases e
      refine follow hc (cancelled ▸ unbroken_cancelled rfl) ?_
      exact h.settle_ofTraffic ht hc _ (.ended .cancelled) w.history
    | false =>
      cases told : w.channel.space.isFired t.id with
      | false => simp only [cancelled, told, Bool.false_eq_true, if_false, reduceCtorEq] at e
      | true =>
        simp only [cancelled, told, Bool.false_eq_true, if_false, if_true, Option.some_inj] at e
        subst e
        have run := Unbroken.wake (c := ⟨t.id, t.token, .enqueue x, .parked⟩) rfl told
          (unbroken_enqueue rfl rfl)
        refine follow hc (cancelled ▸ run) ?_
        exact h.afterEnqueue ht hc rfl rfl _
  | asking =>
    have hc : callOf? t = some ⟨t.id, t.token, .dequeue, .arriving⟩ := by rw [callOf?, phase]
    simp only [Traffic.stepTask, phase, Option.some_inj] at e
    subst e
    exact follow hc (unbroken_dequeue rfl rfl) (h.afterDequeue ht hc rfl rfl _)
  | consuming =>
    have hc : callOf? t = some ⟨t.id, t.token, .dequeue, .parked⟩ := by rw [callOf?, phase]
    simp only [Traffic.stepTask, phase, Channel.resumeDequeue] at e
    cases cancelled : w.fired.contains t.token with
    | true =>
      rw [cancelled] at e
      cases e
      refine follow hc (cancelled ▸ unbroken_cancelled rfl) ?_
      exact h.settle_ofTraffic ht hc _ (.ended .cancelled) w.history
    | false =>
      cases told : w.channel.items.isFired t.id with
      | false => simp only [cancelled, told, Bool.false_eq_true, if_false, reduceCtorEq] at e
      | true =>
        simp only [cancelled, told, Bool.false_eq_true, if_false, if_true, Option.some_inj] at e
        subst e
        have run := Unbroken.wake (c := ⟨t.id, t.token, .dequeue, .parked⟩) rfl told
          (unbroken_dequeue rfl rfl)
        refine follow hc (cancelled ▸ run) ?_
        exact h.afterDequeue ht hc rfl rfl _
  | ended o => simp [Traffic.stepTask, phase] at e

/-- **A move of `Traffic` is some moves between threads.** -/
theorem Distinct.exists_follow (h : Distinct w) {m : Traffic.Move α}
    (e : Traffic.move m w = some w')
    (single : isAsking m = true → ∀ t ∈ w.tasks, isConsuming t = false) :
    ∃ ms l, Trail.follow Threads.move ms (Threads.ofTraffic w) = some
      (l, Threads.ofTraffic w') := by
  have calls_fresh {id : Nat} (fresh : w.isFresh id) :
      ∀ c ∈ (Threads.ofTraffic w).calls, c.id ≠ id := by
    intro c hc
    obtain ⟨t, ht, hc⟩ := List.mem_filterMap.mp hc
    rw [id_of_callOf? hc]
    exact fresh t ht
  -- Calls, firings and turns are one move each, or those of a task; an offer and a poll are calls
  -- that run alone.
  have one {m : Move α} {v : Threads α} (hm : Threads.move m (Threads.ofTraffic w) = some v) :
      ∃ ms l, Trail.follow Threads.move ms (Threads.ofTraffic w) = some (l, v) :=
    ⟨[m], _, by rw [Trail.follow, hm]; rfl⟩
  cases m with
  | produce id token x =>
    simp only [Traffic.move, Option.ite_none_right_eq_some, Option.some_inj] at e
    obtain ⟨fresh, rfl⟩ := e
    refine one (m := .call id token (.enqueue x)) ?_
    rw [Threads.move, if_pos (admits_eq_true (calls_fresh fresh) fun h ↦ by cases h),
      Threads.ofTraffic, Traffic.spawnProducer, Threads.ofTraffic, List.filterMap_append]
    rfl
  | consume id token =>
    simp only [Traffic.move, Option.ite_none_right_eq_some, Option.some_inj] at e
    obtain ⟨fresh, rfl⟩ := e
    refine one (m := .call id token .dequeue) ?_
    rw [Threads.move, if_pos (admits_eq_true (calls_fresh fresh) fun _ c hc ↦ ?_),
      Threads.ofTraffic, Traffic.spawnConsumer, Threads.ofTraffic, List.filterMap_append]
    · rfl
    · obtain ⟨t, ht, hc⟩ := List.mem_filterMap.mp hc
      rw [isDequeue_of_callOf? hc]
      exact single rfl t ht
  | offer x =>
    cases e
    refine exists_follow_alone (Threads.ofTraffic w) (r := .tryEnqueue x) rfl fun id cancelled ↦ ?_
    have arrives : stretch w.channel cancelled ⟨id, 0, .tryEnqueue x, .arriving⟩ =
        some (w.channel, some ⟨id, 0, .tryEnqueue x, .looking⟩) := rfl
    exact .more arrives rfl rfl (unbroken_tryEnqueue rfl rfl)
  | poll =>
    cases e
    have polled : Threads.ofTraffic w.poll.2 =
        { Threads.ofTraffic w with channel :=
          (w.channel.tryDequeue?.map Prod.snd).getD w.channel } := by
      cases hd : w.channel.tryDequeue? <;> simp only [Traffic.poll, hd] <;> rfl
    rw [polled]
    refine exists_follow_alone (Threads.ofTraffic w) (r := .tryDequeue) rfl fun id cancelled ↦ ?_
    have arrives : stretch w.channel cancelled ⟨id, 0, .tryDequeue, .arriving⟩ =
        some (w.channel, some ⟨id, 0, .tryDequeue, .looking⟩) := rfl
    exact .more arrives rfl rfl (unbroken_tryDequeue rfl rfl)
  | cancel token => cases e; exact one (m := .cancel token) rfl
  | turn id =>
    obtain ⟨t, ht, hs⟩ := Option.bind_eq_some_iff.mp e
    exact h.exists_follow_of_stepTask (List.mem_of_find?_eq_some ht) hs

/-- **A run of `Traffic` is a run between threads**, if there is one consumer. -/
theorem exists_of_traffic {ch : Channel α} {l : List (Passage (Traffic α) (Traffic.Move α))}
    (run : Trail Traffic.move (Traffic.start ch) l w) (single : OneConsumer l) :
    Distinct w ∧ ∃ l', Trail move (start ch) l' (Threads.ofTraffic w) := by
  induction run with
  | start => exact ⟨.nil, [], .start⟩
  | move run m e ih =>
    obtain ⟨distinct, l', run'⟩ := ih fun p hp ↦ single p (List.mem_append_left _ hp)
    obtain ⟨ms, l'', follow⟩ := Distinct.exists_follow distinct e
      (single _ (List.mem_append_right _ (List.mem_singleton_self _)))
    exact ⟨Distinct.move distinct e, _, run'.append_follow follow⟩

end Traffic

end Threads

end MetricsAgent
