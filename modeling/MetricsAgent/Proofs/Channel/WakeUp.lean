import MetricsAgent.Proofs.Channel.Threads

/-!
# No wake-up is lost

Between threads, a producer may wait beside free space for a moment, but only while the call that
has made the space is about to announce it; and a consumer may wait beside an item only while the
call that has put it in is about to announce it.  `WakeUpInvariant` says so, with what is needed to
carry it along: a call that looks at the queue holds a ticket by then, and only the consumer waits
for items, so that `notifyOne` cannot go to anybody else.

What a stretch of one call owes to the others is `KeepsWakeUps`, with one lemma for each kind of
stretch.  The main statement is `Threads.no_wakeup_is_lost`: in `Traffic`, where nobody stops
between a change and its announcement, who waits without being notified waits for a reason.

Two habits of the channel carry the proof.  A call takes its ticket before it looks at the queue, so
whoever changes the queue after the look finds a ticket to fire.  And a ticket that was fired by
`notifyOne` and is given back passes the notification on, so that a call that is cancelled at the
last moment takes no notification with it.
-/

set_option autoImplicit false

namespace MetricsAgent

namespace Notify

/-- A ticket is held: it waits, or it has been fired. -/
def Holds (n : Notify) (t : Nat) : Prop := t ∈ n.waiting ∨ n.isFired t = true

/-- What happens to a notification leaves the holder of a ticket what it has. -/
structure Keeps (n n' : Notify) (t : Nat) : Prop where
  holds : n.Holds t → n'.Holds t
  fired : n.isFired t = true → n'.isFired t = true

variable {n : Notify} {s t : Nat}

theorem Keeps.refl (n : Notify) (t : Nat) : n.Keeps n t := ⟨id, id⟩

theorem Keeps.trans {a b c : Notify} (h : a.Keeps b t) (h' : b.Keeps c t) : a.Keeps c t :=
  ⟨h'.holds ∘ h.holds, h'.fired ∘ h.fired⟩

theorem Keeps.not_isFired {n' : Notify} (h : n.Keeps n' t) (unfired : n'.isFired t = false) :
    n.isFired t = false := by
  refine Bool.eq_false_iff.mpr fun fired ↦ ?_
  rw [h.fired fired] at unfired
  cases unfired

theorem isFired_iff : n.isFired t = true ↔ ∃ f, (t, f) ∈ n.fired := by
  simp [isFired]

theorem Holds.mem_waiting (h : n.Holds t) (unfired : n.isFired t = false) : t ∈ n.waiting :=
  h.resolve_right (by simp [unfired])

theorem holds_register (n : Notify) (t : Nat) : (n.register t).Holds t := by
  rw [register]
  split
  · exact .inr (isFired_iff.mpr ⟨.permit, by simp⟩)
  · exact .inl (by simp)

theorem keeps_register (n : Notify) (s t : Nat) : n.Keeps (n.register s) t := by
  rw [register]
  split
  · have fired (h : n.isFired t = true) :
        isFired { n with permit := false, fired := n.fired ++ [(s, .permit)] } t = true := by
      obtain ⟨f, hf⟩ := isFired_iff.mp h
      exact isFired_iff.mpr ⟨f, by simp [hf]⟩
    exact ⟨Or.imp_right fired, fired⟩
  · exact ⟨Or.imp_left fun h ↦ by simp [h], id⟩

theorem mem_waiting_of_register (h : s ∈ (n.register t).waiting) : s ∈ n.waiting ∨ s = t := by
  rw [register] at h
  split at h
  · exact .inl h
  · simpa using h

theorem keeps_notifyOne (n : Notify) (t : Nat) : n.Keeps n.notifyOne t := by
  rw [notifyOne]
  split
  · exact ⟨id, id⟩
  · rename_i u rest waiting
    have fired (h : n.isFired t = true) :
        isFired { n with waiting := rest, fired := n.fired ++ [(u, .one)] } t = true := by
      obtain ⟨f, hf⟩ := isFired_iff.mp h
      exact isFired_iff.mpr ⟨f, by simp [hf]⟩
    refine ⟨fun h ↦ ?_, fired⟩
    rcases h with h | h
    · rw [waiting] at h
      rcases List.mem_cons.mp h with rfl | h
      · exact .inr (isFired_iff.mpr ⟨.one, by simp⟩)
      · exact .inl h
    · exact .inr (fired h)

theorem waiting_notifyOne (n : Notify) : n.notifyOne.waiting = n.waiting.tail := by
  rw [notifyOne]
  split <;> simp_all

/-- A ticket that is the only one to wait is fired. -/
theorem isFired_notifyOne (waits : t ∈ n.waiting) (only : ∀ u ∈ n.waiting, u = t) :
    n.notifyOne.isFired t = true := by
  rw [notifyOne]
  split
  · rename_i waiting
    rw [waiting] at waits
    cases waits
  · rename_i u rest waiting
    obtain rfl : u = t := only u (by simp [waiting])
    exact isFired_iff.mpr ⟨.one, by simp⟩

/-- Every ticket is fired. -/
theorem isFired_notifyAll (h : n.Holds t) : n.notifyAll.isFired t = true := by
  rcases h with h | h
  · exact isFired_iff.mpr ⟨.all, by simp [notifyAll, h]⟩
  · obtain ⟨f, hf⟩ := isFired_iff.mp h
    exact isFired_iff.mpr ⟨f, by simp [notifyAll, hf]⟩

theorem keeps_notifyAll (n : Notify) (t : Nat) : n.Keeps n.notifyAll t :=
  ⟨fun h ↦ .inr (isFired_notifyAll h), fun h ↦ isFired_notifyAll (.inr h)⟩

theorem keeps_consume (n : Notify) (h : t ≠ s) : n.Keeps (n.consume s) t := by
  have fired (hf : n.isFired t = true) : (n.consume s).isFired t = true := by
    obtain ⟨f, hf⟩ := isFired_iff.mp hf
    exact isFired_iff.mpr ⟨f, by simp [consume, hf, h]⟩
  exact ⟨Or.imp_right fired, fired⟩

theorem keeps_giveBack (n : Notify) (h : t ≠ s) : n.Keeps (n.giveBack s) t := by
  let rest : Notify :=
    { n with waiting := n.waiting.filter (· ≠ s), fired := n.fired.filter (·.1 ≠ s) }
  have kept : n.Keeps rest t := by
    have fired (hf : n.isFired t = true) : rest.isFired t = true := by
      obtain ⟨f, hf⟩ := isFired_iff.mp hf
      exact isFired_iff.mpr ⟨f, by simp [rest, hf, h]⟩
    exact ⟨Or.imp (fun hw ↦ by simp [rest, hw, h]) fired, fired⟩
  rw [giveBack]
  split
  · exact kept.trans (keeps_notifyOne rest t)
  · exact kept

theorem mem_waiting_of_giveBack (h : t ∈ (n.giveBack s).waiting) : t ∈ n.waiting ∧ t ≠ s := by
  rw [giveBack] at h
  split at h
  · rw [waiting_notifyOne] at h
    simpa using List.mem_of_mem_tail h
  · simpa using h

end Notify

namespace Threads

variable {α : Type}

/-! ## What a stretch owes to the others

It leaves them their tickets (`KeepsTickets`); if it takes away the reason for which others wait, it
is about to announce that (`HasReason`); and if it was about to announce something, it has done so
(`Announces`). -/

/-- Whether somebody is about to be notified. -/
def Stage.isAnnouncing : Stage → Bool
  | announcing _ => true
  | _ => false

namespace Call

/-- The call waits for space. -/
def WaitsForSpace (c : Call α) : Prop := c.stage = .parked ∧ c.request.isEnqueue = true

/-- The call waits for an item. -/
def WaitsForItem (c : Call α) : Prop := c.stage = .parked ∧ c.request.isDequeue = true

/-- The call has taken an item out, and is about to announce that there is space. -/
def AnnouncesSpace (c : Call α) : Prop := c.stage.isAnnouncing = true ∧ c.request.isPush = false

/-- The call has put an item in, and is about to announce it. -/
def AnnouncesItem (c : Call α) : Prop := c.stage.isAnnouncing = true ∧ c.request.isPush = true

/-- The call has a ticket for what it may have to wait for, once it has arrived. -/
def HasTicket (ch : Channel α) (c : Call α) : Prop :=
  c.stage ≠ .arriving → (c.request.isEnqueue = true → ch.space.Holds c.id) ∧
    (c.request.isDequeue = true → ch.items.Holds c.id)

end Call

/-- The others keep their tickets, and only the consumer takes one for items. -/
structure KeepsTickets (ch : Channel α) (c : Call α) (r : Channel α × Option (Call α)) : Prop where
  same : ∀ d ∈ r.2, d.id = c.id ∧ d.request.isDequeue = c.request.isDequeue
  space : ∀ t ≠ c.id, ch.space.Keeps r.1.space t
  items : ∀ t ≠ c.id, ch.items.Keeps r.1.items t
  waiting : ∀ t ∈ r.1.items.waiting, t ∈ ch.items.waiting ∨ t = c.id ∧ c.request.isDequeue = true
  /-- A consumer that is through has given its ticket back. -/
  gone : r.2 = none → c.request.isDequeue = true → c.id ∉ r.1.items.waiting
  own : c.HasTicket ch → ∀ d ∈ r.2, d.HasTicket r.1

/-- Who waits has found no space or no item, and who changes that is about to announce it. -/
structure HasReason (ch : Channel α) (r : Channel α × Option (Call α)) : Prop where
  producing : ∀ d ∈ r.2, d.WaitsForSpace → r.1.queue.isFull = true
  consuming : ∀ d ∈ r.2, d.WaitsForItem → r.1.queue.items = []
  full : ch.queue.isFull = true → r.1.queue.isFull = true ∨ ∃ d ∈ r.2, d.AnnouncesSpace
  empty : ch.queue.items = [] → r.1.queue.items = [] ∨ ∃ d ∈ r.2, d.AnnouncesItem

/-- A call that was about to announce something has done so. -/
structure Announces (ch : Channel α) (c : Call α) (r : Channel α × Option (Call α)) : Prop where
  space : c.AnnouncesSpace → ∀ t, ch.space.Holds t → r.1.space.isFired t = true
  item : c.AnnouncesItem → ∀ t ∈ ch.items.waiting, (∀ u ∈ ch.items.waiting, u = t) →
    r.1.items.isFired t = true

/-- What a stretch of a call owes to the others. -/
structure KeepsWakeUps (ch : Channel α) (c : Call α) (r : Channel α × Option (Call α)) : Prop where
  tickets : KeepsTickets ch c r
  reason : HasReason ch r
  announces : Announces ch c r

section Stages

variable {ch : Channel α} {c : Call α} {r : Channel α × Option (Call α)}

theorem HasReason.of_queue_eq (queue : r.1.queue = ch.queue)
    (goes_on : ∀ d ∈ r.2, d.stage ≠ .parked) : HasReason ch r where
  producing := fun d hd h ↦ absurd h.1 (goes_on d hd)
  consuming := fun d hd h ↦ absurd h.1 (goes_on d hd)
  full := fun h ↦ .inl (queue ▸ h)
  empty := fun h ↦ .inl (queue ▸ h)

theorem Announces.of_silent (h : c.stage.isAnnouncing = false) : Announces ch c r :=
  ⟨fun a ↦ absurd a.1 (by simp [h]), fun a ↦ absurd a.1 (by simp [h])⟩

/-- A stretch that leaves the tickets alone. -/
theorem KeepsTickets.of_untouched (space : r.1.space = ch.space) (items : r.1.items = ch.items)
    (same : ∀ d ∈ r.2, d.id = c.id ∧ d.request.isDequeue = c.request.isDequeue)
    (no_consumer : r.2 = none → c.request.isDequeue = false)
    (own : c.HasTicket ch → ∀ d ∈ r.2, d.HasTicket r.1) :
    KeepsTickets ch c r where
  same := same
  space := fun t _ ↦ space ▸ .refl _ t
  items := fun t _ ↦ items ▸ .refl _ t
  waiting := fun t h ↦ .inl (items ▸ h)
  gone := fun h h' ↦ by rw [no_consumer h] at h'; cases h'
  own := own

theorem keepsWakeUps_arrive (stage : c.stage = .arriving) :
    KeepsWakeUps ch c ((arrive ch c).1, some (arrive ch c).2) := by
  have silent : c.stage.isAnnouncing = false := by rw [stage]; rfl
  -- A call that will look for space or for an item registers first, and the others touch nothing.
  rw [arrive]
  split
  · rename_i x request
    split
    · refine ⟨⟨by simp, fun t _ ↦ ch.space.keeps_register c.id t, fun t _ ↦ .refl _ t,
        fun t h ↦ .inl h, by simp, ?_⟩, .of_queue_eq rfl (by simp), .of_silent silent⟩
      rintro - d ⟨⟩ -
      exact ⟨fun _ ↦ ch.space.holds_register c.id, by simp [request, Request.isDequeue]⟩
    · refine ⟨.of_untouched rfl rfl (by simp [request, Request.isDequeue]) (by simp) ?_,
        .of_queue_eq rfl (by simp), .of_silent silent⟩
      rintro - d ⟨⟩ -
      exact ⟨by simp [Request.isEnqueue], by simp [Request.isDequeue]⟩
  · rename_i request
    refine ⟨⟨by simp, fun t _ ↦ .refl _ t, fun t _ ↦ ch.items.keeps_register c.id t, fun t h ↦ ?_,
      by simp, ?_⟩, .of_queue_eq rfl (by simp), .of_silent silent⟩
    · exact (Notify.mem_waiting_of_register h).imp_right fun e ↦ ⟨e, by rw [request]; rfl⟩
    · rintro - d ⟨⟩ -
      exact ⟨by simp [request, Request.isEnqueue], fun _ ↦ ch.items.holds_register c.id⟩
  · rename_i not_enqueue not_dequeue
    refine ⟨.of_untouched rfl rfl (by simp) (by simp) ?_, .of_queue_eq rfl (by simp),
      .of_silent silent⟩
    rintro - d ⟨⟩ -
    cases request : c.request <;> simp_all [Request.isEnqueue, Request.isDequeue]

/-- A call that has looked at the queue and changed nothing, and waits now or is through. -/
theorem keepsWakeUps_of_look {ch' : Channel α} {stage' : Stage} (stage : c.stage = .looking)
    (space : ch'.space = ch.space) (items : ch'.items = ch.items)
    (reason : HasReason ch (ch', some { c with stage := stage' })) :
    KeepsWakeUps ch c (ch', some { c with stage := stage' }) := by
  refine ⟨.of_untouched space items (by simp) (by simp) ?_, reason, .of_silent (by rw [stage]; rfl)⟩
  rintro own d ⟨⟩ -
  have own := own (by simp [stage])
  exact ⟨fun h ↦ space ▸ own.1 h, fun h ↦ items ▸ own.2 h⟩

/-- A call that is through without having changed anything. -/
theorem keepsWakeUps_of_refused {ch' : Channel α} (stage : c.stage = .looking)
    (space : ch'.space = ch.space) (items : ch'.items = ch.items) (queue : ch'.queue = ch.queue)
    (waits_not : c.request.isDequeue = false) : KeepsWakeUps ch c (ch', none) :=
  ⟨.of_untouched space items (by simp) (fun _ ↦ waits_not) (by simp), .of_queue_eq queue (by simp),
    .of_silent (by rw [stage]; rfl)⟩

/-- What became of an offered item. -/
theorem push_cases (q : BoundedQueue α) (x : α) :
    q.isFull = false ∧ q.push x = (.stored, q.append x) ∨
    (∃ old rest, q.items = old :: rest ∧
      q.push x = (.evicted old, { q with items := rest ++ [x] })) ∨
    q.push x = (.refused, q) := by
  rw [BoundedQueue.push]
  split
  · split
    · rename_i old rest _ items
      exact .inr (.inl ⟨old, rest, items, rfl⟩)
    · exact .inr (.inr rfl)
  · rename_i space
    exact .inl ⟨by simpa using space, rfl⟩

theorem items_of_pop?_eq_none {q : BoundedQueue α} (h : q.pop? = none) : q.items = [] := by
  rw [BoundedQueue.pop?] at h
  split at h
  · assumption
  · cases h

/-- An item was put in where there was space. -/
theorem hasReason_of_append {x : α} {n : Nat} (space : ch.queue.isFull = false)
    (request : c.request.isPush = true) :
    HasReason ch (changed ch c (ch.queue.append x) n) where
  producing := by rintro d ⟨⟩ ⟨⟨⟩, -⟩
  consuming := by rintro d ⟨⟩ ⟨⟨⟩, -⟩
  full := fun h ↦ by rw [space] at h; cases h
  empty := fun _ ↦ .inr ⟨_, rfl, rfl, request⟩

/-- An item was put in where the oldest one was evicted for it. -/
theorem hasReason_of_evict {x old : α} {rest : List α} (items : ch.queue.items = old :: rest) :
    HasReason ch ({ ch with queue := { ch.queue with items := rest ++ [x] } }.countDrop,
      some { c with stage := .announcing none }) where
  producing := by rintro d ⟨⟩ ⟨⟨⟩, -⟩
  consuming := by rintro d ⟨⟩ ⟨⟨⟩, -⟩
  full := fun h ↦ .inl (by simpa [BoundedQueue.isFull, items] using h)
  empty := fun empty ↦ by rw [items] at empty; cases empty

/-- An item was taken out. -/
theorem hasReason_of_pop {q : BoundedQueue α} {x : α} {n : Nat} (h : ch.queue.pop? = some (x, q))
    (request : c.request.isPush = false) : HasReason ch (changed ch c q n) where
  producing := by rintro d ⟨⟩ ⟨⟨⟩, -⟩
  consuming := by rintro d ⟨⟩ ⟨⟨⟩, -⟩
  full := fun _ ↦ .inr ⟨_, rfl, rfl, request⟩
  empty := fun empty ↦ by rw [BoundedQueue.pop?, empty] at h; cases h

theorem keepsWakeUps_look (stage : c.stage = .looking) : KeepsWakeUps ch c (look ch c) := by
  rw [look]
  split
  · rename_i x request
    split
    · rename_i queue h
      rw [BoundedQueue.pushIfSpace?, Option.ite_none_left_eq_some, Option.some_inj] at h
      obtain ⟨space, rfl⟩ := h
      refine keepsWakeUps_of_look stage rfl rfl (hasReason_of_append (by simpa using space) ?_)
      rw [request]
      rfl
    · rename_i h
      -- A producer that found no space parks while the queue is full,
      have full := Channel.isFull_of_pushIfSpace?_eq_none h
      refine keepsWakeUps_of_look stage rfl rfl ⟨fun _ _ _ ↦ full, ?_, .inl, .inl⟩
      rintro d ⟨⟩ ⟨-, h⟩
      simp [request, Request.isDequeue] at h
  · rename_i x request
    rcases push_cases ch.queue x with ⟨space, h⟩ | ⟨old, rest, items, h⟩ | h <;> rw [h]
    · exact keepsWakeUps_of_look stage rfl rfl (hasReason_of_append space (by rw [request]; rfl))
    · exact keepsWakeUps_of_look stage rfl rfl (hasReason_of_evict items)
    · exact keepsWakeUps_of_refused stage rfl rfl rfl (by rw [request]; rfl)
  · rename_i request
    split
    · rename_i x queue h
      exact keepsWakeUps_of_look stage rfl rfl (hasReason_of_pop h (by rw [request]; rfl))
    · rename_i h
      -- and a consumer that found no item while it is empty.
      have empty := items_of_pop?_eq_none h
      refine keepsWakeUps_of_look stage rfl rfl ⟨?_, fun _ _ _ ↦ empty, .inl, .inl⟩
      rintro d ⟨⟩ ⟨-, h⟩
      simp [request, Request.isEnqueue] at h
  · rename_i request
    split
    · rename_i x queue h
      exact keepsWakeUps_of_look stage rfl rfl (hasReason_of_pop h (by rw [request]; rfl))
    · exact keepsWakeUps_of_refused stage rfl rfl rfl (by rw [request]; rfl)

theorem showLength_eq (ch : Channel α) (length : Option Nat) :
    (showLength ch length).queue = ch.queue ∧ (showLength ch length).space = ch.space ∧
      (showLength ch length).items = ch.items := by
  cases length <;> exact ⟨rfl, rfl, rfl⟩

/-- A call that has put an item in notifies the one who waits for it. -/
theorem keepsWakeUps_of_notifyOne {length : Option Nat} (request : c.request.isPush = true)
    (r_eq : r.1 = (showLength ch length).announceItem)
    (same : ∀ d ∈ r.2, d.id = c.id ∧ d.request = c.request) (arrived : c.stage ≠ .arriving)
    (goes_on : ∀ d ∈ r.2, d.stage ≠ .parked) : KeepsWakeUps ch c r := by
  obtain ⟨queue, space, items⟩ := showLength_eq ch length
  have waits_not : c.request.isDequeue = false := by
    cases h : c.request <;> simp_all [Request.isPush, Request.isDequeue]
  have items : r.1.items = ch.items.notifyOne := by rw [r_eq, Channel.announceItem, items]
  have space : r.1.space = ch.space := by rw [r_eq, Channel.announceItem, space]
  have keeps (t : Nat) : ch.items.Keeps r.1.items t := items ▸ ch.items.keeps_notifyOne t
  refine ⟨⟨fun d hd ↦ ?_, fun t _ ↦ space ▸ .refl _ t, fun t _ ↦ keeps t, fun t h ↦ ?_, ?_,
    fun own d hd _ ↦ ?_⟩, .of_queue_eq ?_ goes_on, fun h ↦ ?_, fun _ t ht only ↦ ?_⟩
  · exact ⟨(same d hd).1, by rw [(same d hd).2]⟩
  · rw [items, Notify.waiting_notifyOne] at h
    exact .inl (List.mem_of_mem_tail h)
  · simp [waits_not]
  · rw [(same d hd).1, (same d hd).2, space]
    exact ⟨(own arrived).1, by simp [waits_not]⟩
  · rw [r_eq, Channel.announceItem, queue]
  · exact absurd h.2 (by simp [request])
  · rw [items]
    exact Notify.isFired_notifyOne ht only

/-- A call that has taken an item out notifies everybody who waits for space. -/
theorem keepsWakeUps_of_notifyAll {length : Option Nat} (request : c.request.isPush = false)
    (r_eq : r.1 = { showLength ch length with space := (showLength ch length).space.notifyAll })
    (same : ∀ d ∈ r.2, d.id = c.id ∧ d.request = c.request) (arrived : c.stage ≠ .arriving)
    (goes_on : ∀ d ∈ r.2, d.stage ≠ .parked)
    (no_consumer : r.2 = none → c.request.isDequeue = false) : KeepsWakeUps ch c r := by
  obtain ⟨queue, space, items⟩ := showLength_eq ch length
  have waits_not : c.request.isEnqueue = false := by
    cases h : c.request <;> simp_all [Request.isPush, Request.isEnqueue]
  have items : r.1.items = ch.items := by rw [r_eq, items]
  have space : r.1.space = ch.space.notifyAll := by rw [r_eq, space]
  refine ⟨⟨fun d hd ↦ ?_, fun t _ ↦ space ▸ ch.space.keeps_notifyAll t, fun t _ ↦ items ▸ .refl _ t,
    fun t h ↦ .inl (items ▸ h), fun h ↦ ?_, fun own d hd _ ↦ ?_⟩, .of_queue_eq ?_ goes_on,
    fun _ t ht ↦ ?_, fun h ↦ ?_⟩
  · exact ⟨(same d hd).1, by rw [(same d hd).2]⟩
  · simp [no_consumer h]
  · rw [(same d hd).1, (same d hd).2, items]
    exact ⟨by simp [waits_not], (own arrived).2⟩
  · rw [r_eq, queue]
  · rw [space]
    exact Notify.isFired_notifyAll ht
  · exact absurd h.2 (by simp [request])

theorem keepsWakeUps_announce {length : Option Nat} (stage : c.stage = .announcing length) :
    KeepsWakeUps ch c (announce ch c length) := by
  have arrived : c.stage ≠ .arriving := by simp [stage]
  rw [announce]
  split <;> rename_i request
  · exact keepsWakeUps_of_notifyOne (by rw [request]; rfl) rfl (by simp) arrived (by simp)
  · exact keepsWakeUps_of_notifyOne (by rw [request]; rfl) rfl (by simp) arrived (by simp)
  · exact keepsWakeUps_of_notifyAll (by rw [request]; rfl) rfl (by simp) arrived (by simp) (by simp)
  · exact keepsWakeUps_of_notifyAll (by rw [request]; rfl) rfl (by simp) arrived (by simp)
      fun _ ↦ by rw [request]; rfl

theorem keepsWakeUps_leave (silent : c.stage.isAnnouncing = false) :
    KeepsWakeUps ch c (leave ch c, none) := by
  rw [leave]
  split
  · rename_i x request
    refine ⟨⟨by simp, fun t h ↦ ch.space.keeps_giveBack h, fun t _ ↦ .refl _ t,
      fun t h ↦ .inl h, ?_, by simp⟩, .of_queue_eq rfl (by simp), .of_silent silent⟩
    simp [request, Request.isDequeue]
  · rename_i request
    refine ⟨⟨by simp, fun t _ ↦ .refl _ t, fun t h ↦ ch.items.keeps_giveBack h, fun t h ↦ ?_,
      fun _ _ h ↦ ?_, by simp⟩, .of_queue_eq rfl (by simp), .of_silent silent⟩
    · exact .inl (Notify.mem_waiting_of_giveBack h).1
    · exact (Notify.mem_waiting_of_giveBack h).2 rfl
  · rename_i not_enqueue not_dequeue
    refine ⟨.of_untouched rfl rfl (by simp) (fun _ ↦ ?_) (by simp), .of_queue_eq rfl (by simp),
      .of_silent silent⟩
    cases request : c.request <;> simp_all [Request.isDequeue]

theorem keepsWakeUps_wake (stage : c.stage = .parked) :
    KeepsWakeUps ch c (wake ch c, some { c with stage := .arriving }) := by
  have silent : c.stage.isAnnouncing = false := by rw [stage]; rfl
  have own {ch' : Channel α} : c.HasTicket ch →
      ∀ d ∈ some { c with stage := Stage.arriving }, d.HasTicket ch' := by
    rintro - d ⟨⟩ arrived
    exact absurd rfl arrived
  rw [wake]
  split
  · exact ⟨⟨by simp, fun t h ↦ ch.space.keeps_consume h, fun t _ ↦ .refl _ t, fun t h ↦ .inl h,
      by simp, own⟩, .of_queue_eq rfl (by simp), .of_silent silent⟩
  · exact ⟨⟨by simp, fun t _ ↦ .refl _ t, fun t h ↦ ch.items.keeps_consume h, fun t h ↦ .inl h,
      by simp, own⟩, .of_queue_eq rfl (by simp), .of_silent silent⟩
  · exact ⟨.of_untouched rfl rfl (by simp) (by simp) own, .of_queue_eq rfl (by simp),
      .of_silent silent⟩

/-- **What a stretch of a call owes to the others, it does.** -/
theorem keepsWakeUps_stretch {cancelled : Bool} (h : stretch ch cancelled c = some r) :
    KeepsWakeUps ch c r := by
  rw [stretch] at h
  split at h
  · rename_i stage
    cases h
    exact keepsWakeUps_arrive stage
  · rename_i stage
    cases h
    exact keepsWakeUps_look stage
  · rename_i length stage
    cases h
    exact keepsWakeUps_announce stage
  · rename_i stage
    cases h
    exact keepsWakeUps_leave (by rw [stage]; rfl)
  · rename_i stage
    split at h
    · cases h
      exact keepsWakeUps_leave (by rw [stage]; rfl)
    · split at h
      · cases h
        exact keepsWakeUps_wake stage
      · cases h

end Stages

/-! ## Who waits, and why

`WaitsForReason` is the statement between threads.  It is not an invariant by itself: that the
reason stays or is announced needs the tickets, and these need that there is one consumer. -/

/-- Between threads, who waits without having been notified waits for a reason, or the call that has
taken the reason away is about to notify. -/
structure WaitsForReason (w : Threads α) : Prop where
  producers : ∀ c ∈ w.calls, c.WaitsForSpace → w.channel.space.isFired c.id = false →
    w.channel.queue.isFull = true ∨ ∃ d ∈ w.calls, d.AnnouncesSpace
  consumers : ∀ c ∈ w.calls, c.WaitsForItem → w.channel.items.isFired c.id = false →
    w.channel.queue.items = [] ∨ ∃ d ∈ w.calls, d.AnnouncesItem

/-- What keeps every call that waits from being forgotten. -/
structure WakeUpInvariant (w : Threads α) : Prop extends WaitsForReason w where
  distinct : (w.calls.map (·.id)).Nodup
  one_consumer : ∀ c ∈ w.calls, ∀ d ∈ w.calls, c.request.isDequeue = true →
    d.request.isDequeue = true → c.id = d.id
  tickets : ∀ c ∈ w.calls, c.HasTicket w.channel
  /-- Only the consumer has a ticket for items. -/
  waiting : ∀ t ∈ w.channel.items.waiting, ∃ c ∈ w.calls, c.id = t ∧ c.request.isDequeue = true

section Runs

variable {w w' : Threads α}

theorem wakeUpInvariant_start {capacity : Nat} {mode : FullMode} {metrics : SelfMetrics}
    {ch : Channel α} (created : Channel.new capacity mode metrics = .ok ch) :
    WakeUpInvariant (start ch) := by
  have waiting : ch.items.waiting = [] := by
    rw [Channel.new] at created
    split at created <;> cases created
    rfl
  exact ⟨⟨by simp [start], by simp [start]⟩, .nil, by simp [start], by simp [start],
    by simp [start, waiting]⟩

/-- The calls after a stretch are the others and what has become of the one that has made it. -/
theorem mem_calls_settle {c d : Call α} {r : Channel α × Option (Call α)} (hc : c ∈ w.calls) :
    d ∈ (w.settle c.id r).calls ↔ d ∈ w.calls ∧ d.id ≠ c.id ∨ d ∈ r.2 := by
  rw [settle, List.mem_filterMap]
  constructor
  · rintro ⟨e, he, h⟩
    split at h
    · exact .inr h
    · cases h
      exact .inl ⟨he, ‹_›⟩
  · rintro (⟨hd, h⟩ | h)
    · exact ⟨d, hd, if_neg h⟩
    · exact ⟨c, hc, (if_pos rfl).trans h⟩

/-- A ticket that the others keep. -/
theorem Call.HasTicket.mono {ch ch' : Channel α} {d : Call α} (h : d.HasTicket ch)
    (space : ch.space.Keeps ch'.space d.id) (items : ch.items.Keeps ch'.items d.id) :
    d.HasTicket ch' :=
  fun arrived ↦ ⟨space.holds ∘ (h arrived).1, items.holds ∘ (h arrived).2⟩

/-! ### After a stretch of a call

The call that has made the stretch is `c`, and `r` holds what the stretch has left of the channel
and of the call.  The parts of the invariant are kept one by one: numbers and consumers first, then
the tickets, then the reasons for which the others wait. -/

section Settle

variable {c : Call α} {r : Channel α × Option (Call α)}

theorem nodup_settle (distinct : (w.calls.map (·.id)).Nodup) (same : ∀ d ∈ r.2, d.id = c.id) :
    ((w.settle c.id r).calls.map (·.id)).Nodup := by
  refine Keyed.nodup_filterMap (fun d e he ↦ ?_) distinct
  split at he
  · rename_i own
    rw [same e he, own]
  · cases he
    rfl

/-- A consumer after the stretch was one before. -/
theorem exists_consumer_of_settle (hc : c ∈ w.calls) (tickets : KeepsTickets w.channel c r)
    {d : Call α} (hd : d ∈ (w.settle c.id r).calls) (consumer : d.request.isDequeue = true) :
    ∃ e ∈ w.calls, e.id = d.id ∧ e.request.isDequeue = true := by
  rcases (mem_calls_settle hc).mp hd with ⟨hd, -⟩ | hd
  · exact ⟨d, hd, rfl, consumer⟩
  · obtain ⟨id, request⟩ := tickets.same d hd
    exact ⟨c, hc, id.symm, request ▸ consumer⟩

/-- Only the consumer has a ticket for items then. -/
theorem WakeUpInvariant.waiting_settle (h : WakeUpInvariant w) (hc : c ∈ w.calls)
    (tickets : KeepsTickets w.channel c r) :
    ∀ t ∈ r.1.items.waiting,
      ∃ d ∈ (w.settle c.id r).calls, d.id = t ∧ d.request.isDequeue = true := by
  -- The consumer that has made the stretch is still under way.
  have own (consumer : c.request.isDequeue = true) (waits : c.id ∈ r.1.items.waiting) :
      ∃ d ∈ (w.settle c.id r).calls, d.id = c.id ∧ d.request.isDequeue = true := by
    cases hr : r.2 with
    | none => exact absurd waits (tickets.gone hr consumer)
    | some d =>
      obtain ⟨id, request⟩ := tickets.same d hr
      exact ⟨d, (mem_calls_settle hc).mpr (.inr hr), id, request.trans consumer⟩
  intro t ht
  rcases tickets.waiting t ht with before | ⟨rfl, consumer⟩
  · obtain ⟨d, hd, rfl, consumer⟩ := h.waiting t before
    by_cases other : d.id = c.id
    · obtain rfl : d = c := List.inj_on_of_nodup_map h.distinct hd hc other
      exact own consumer ht
    · exact ⟨d, (mem_calls_settle hc).mpr (.inl ⟨hd, other⟩), rfl, consumer⟩
  · exact own consumer ht

/-- A call that announced something before the stretch still does, unless the stretch was the
announcement. -/
theorem WakeUpInvariant.announcing_settle (h : WakeUpInvariant w) (hc : c ∈ w.calls)
    {p : Call α → Prop} (announcing : ∃ e ∈ w.calls, p e) :
    p c ∨ ∃ e ∈ (w.settle c.id r).calls, p e := by
  obtain ⟨e, he, announcing⟩ := announcing
  by_cases same : e.id = c.id
  · obtain rfl : e = c := List.inj_on_of_nodup_map h.distinct he hc same
    exact .inl announcing
  · exact .inr ⟨e, (mem_calls_settle hc).mpr (.inl ⟨he, same⟩), announcing⟩

/-- Who waits for space has a reason. -/
theorem WakeUpInvariant.producers_settle (h : WakeUpInvariant w) (hc : c ∈ w.calls)
    (wakes : KeepsWakeUps w.channel c r) : ∀ d ∈ (w.settle c.id r).calls, d.WaitsForSpace →
      r.1.space.isFired d.id = false →
      r.1.queue.isFull = true ∨ ∃ e ∈ (w.settle c.id r).calls, e.AnnouncesSpace := by
  intro d hd waits unfired
  rcases (mem_calls_settle hc).mp hd with ⟨old, other⟩ | new
  · have before := (wakes.tickets.space d.id other).not_isFired unfired
    rcases h.producers d old waits before with full | announcing
    · exact (wakes.reason.full full).imp_right fun ⟨e, he, announcing⟩ ↦
        ⟨e, (mem_calls_settle hc).mpr (.inr he), announcing⟩
    · refine (h.announcing_settle hc announcing).elim (fun own ↦ ?_) .inr
      have holds := (h.tickets d old (by simp [waits.1])).1 waits.2
      rw [wakes.announces.space own d.id holds] at unfired
      cases unfired
  · exact .inl (wakes.reason.producing d new waits)

/-- Who waits for an item has a reason. -/
theorem WakeUpInvariant.consumers_settle (h : WakeUpInvariant w) (hc : c ∈ w.calls)
    (wakes : KeepsWakeUps w.channel c r) : ∀ d ∈ (w.settle c.id r).calls, d.WaitsForItem →
      r.1.items.isFired d.id = false →
      r.1.queue.items = [] ∨ ∃ e ∈ (w.settle c.id r).calls, e.AnnouncesItem := by
  intro d hd waits unfired
  rcases (mem_calls_settle hc).mp hd with ⟨old, other⟩ | new
  · have before := (wakes.tickets.items d.id other).not_isFired unfired
    rcases h.consumers d old waits before with empty | announcing
    · exact (wakes.reason.empty empty).imp_right fun ⟨e, he, announcing⟩ ↦
        ⟨e, (mem_calls_settle hc).mpr (.inr he), announcing⟩
    · refine (h.announcing_settle hc announcing).elim (fun own ↦ ?_) .inr
      have holds := (h.tickets d old (by simp [waits.1])).2 waits.2
      -- There is one consumer, so the notification goes to it.
      have only : ∀ t ∈ w.channel.items.waiting, t = d.id := by
        intro t ht
        obtain ⟨d', hd', rfl, consumer⟩ := h.waiting t ht
        exact h.one_consumer d' hd' d old consumer waits.2
      rw [wakes.announces.item own d.id (holds.mem_waiting before) only] at unfired
      cases unfired
  · exact .inl (wakes.reason.consuming d new waits)

theorem WakeUpInvariant.settle (h : WakeUpInvariant w) (hc : c ∈ w.calls)
    (wakes : KeepsWakeUps w.channel c r) : WakeUpInvariant (w.settle c.id r) where
  producers := h.producers_settle hc wakes
  consumers := h.consumers_settle hc wakes
  distinct := nodup_settle h.distinct fun d hd ↦ (wakes.tickets.same d hd).1
  one_consumer d hd e he d_consumer e_consumer := by
    obtain ⟨d', hd', d_id, d_consumer⟩ := exists_consumer_of_settle hc wakes.tickets hd d_consumer
    obtain ⟨e', he', e_id, e_consumer⟩ := exists_consumer_of_settle hc wakes.tickets he e_consumer
    rw [← d_id, ← e_id]
    exact h.one_consumer d' hd' e' he' d_consumer e_consumer
  tickets d hd := by
    rcases (mem_calls_settle hc).mp hd with ⟨hd, other⟩ | hd
    · exact (h.tickets d hd).mono (wakes.tickets.space d.id other) (wakes.tickets.items d.id other)
    · exact wakes.tickets.own (h.tickets c hc) d hd
  waiting := h.waiting_settle hc wakes.tickets

end Settle

theorem WakeUpInvariant.call {id token : Nat} {q : Request α} (h : WakeUpInvariant w)
    (admitted : w.admits id q = true) :
    WakeUpInvariant { w with calls := w.calls ++ [⟨id, token, q, .arriving⟩] } := by
  have admits := List.all_eq_true.mp admitted
  have mem {d : Call α} (hd : d ∈ w.calls ++ [⟨id, token, q, .arriving⟩]) :
      d ∈ w.calls ∨ d = ⟨id, token, q, .arriving⟩ := by simpa using hd
  have fresh {d : Call α} (hd : d ∈ w.calls) : d.id ≠ id := by
    have := admits d hd
    simp_all
  -- One call for an item at a time: this is what the admission of calls checks.
  have single {d : Call α} (hd : d ∈ w.calls) (consumer : q.isDequeue = true) :
      d.request.isDequeue = false := by
    have := admits d hd
    simp_all
  refine ⟨⟨?producers, ?consumers⟩, ?distinct, ?one_consumer, ?tickets, ?waiting⟩
  case distinct =>
    rw [List.map_append]
    refine List.nodup_append.mpr ⟨h.distinct, by simp, fun n hn m hm ↦ ?_⟩
    obtain ⟨d, hd, rfl⟩ := List.mem_map.mp hn
    rw [List.mem_singleton.mp hm]
    exact fresh hd
  case one_consumer =>
    intro d hd e he d_consumer e_consumer
    rcases mem hd with hd | rfl <;> rcases mem he with he | rfl
    · exact h.one_consumer d hd e he d_consumer e_consumer
    · exact absurd ((single hd e_consumer).symm.trans d_consumer) Bool.false_ne_true
    · exact absurd ((single he d_consumer).symm.trans e_consumer) Bool.false_ne_true
    · rfl
  case tickets =>
    intro d hd
    rcases mem hd with hd | rfl
    · exact h.tickets d hd
    · exact fun arrived ↦ absurd rfl arrived
  case waiting =>
    intro t ht
    obtain ⟨d, hd, found⟩ := h.waiting t ht
    exact ⟨d, List.mem_append_left _ hd, found⟩
  case producers =>
    intro d hd waits unfired
    rcases mem hd with hd | rfl
    · exact (h.producers d hd waits unfired).imp_right fun ⟨e, he, announcing⟩ ↦
        ⟨e, List.mem_append_left _ he, announcing⟩
    · cases waits.1
  case consumers =>
    intro d hd waits unfired
    rcases mem hd with hd | rfl
    · exact (h.consumers d hd waits unfired).imp_right fun ⟨e, he, announcing⟩ ↦
        ⟨e, List.mem_append_left _ he, announcing⟩
    · cases waits.1

/-- **Nothing that happens between threads makes a call wait for no reason.** -/
theorem WakeUpInvariant.move {m : Move α} (h : WakeUpInvariant w) (e : Threads.move m w = some w') :
    WakeUpInvariant w' := by
  cases m with
  | call id token r =>
    obtain ⟨admitted, e⟩ := Option.ite_none_right_eq_some.mp e
    cases e
    exact h.call admitted
  | abandon id =>
    obtain ⟨c, hc, e⟩ := Option.bind_eq_some_iff.mp e
    split at e
    · rename_i stage
      cases e
      obtain rfl : c.id = id := Keyed.key_of_find? hc
      exact h.settle (List.mem_of_find?_eq_some hc) (keepsWakeUps_leave (by rw [stage]; rfl))
    · cases e
  | cancel token =>
    cases e
    exact ⟨⟨h.producers, h.consumers⟩, h.distinct, h.one_consumer, h.tickets, h.waiting⟩
  | turn id =>
    obtain ⟨c, hc, e⟩ := Option.bind_eq_some_iff.mp e
    obtain ⟨r, hr, rfl⟩ := Option.map_eq_some_iff.mp e
    obtain rfl : c.id = id := Keyed.key_of_find? hc
    exact h.settle (List.mem_of_find?_eq_some hc) (keepsWakeUps_stretch hr)

theorem wakeUpInvariant_of_trail {capacity : Nat} {mode : FullMode} {metrics : SelfMetrics}
    {ch : Channel α} (created : Channel.new capacity mode metrics = .ok ch)
    {l : List (Passage (Threads α) (Move α))} (run : Trail Threads.move (start ch) l w) :
    WakeUpInvariant w :=
  run.invariant (wakeUpInvariant_start created) fun _ h e ↦ h.move e

end Runs

/-- In `Traffic`, who waits without having been notified waits for a reason. -/
structure NoneForgotten (w : Traffic α) : Prop where
  producers : ∀ t ∈ w.tasks, ∀ x, t.phase = .producing x → w.channel.space.isFired t.id = false →
    w.channel.queue.isFull = true
  consumers : ∀ t ∈ w.tasks, t.phase = .consuming → w.channel.items.isFired t.id = false →
    w.channel.queue.items = []
  /-- Nobody is stuck beside free space or beside an item. -/
  goes_on : ∀ t ∈ w.tasks, (∃ x, t.phase = .producing x) ∧ w.channel.queue.isFull = false ∨
    t.phase = .consuming ∧ w.channel.queue.items ≠ [] → (w.stepTask t).isSome = true

/-- In `Traffic` nobody stops between a change and its announcement. -/
theorem not_announcing_ofTraffic {w : Traffic α} {d : Call α} (hd : d ∈ (ofTraffic w).calls) :
    d.stage.isAnnouncing = false := by
  obtain ⟨t, -, h⟩ := List.mem_filterMap.mp hd
  rw [callOf?] at h
  split at h <;> cases h <;> rfl

theorem WakeUpInvariant.noneForgotten {w : Traffic α} (h : WakeUpInvariant (ofTraffic w)) :
    NoneForgotten w := by
  -- Between two turns no call is on its way to announce something, so who is not told has nothing
  -- to be told of.
  have producers : ∀ t ∈ w.tasks, ∀ x, t.phase = .producing x →
      w.channel.space.isFired t.id = false → w.channel.queue.isFull = true := by
    intro t ht x phase unfired
    have call : (⟨t.id, t.token, .enqueue x, .parked⟩ : Call α) ∈ (ofTraffic w).calls :=
      List.mem_filterMap.mpr ⟨t, ht, by rw [callOf?, phase]⟩
    refine (h.producers _ call ⟨rfl, rfl⟩ unfired).resolve_right ?_
    rintro ⟨d, hd, announcing, -⟩
    rw [not_announcing_ofTraffic hd] at announcing
    cases announcing
  have consumers : ∀ t ∈ w.tasks, t.phase = .consuming →
      w.channel.items.isFired t.id = false → w.channel.queue.items = [] := by
    intro t ht phase unfired
    have call : (⟨t.id, t.token, .dequeue, .parked⟩ : Call α) ∈ (ofTraffic w).calls :=
      List.mem_filterMap.mpr ⟨t, ht, by rw [callOf?, phase]⟩
    refine (h.consumers _ call ⟨rfl, rfl⟩ unfired).resolve_right ?_
    rintro ⟨d, hd, announcing, -⟩
    rw [not_announcing_ofTraffic hd] at announcing
    cases announcing
  refine ⟨producers, consumers, fun t ht waits ↦ ?_⟩
  rcases waits with ⟨⟨x, phase⟩, space⟩ | ⟨phase, item⟩
  · have fired : w.channel.space.isFired t.id = true := by
      by_contra unfired
      rw [producers t ht x phase (by simpa using unfired)] at space
      cases space
    cases cancelled : w.fired.contains t.token <;>
      simp only [Traffic.stepTask, phase, Channel.resumeEnqueue, cancelled, fired,
        Bool.false_eq_true, if_false, if_true, Option.isSome_some]
  · have fired : w.channel.items.isFired t.id = true := by
      by_contra unfired
      exact item (consumers t ht phase (by simpa using unfired))
    cases cancelled : w.fired.contains t.token <;>
      simp only [Traffic.stepTask, phase, Channel.resumeDequeue, cancelled, fired,
        Bool.false_eq_true, if_false, if_true, Option.isSome_some]

/-- **No wake-up is lost**, whatever the order in which any number of producers, one consumer and
calls that do not wait take their turns, are cancelled and are given up. -/
theorem no_wakeup_is_lost {capacity : Nat} {mode : FullMode} {metrics : SelfMetrics}
    {ch : Channel α} (created : Channel.new capacity mode metrics = .ok ch) :
    (∀ (l : List (Passage (Threads α) (Move α))) (w : Threads α),
      Trail Threads.move (start ch) l w → WaitsForReason w) ∧
    ∀ (l : List (Passage (Traffic α) (Traffic.Move α))) (w : Traffic α),
      Trail Traffic.move (Traffic.start ch) l w → OneConsumer l → NoneForgotten w := by
  refine ⟨fun l w run ↦ ?_, fun l w run single ↦ ?_⟩
  · exact (wakeUpInvariant_of_trail created run).toWaitsForReason
  · obtain ⟨-, l', run'⟩ := exists_of_traffic run single
    exact (wakeUpInvariant_of_trail created run').noneForgotten

/-- An item has been taken out, which is not announced yet, while a producer waits; and a consumer
is told of an item before it has come back. -/
theorem no_wakeup_is_lost_late : ∃ ch : Channel Nat, Channel.new 1 .block .new = .ok ch ∧
    (∃ l w, Trail Threads.move (start ch) l w ∧ w.channel.queue.items = [] ∧
      w.channel.space.isFired 1 = false ∧ WaitsForReason w) ∧
    ∃ l w, Trail Traffic.move (Traffic.start ch) l w ∧ w.channel.queue.items = [7] ∧
      OneConsumer l ∧ NoneForgotten w := by
  obtain ⟨ch, created⟩ : ∃ ch : Channel Nat, Channel.new 1 .block .new = .ok ch := ⟨_, rfl⟩
  obtain rfl : (⟨⟨1, .block, [], Nat.one_pos⟩, 0, .new, .new, .new⟩ : Channel Nat) = ch :=
    Except.ok.inj created
  obtain ⟨between, turns⟩ := no_wakeup_is_lost created
  have run : Trail Threads.move (start ⟨⟨1, .block, [], Nat.one_pos⟩, 0, .new, .new, .new⟩) _ _ :=
    Trail.of_follow
      [.call 0 0 (.enqueue 7), .turn 0, .turn 0, .turn 0, .turn 0, .call 1 0 (.enqueue 8), .turn 1,
        .turn 1, .call 2 0 .tryDequeue, .turn 2, .turn 2] rfl
  have traffic : Trail Traffic.move
      (Traffic.start ⟨⟨1, .block, [], Nat.one_pos⟩, 0, .new, .new, .new⟩) _ _ :=
    Trail.of_follow [.consume 0 0, .turn 0, .produce 1 0 7, .turn 1] rfl
  refine ⟨_, created, ⟨_, _, run, rfl, rfl, between _ _ run⟩, ⟨_, _, traffic, rfl, ?single, ?_⟩⟩
  case single => decide
  · exact turns _ _ traffic (by decide)

end Threads

end MetricsAgent
