import MetricsAgent.Proofs.Push.Effect

/-!
# What an export has done, and what its summary says

An export offers the envelopes of its batch one after the other, and with each of them it may have
to wait for space.  Between its turns others do what they like: they offer envelopes and take them
out, begin to wait and give up, and fire tokens.  `Pipeline.ExportRun` holds the runs of one export
in such company, and `Pipeline.exportRun_of_trail` says that every run of a pipeline is one for each
of its exports.

`Pipeline.ExportTurn` lists what a turn of an export does.  After every turn the summary counts the
envelopes that were offered so far (`Pipeline.Counts`), and at the end those of the whole batch
(`Pipeline.AddsUp`), also where the token of the pipeline has fired during a wait.

What the numbers mean depends on the mode of the queue.

* When the newest one is dropped, the envelopes that the summary calls dropped are those that the
  metrics count as dropped in the turns of this export.
* When the oldest one is dropped, no envelope of the batch is missing.
* When an export waits for space, envelopes are missing only at the end of the batch and only after
  the token has fired, and the metrics do not count them.

`Pipeline.summary_adds_up` is about an export that began at any time, and about all that happens
after.  `Pipeline.Proceeds` also bounds the number of its turns, but for those in which it was woken
in vain because others have taken the space.
-/

set_option autoImplicit false

namespace MetricsAgent

namespace Channel.Effect

variable {α : Type}

/-- An effect drops one item at most. -/
theorem toNat_drops (e : Effect α) : e.drops.toUInt64.toNat = e.drops := by
  cases e with
  | offered x p => cases p <;> rfl
  | _ => rfl

end Channel.Effect

namespace Pipeline

variable {σ : Type} {s : SenderSetup σ} {w w' : Pipeline σ} {id : Nat} {x x' : Export}

/-! ## The turns of an export

A turn offers one envelope, or none when it ends the export or has to wait. -/

/-- The export with a number. -/
def export? (w : Pipeline σ) (id : Nat) : Option Export := w.exports.find? (·.id = id)

/-- The envelopes that an export has still to offer. -/
def ExportPhase.left : ExportPhase → List Envelope
  | .offering rest => rest
  | .waiting e rest => e :: rest
  | .ended => []

/-- Whether an export waits for space. -/
def ExportPhase.isWaiting : ExportPhase → Bool
  | .waiting .. => true
  | _ => false

/-- Something happens to the channel, and as much is told of what has gone in. -/
structure Does (w w' : Pipeline σ) (e : Channel.Effect Envelope) : Prop where
  follows : w.shared.channel.Follows e w'.shared.channel
  accepted : w'.shared.accepted = w.shared.accepted ++ e.accepted?.toList
  fired : w'.fired = w.fired

/-- What a turn of an export does, and what becomes of the export. -/
inductive ExportTurn (w w' : Pipeline σ) (x : Export) : Export → Prop where
  /-- The next envelope is through. A queue that lets producers wait has it. -/
  | offer {e : Envelope} {rest : List Envelope} (pushed : Pushed Envelope)
    (left : x.phase.left = e :: rest)
    (stored : w.shared.channel.queue.mode = .block → pushed = .stored)
    (unfired : x.phase.isWaiting = true → w.isFired 0 = false)
    (does : w.Does w' (.offered e pushed)) :
    ExportTurn w w' x { x with phase := .offering rest, summary := tally x.summary pushed.accepted }
  /-- There is no space for the next envelope. -/
  | park {e : Envelope} {rest : List Envelope} (left : x.phase.left = e :: rest)
    (blocks : w.shared.channel.queue.mode = .block) (full : w.shared.channel.queue.isFull = true)
    (unfired : x.phase.isWaiting = true → w.isFired 0 = false) (does : w.Does w' .nothing) :
    ExportTurn w w' x { x with phase := .waiting e rest }
  /-- The token has fired during the wait, and what is left counts as dropped. -/
  | interrupt {e : Envelope} {rest : List Envelope} (waits : x.phase = .waiting e rest)
    (fired : w.isFired 0 = true) (does : w.Does w' .nothing) :
    ExportTurn w w' x { x with
      phase := .ended
      summary := { x.summary with dropped := x.summary.dropped + (rest.length + 1) } }
  /-- Nothing is left. -/
  | finish (done : x.phase = .offering []) (does : w.Does w' .nothing) :
    ExportTurn w w' x { x with phase := .ended }

theorem does_nothing (same : w.shared.channel.Same w'.shared.channel)
    (told : w'.shared.accepted = w.shared.accepted) (fired : w'.fired = w.fired) :
    w.Does w' .nothing :=
  ⟨.nothing same, told.trans (List.append_nil _).symm, fired⟩

/-- An export has had its turn with an envelope. -/
theorem afterOffer_turn {e : Envelope} {rest : List Envelope}
    {t : Channel.Turn Envelope (Pushed Envelope)} (left : x.phase.left = e :: rest)
    (offers : t.offers w.shared.channel e) (heeds : t.Heeds w.shared.channel)
    (unfired : x.phase.isWaiting = true → w.isFired 0 = false) :
    ∃ x', x'.id = x.id ∧ (w.afterOffer x e rest t).exports = (w.putExport x').exports ∧
      ExportTurn w (w.afterOffer x e rest t) x x' := by
  cases t with
  | done pushed c =>
    refine ⟨{ x with phase := .offering rest, summary := tally x.summary pushed.accepted },
      rfl, rfl, .offer pushed left heeds unfired ⟨?_, ?_, rfl⟩⟩
    · have channel := (PushState.foldl_note (offerEvents e pushed) { w.shared with channel := c }).1
      exact channel.symm ▸ offers
    · have told := PushState.events_foldl_note (offerEvents e pushed) { w.shared with channel := c }
      refine (congrArg (List.filterMap PushEvent.accepted?) told).trans ?_
      rw [List.filterMap_append]
      cases pushed <;> rfl
  | parked c =>
    exact ⟨{ x with phase := .waiting e rest }, rfl, rfl,
      .park left heeds.1 heeds.2 unfired (does_nothing offers rfl rfl)⟩

/-- **What a turn of an export does.** -/
theorem stepExport_turn (e : w.stepExport x = some w') :
    ∃ x', x'.id = x.id ∧ w'.exports = (w.putExport x').exports ∧ ExportTurn w w' x x' := by
  cases phase : x.phase with
  | offering rest =>
    cases rest with
    | nil =>
      simp only [stepExport, phase, Option.some_inj] at e
      subst e
      exact ⟨{ x with phase := .ended }, rfl, rfl, .finish phase (does_nothing (.refl _) rfl rfl)⟩
    | cons first rest =>
      simp only [stepExport, phase, Option.some_inj] at e
      subst e
      exact afterOffer_turn (by rw [phase]; rfl) (Channel.enqueueTurn_offers ..)
        (Channel.enqueueTurn_heeds ..)
        (by rw [phase]; exact fun waits ↦ absurd waits Bool.false_ne_true)
  | waiting first rest =>
    simp only [stepExport, phase] at e
    split at e
    · cases e
    · rename_i c hc
      cases e
      refine ⟨_, ?_, rfl,
        .interrupt phase ?_ (does_nothing (Channel.resumeEnqueue_cancelled hc) rfl rfl)⟩
      · rfl
      cases fired : w.isFired 0 with
      | true => rfl
      | false =>
        rw [fired, Channel.resumeEnqueue, if_neg Bool.false_ne_true] at hc
        split at hc <;> cases hc
    · rename_i t ht
      cases e
      obtain ⟨unfired, heeds⟩ := Channel.resumeEnqueue_heeds ht
      exact afterOffer_turn (by rw [phase]; rfl)
        (Channel.resumeEnqueue_turn ht) heeds fun _ ↦ unfired
  | ended => simp [stepExport, phase] at e

/-- What a turn of an export does, whichever it is. -/
theorem ExportTurn.exists_does (h : ExportTurn w w' x x') : ∃ e, w.Does w' e := by
  cases h with
  | offer _ _ _ _ does | park _ _ _ _ does | interrupt _ _ does | finish _ does => exact ⟨_, does⟩

theorem Does.mode {e : Channel.Effect Envelope} (h : w.Does w' e) :
    w'.shared.channel.queue.mode = w.shared.channel.queue.mode := h.follows.mode

/-- The export that has had its turn is found again. -/
theorem turn_export (e : move s (.turn (.exporting id)) w = some w') :
    ∃ x x', w.export? id = some x ∧ w'.export? id = some x' ∧ ExportTurn w w' x x' := by
  obtain ⟨x, found, e⟩ := Option.bind_eq_some_iff.mp e
  obtain ⟨x', same, exports, turn⟩ := stepExport_turn e
  obtain rfl := Keyed.key_of_find? found
  refine ⟨x, x', found, ?_, turn⟩
  rw [export?, exports, ← same]
  exact Keyed.find?_replace (c := x') (by rw [same]; exact found)

/-! ## An export and others

Of what others do, only three things matter to an export: they leave it where it is, they leave the
mode as it is, and what has fired stays so. -/

/-- What others may do between two turns of an export: everything, but they leave the export where
it is, the mode of the queue as it is, and what has fired fired. -/
structure Others (id : Nat) (w w' : Pipeline σ) : Prop where
  export? : w'.export? id = w.export? id
  mode : w'.shared.channel.queue.mode = w.shared.channel.queue.mode
  fired : w.fired ⊆ w'.fired

/-- The runs of an export from a state, with its turns, where others do something at any time. -/
inductive ExportRun (s : SenderSetup σ) (id : Nat) (first : Pipeline σ) :
    List (Passage (Pipeline σ) Move) → Pipeline σ → Prop where
  | start : ExportRun s id first [] first
  | others {l : List (Passage (Pipeline σ) Move)} {w w' : Pipeline σ} (h : ExportRun s id first l w)
    (o : Others id w w') : ExportRun s id first l w'
  | turn {l : List (Passage (Pipeline σ) Move)} {w w' : Pipeline σ} (h : ExportRun s id first l w)
    (e : move s (.turn (.exporting id)) w = some w') :
    ExportRun s id first (l ++ [⟨w, .turn (.exporting id), w'⟩]) w'

/-- Whether a move is a turn of an export. -/
def Move.isExporting (id : Nat) : Move → Bool
  | .turn (.exporting i) => i = id
  | _ => false

theorem mode_of_effect {φ φ' : Sender.Phase} {p p' : PushState σ} (h : Sender.Effect s φ p φ' p') :
    p'.channel.queue.mode = p.channel.queue.mode := by
  cases h with
  | goes _ queue | settles _ _ _ _ queue => rw [queue]
  | drains _ _ _ _ queue => rw [queue]

/-- The other moves of a pipeline leave an export where it is. -/
theorem others_of_move {m : Move} (found : w.export? id = some x) (other : m.isExporting id = false)
    (e : move s m w = some w') : Others id w w' := by
  cases m with
  | beginExport i batch =>
    simp only [move, Option.ite_none_right_eq_some, Option.some_inj] at e
    obtain ⟨-, rfl⟩ := e
    refine ⟨?_, rfl, List.Subset.refl _⟩
    have found : w.exports.find? (·.id = id) = some x := found
    rw [export?, beginExport, List.find?_append, found]
    exact found.symm
  | beginTick i token | startSender i token =>
    simp only [move, Option.ite_none_right_eq_some, Option.some_inj] at e
    obtain ⟨-, -, rfl⟩ := e
    exact ⟨rfl, rfl, List.Subset.refl _⟩
  | cancel token =>
    cases e
    exact ⟨rfl, rfl, List.subset_cons_self ..⟩
  | elapse ms =>
    cases e
    exact ⟨rfl, rfl, List.Subset.refl _⟩
  | turn t =>
    cases t with
    | exporting i =>
      obtain ⟨y, found, e⟩ := Option.bind_eq_some_iff.mp e
      obtain ⟨y', same, exports, turn⟩ := stepExport_turn e
      obtain ⟨_, does⟩ := turn.exists_does
      refine ⟨?_, does.mode, does.fired ▸ List.Subset.refl _⟩
      -- Another export took the turn, and it replaces only itself.
      have ne : y'.id ≠ id := by
        rw [same, Keyed.key_of_find? found]
        exact of_decide_eq_false other
      rw [export?, exports]
      exact Keyed.find?_replace_of_ne (c := y') ne
    | sending i =>
      obtain ⟨y, -, e⟩ := Option.bind_eq_some_iff.mp e
      obtain ⟨r, step, rfl⟩ := Option.map_eq_some_iff.mp e
      exact ⟨rfl, mode_of_effect (Sender.step_effect step), List.Subset.refl _⟩

/-- **Every run of a pipeline is a run of each of its exports**, with the turns that it has. -/
theorem exportRun_of_trail {first : Pipeline σ} {l : List (Passage (Pipeline σ) Move)}
    (there : first.export? id = some x) (run : Trail (move s) first l w) :
    ExportRun s id first (l.filter (·.move.isExporting id)) w := by
  have both : ExportRun s id first (l.filter (·.move.isExporting id)) w ∧
      ∃ x, w.export? id = some x := by
    induction run with
    | start => exact ⟨.start, x, there⟩
    | @move l w w' _ m e ih =>
      obtain ⟨before, y, found⟩ := ih
      rw [List.filter_append, List.filter_singleton]
      cases own : m.isExporting id with
      | false =>
        have others := others_of_move found own e
        rw [cond_false, List.append_nil]
        exact ⟨before.others others, y, others.export?.trans found⟩
      | true =>
        obtain rfl : m = .turn (.exporting id) := by
          cases m with
          | turn t =>
            cases t with
            | exporting i => rw [of_decide_eq_true own]
            | sending i => cases own
          | _ => cases own
        obtain ⟨_, x', -, found', -⟩ := turn_export e
        exact ⟨before.turn e, x', found'⟩
  exact both.1

/-! ## What the turns add up to

Both sums are over the turns of this export.  What others add to the same counters is not among
them. -/

/-- The envelopes that have gone into the queue in a turn. -/
def put (t : Passage (Pipeline σ) Move) : List Envelope :=
  t.after.shared.accepted.drop t.before.shared.accepted.length

/-- The envelopes that have gone into the queue in turns, in order. -/
def taken (l : List (Passage (Pipeline σ) Move)) : List Envelope := l.flatMap put

/-- What a turn adds to the number of dropped envelopes. -/
def dropShare (t : Passage (Pipeline σ) Move) : Nat :=
  (t.after.shared.channel.metrics.dropped - t.before.shared.channel.metrics.dropped).toNat

/-- What turns add to the number of dropped envelopes. -/
def drops (l : List (Passage (Pipeline σ) Move)) : Nat := l.foldl (fun n t ↦ n + dropShare t) 0

theorem Does.put {e : Channel.Effect Envelope} (h : w.Does w' e) (m : Move) :
    put ⟨w, m, w'⟩ = e.accepted?.toList := by
  rw [Pipeline.put, h.accepted, List.drop_left]

theorem Does.taken {e : Channel.Effect Envelope} (h : w.Does w' e) (m : Move)
    (l : List (Passage (Pipeline σ) Move)) :
    taken (l ++ [⟨w, m, w'⟩]) = taken l ++ e.accepted?.toList := by
  rw [Pipeline.taken, List.flatMap_append, List.flatMap_singleton, h.put]
  rfl

theorem Does.drops {e : Channel.Effect Envelope} (h : w.Does w' e) (m : Move)
    (l : List (Passage (Pipeline σ) Move)) : drops (l ++ [⟨w, m, w'⟩]) = drops l + e.drops := by
  have share : dropShare ⟨w, m, w'⟩ = e.drops := by
    rw [dropShare, h.follows.dropped, Counter.add_sub_self, e.toNat_drops]
  rw [Pipeline.drops, List.foldl_append, ← share]
  rfl

/-- Where nothing happens to the items nothing is added. -/
theorem Does.adds_nothing (h : w.Does w' .nothing) (m : Move)
    (l : List (Passage (Pipeline σ) Move)) : Pipeline.taken (l ++ [⟨w, m, w'⟩]) = Pipeline.taken l ∧
      Pipeline.drops (l ++ [⟨w, m, w'⟩]) = Pipeline.drops l :=
  ⟨(h.taken m l).trans (List.append_nil _), h.drops m l⟩

/-- What the summary says after the envelopes `offered` have had their turns, of which `taken` have
gone into the queue, with `drops` added to the number of dropped envelopes. -/
structure Counts (mode : FullMode) (offered taken : List Envelope) (drops : Nat)
    (sum : ExportSummary) : Prop where
  total : sum.accepted + sum.dropped = offered.length
  accepted : sum.accepted = taken.length
  order : taken.Sublist offered
  refused : mode = .dropNewest → drops = sum.dropped
  whole : mode ≠ .dropNewest → taken = offered
  kept : mode = .block → drops = 0

/-- What the summary of an export says at its end, of which the envelopes `taken` of all have gone
into the queue, with `drops` added to the number of dropped envelopes. -/
structure AddsUp (mode : FullMode) (all taken : List Envelope) (drops : Nat) (fired : Bool)
    (sum : ExportSummary) : Prop where
  total : sum.accepted + sum.dropped = all.length
  accepted : sum.accepted = taken.length
  order : taken.Sublist all
  dropNewest : mode = .dropNewest → drops = sum.dropped
  dropOldest : mode = .dropOldest → sum.dropped = 0 ∧ taken = all
  /-- Envelopes are missing at the end of the batch only, and only after the token has fired. -/
  block : mode = .block → taken <+: all ∧ drops = 0 ∧ (0 < sum.dropped → fired = true)

section Summaries

variable {mode : FullMode} {all offered taken : List Envelope} {n : Nat} {sum : ExportSummary}

/-- Every envelope counts once, as accepted or as dropped. -/
theorem total_tally (sum : ExportSummary) (accepted : Bool) :
    (tally sum accepted).accepted + (tally sum accepted).dropped =
    sum.accepted + sum.dropped + 1 := by
  cases accepted with
  | true => exact Nat.add_right_comm ..
  | false => rfl

/-- One more envelope has had its turn. -/
theorem Counts.offer (h : Counts mode offered taken n sum) {c c' : Channel Envelope}
    (same : c.queue.mode = mode) {e : Envelope} {pushed : Pushed Envelope}
    (stored : c.queue.mode = .block → pushed = .stored)
    (follows : c.Follows (.offered e pushed) c') :
    Counts mode (offered ++ [e]) (taken ++ (Channel.Effect.offered e pushed).accepted?.toList)
      (n + (Channel.Effect.offered e pushed).drops) (tally sum pushed.accepted) := by
  have total : (tally sum pushed.accepted).accepted + (tally sum pushed.accepted).dropped =
      (offered ++ [e]).length := by
    rw [total_tally, h.total, List.length_append, List.length_singleton]
  have accepted := h.accepted
  subst same
  cases follows with
  | stored =>
    exact
      { total
        accepted := by rw [List.length_append, ← accepted]; rfl
        order := h.order.append (.refl [e])
        refused := h.refused
        whole := fun mode ↦ congrArg (· ++ [e]) (h.whole mode)
        kept := h.kept }
  | evicted _ old rest mode =>
    exact
      { total
        accepted := by rw [List.length_append, ← accepted]; rfl
        order := h.order.append (.refl [e])
        refused := fun newest ↦ nomatch mode.symm.trans newest
        whole := fun mode ↦ congrArg (· ++ [e]) (h.whole mode)
        kept := fun block ↦ nomatch mode.symm.trans block }
  | refused _ mode =>
    -- An offer of an export is refused in one mode only, since an export in Block mode waits for
    -- space.
    have newest : c.queue.mode = .dropNewest := by
      cases same : c.queue.mode with
      | dropNewest => rfl
      | dropOldest => exact absurd same mode
      | block => exact nomatch stored same
    exact
      { total
        accepted := by rw [List.length_append, ← accepted]; rfl
        order := h.order.append (List.nil_sublist [e])
        refused := fun _ ↦ congrArg (· + 1) (h.refused newest)
        whole := fun other ↦ absurd newest other
        kept := fun block ↦ nomatch newest.symm.trans block }

/-- All envelopes have had their turns. -/
theorem Counts.finish (h : Counts mode all taken n sum) (fired : Bool) :
    AddsUp mode all taken n fired sum := by
  have total := h.total
  have accepted := h.accepted
  have none_dropped (whole : mode ≠ .dropNewest) : sum.dropped = 0 := by
    rw [accepted, h.whole whole] at total
    omega
  exact
    { total, accepted
      order := h.order
      dropNewest := h.refused
      dropOldest := fun oldest ↦ ⟨none_dropped (by simp [oldest]), h.whole (by simp [oldest])⟩
      block := fun block ↦
        have whole : mode ≠ .dropNewest := by simp [block]
        ⟨(h.whole whole).symm ▸ List.prefix_refl _, h.kept block, fun some_dropped ↦ by
          rw [none_dropped whole] at some_dropped
          exact absurd some_dropped (Nat.lt_irrefl 0)⟩ }

/-- The token has fired during the wait with an envelope. -/
theorem Counts.interrupt (h : Counts mode offered taken n sum)
    (block : mode = .block) (e : Envelope) (rest : List Envelope) :
    AddsUp mode (offered ++ e :: rest) taken n true
      { sum with dropped := sum.dropped + (rest.length + 1) } := by
  have total := h.total
  obtain rfl : taken = offered := h.whole (by simp [block])
  exact
    { total := by simp only [List.length_append, List.length_cons]; omega
      accepted := h.accepted
      order := List.sublist_append_left ..
      dropNewest := fun newest ↦ nomatch block.symm.trans newest
      dropOldest := fun oldest ↦ nomatch block.symm.trans oldest
      block := fun _ ↦ ⟨List.prefix_append .., h.kept block, fun _ ↦ rfl⟩ }

theorem AddsUp.of_fired {fired fired' : Bool} (h : AddsUp mode all taken n fired sum)
    (later : fired = true → fired' = true) : AddsUp mode all taken n fired' sum :=
  { h with block := fun block ↦ (h.block block).imp_right (And.imp_right fun why some_dropped ↦
      later (why some_dropped)) }

end Summaries

/-! ## Runs

`Pipeline.Stage` is the invariant, and each turn takes an export from stage to stage. -/

/-- The number of turns that an export still needs at most, apart from those in vain. -/
def ExportPhase.turnsLeft : ExportPhase → Nat
  | .offering rest => 2 * rest.length + 1
  | .waiting _ rest => 2 * rest.length + 2
  | .ended => 0

/-- Whether an export waits. -/
def isWaiting (w : Pipeline σ) (id : Nat) : Bool := (w.export? id).any (·.phase.isWaiting)

/-- Whether an export was woken in vain: it has to wait again with the same envelope. -/
def isVain (id : Nat) (t : Passage (Pipeline σ) Move) : Bool :=
  t.before.isWaiting id && t.after.isWaiting id

/-- How far an export has come: some envelopes have had their turns, or it is through. -/
inductive Stage (mode : FullMode) (all taken : List Envelope) (drops : Nat)
    (fired : Bool) (x : Export) : Prop where
  | underway (offered : List Envelope) (parts : all = offered ++ x.phase.left)
    (goes_on : x.phase ≠ .ended)
    (waits : x.phase.isWaiting = true → mode = .block)
    (counts : Counts mode offered taken drops x.summary)
  | through (ended : x.phase = .ended) (adds : AddsUp mode all taken drops fired x.summary)

/-- How the turns `l` have brought an export with the envelopes `all` to where it is. -/
structure Proceeds (id : Nat) (mode : FullMode) (all : List Envelope)
    (l : List (Passage (Pipeline σ) Move)) (x : Export) : Prop where
  /-- What is told to have gone into the queue in a turn has gone in, and nothing else. -/
  effects : ∀ t ∈ l, ∃ e, t.before.shared.channel.Follows e t.after.shared.channel ∧
    put t = e.accepted?.toList
  /-- Every turn that is not in vain brings the export nearer to its end. -/
  bound : l.length + x.phase.turnsLeft ≤ 2 * all.length + 1 + l.countP (isVain id)
  /-- A turn is in vain when the space was taken by others, and only before the token has fired. -/
  vain : ∀ t ∈ l, isVain id t = true → mode = .block ∧
    t.before.shared.channel.queue.isFull = true ∧ t.before.isFired 0 = false

/-- What a run of an export keeps to. -/
structure Tracks (id : Nat) (mode : FullMode) (all : List Envelope)
    (l : List (Passage (Pipeline σ) Move)) (w : Pipeline σ) (x : Export) : Prop
    extends Proceeds id mode all l x where
  found : w.export? id = some x
  queueMode : w.shared.channel.queue.mode = mode
  stage : Stage mode all (taken l) (drops l) (w.isFired 0) x

section Runs

variable {mode : FullMode} {all : List Envelope} {l : List (Passage (Pipeline σ) Move)}

theorem Stage.of_fired {taken : List Envelope} {n : Nat} {fired fired' : Bool}
    (h : Stage mode all taken n fired x) (later : fired = true → fired' = true) :
    Stage mode all taken n fired' x := by
  cases h with
  | underway offered parts goes_on waits counts =>
    exact .underway offered parts goes_on waits counts
  | through ended adds => exact .through ended (adds.of_fired later)

/-- An export begins. -/
theorem tracks_beginExport (fresh : w.isFresh id) (batch : List Measurement) :
    Tracks id w.shared.channel.queue.mode (batch.map .ofMeasurement) [] (w.beginExport id batch)
      ⟨id, .offering (batch.map .ofMeasurement), default⟩ := by
  have unused : w.exports.find? (·.id = id) = none :=
    List.find?_eq_none.mpr fun x hx ↦ by simpa using fresh.1 x hx
  have found : (w.beginExport id batch).export? id =
      some ⟨id, .offering (batch.map .ofMeasurement), default⟩ := by
    rw [export?, beginExport, List.find?_append, unused, Option.none_or,
      List.find?_cons_of_pos (by simp)]
  exact
    { effects := by simp
      bound := by simp [ExportPhase.turnsLeft]
      vain := by simp
      found
      queueMode := rfl
      stage := .underway [] rfl (by simp) (by simp [ExportPhase.isWaiting])
        ⟨rfl, rfl, .slnil, fun _ ↦ rfl, fun _ ↦ rfl, fun _ ↦ rfl⟩ }

theorem Tracks.others (h : Tracks id mode all l w x) (o : Others id w w') :
    Tracks id mode all l w' x :=
  { h with
    found := o.export?.trans h.found
    queueMode := o.mode.trans h.queueMode
    stage := h.stage.of_fired (isFired_mono o.fired) }

/-- A turn takes an export from stage to stage. -/
theorem Stage.turn (h : Stage mode all (taken l) (drops l) (w.isFired 0) x)
    (queueMode : w.shared.channel.queue.mode = mode) (turn : ExportTurn w w' x x') (m : Move) :
    Stage mode all (taken (l ++ [⟨w, m, w'⟩])) (drops (l ++ [⟨w, m, w'⟩])) (w'.isFired 0) x' := by
  cases h with
  | through ended =>
    have none_left : x.phase.left = [] := by rw [ended]; rfl
    cases turn with
    | offer _ left | park left => cases none_left.symm.trans left
    | interrupt waits => cases ended.symm.trans waits
    | finish done => cases ended.symm.trans done
  | underway offered parts _ waits counts =>
    cases turn with
    | @offer e rest pushed left stored _ does =>
      rw [does.taken, does.drops]
      rw [left, List.append_cons] at parts
      exact .underway (offered ++ [e]) parts (by simp) (by simp [ExportPhase.isWaiting])
        (counts.offer queueMode stored does.follows)
    | park left blocks _ _ does =>
      rw [(does.adds_nothing m l).1, (does.adds_nothing m l).2]
      rw [left] at parts
      exact .underway offered parts (by simp) (fun _ ↦ queueMode.symm.trans blocks) counts
    | @interrupt e rest phase fired does =>
      have still : w'.isFired 0 = true := by rw [isFired, does.fired]; exact fired
      rw [(does.adds_nothing m l).1, (does.adds_nothing m l).2, still]
      rw [phase] at parts waits
      exact .through rfl (parts ▸ counts.interrupt (waits rfl) e rest)
    | finish done does =>
      rw [(does.adds_nothing m l).1, (does.adds_nothing m l).2]
      rw [done] at parts
      obtain rfl : all = offered := parts.trans (List.append_nil offered)
      exact .through rfl (counts.finish _)

theorem ExportTurn.turnsLeft (turn : ExportTurn w w' x x') : x'.phase.turnsLeft + 1 ≤
    x.phase.turnsLeft + if x.phase.isWaiting && x'.phase.isWaiting then 1 else 0 := by
  have next {e : Envelope} {rest : List Envelope} (left : x.phase.left = e :: rest) :
      x.phase = .offering (e :: rest) ∨ x.phase = .waiting e rest := by
    cases phase : x.phase with
    | offering => rw [phase] at left; exact .inl (congrArg _ left)
    | waiting =>
      rw [phase] at left
      obtain ⟨rfl, rfl⟩ := List.cons.inj left
      exact .inr rfl
    | ended => rw [phase] at left; cases left
  cases turn with
  | offer _ left | park left =>
    rcases next left with phase | phase <;> rw [phase] <;>
      simp only [ExportPhase.turnsLeft, ExportPhase.isWaiting, List.length_cons, Bool.and_false,
        Bool.and_true, Bool.false_eq_true, if_false, if_true] <;> omega
  | interrupt waits => simp [waits, ExportPhase.turnsLeft, ExportPhase.isWaiting]
  | finish done => simp [done, ExportPhase.turnsLeft, ExportPhase.isWaiting]

/-- An export waits again where the space was taken by others. -/
theorem ExportTurn.vain (turn : ExportTurn w w' x x') (before : x.phase.isWaiting = true)
    (after : x'.phase.isWaiting = true) : w.shared.channel.queue.mode = .block ∧
      w.shared.channel.queue.isFull = true ∧ w.isFired 0 = false := by
  cases turn with
  | park left blocks full unfired => exact ⟨blocks, full, unfired before⟩
  | offer | interrupt | finish => cases after

theorem isWaiting_of_found (found : w.export? id = some x) :
    w.isWaiting id = x.phase.isWaiting := by
  rw [isWaiting, found]
  rfl

/-- **A turn of the export** takes it on. -/
theorem Tracks.turn (h : Tracks id mode all l w x)
    (e : move s (.turn (.exporting id)) w = some w') :
    ∃ x', Tracks id mode all (l ++ [⟨w, .turn (.exporting id), w'⟩]) w' x' := by
  obtain ⟨y, x', found, found', turn⟩ := turn_export e
  obtain rfl : x = y := Option.some.inj (h.found.symm.trans found)
  obtain ⟨effect, does⟩ := turn.exists_does
  have vain :
      isVain id ⟨w, .turn (.exporting id), w'⟩ = (x.phase.isWaiting && x'.phase.isWaiting) := by
    rw [isVain, isWaiting_of_found found, isWaiting_of_found found']
  refine ⟨x', ⟨⟨?_, ?_, ?_⟩, found', does.mode.trans h.queueMode, h.stage.turn h.queueMode turn _⟩⟩
  · intro t ht
    rcases List.mem_append.mp ht with ht | ht
    · exact h.effects t ht
    · obtain rfl := List.mem_singleton.mp ht
      exact ⟨effect, does.follows, does.put _⟩
  · have nearer := turn.turnsLeft
    have bound := h.bound
    rw [List.length_append, List.length_singleton, List.countP_append, List.countP_singleton, vain]
    omega
  · intro t ht again
    rcases List.mem_append.mp ht with ht | ht
    · exact h.vain t ht again
    · obtain rfl := List.mem_singleton.mp ht
      rw [vain, Bool.and_eq_true] at again
      obtain ⟨blocks, reasons⟩ := turn.vain again.1 again.2
      exact ⟨h.queueMode.symm.trans blocks, reasons⟩

theorem tracks_of_run {batch : List Measurement} {w₀ : Pipeline σ} (fresh : w₀.isFresh id)
    (run : ExportRun s id (w₀.beginExport id batch) l w) :
    ∃ x, Tracks id w₀.shared.channel.queue.mode (batch.map .ofMeasurement) l w x := by
  induction run with
  | start => exact ⟨_, tracks_beginExport fresh batch⟩
  | others _ o ih =>
    obtain ⟨x, tracks⟩ := ih
    exact ⟨x, tracks.others o⟩
  | turn _ e ih =>
    obtain ⟨x, tracks⟩ := ih
    exact tracks.turn e

/-- An export that is not through can have a turn, unless it waits for space and nobody has told it
of any. -/
theorem Tracks.turn_or_waits (h : Tracks id mode all l w x) (goes_on : x.phase ≠ .ended) :
    (move s (.turn (.exporting id)) w).isSome = true ∨
      mode = .block ∧ w.isFired 0 = false ∧ w.shared.channel.space.isFired id = false := by
  have step : move s (.turn (.exporting id)) w = w.stepExport x :=
    congrArg (Option.bind · w.stepExport) h.found
  obtain rfl : x.id = id := Keyed.key_of_find? h.found
  rw [step]
  cases phase : x.phase with
  | ended => exact absurd phase goes_on
  | offering rest => cases rest <;> simp [stepExport, phase]
  | waiting e rest =>
    cases h.stage with
    | through ended => exact absurd ended goes_on
    | underway offered parts _ waits =>
      have block : mode = .block := waits (by rw [phase]; rfl)
      cases fired : w.isFired 0 with
      | true => simp [stepExport, phase, fired, Channel.resumeEnqueue]
      | false =>
        cases ticket : w.shared.channel.space.isFired x.id with
        | true => simp [stepExport, phase, fired, Channel.resumeEnqueue, ticket]
        | false => exact .inr ⟨block, rfl, rfl⟩

/-- **The summary of an export adds up**, whatever others do with the channel, with any envelopes in
the queue at the beginning, and whenever the token fires. An export comes to its end by its own
turns, unless it has to wait; it always ends with a summary, and the summary counts every envelope
of the batch once. -/
theorem summary_adds_up {w₀ : Pipeline σ} (fresh : w₀.isFresh id) {batch : List Measurement}
    (run : ExportRun s id (w₀.beginExport id batch) l w) :
    ∃ x, w.export? id = some x ∧
      Proceeds id w₀.shared.channel.queue.mode (batch.map .ofMeasurement) l x ∧
      (x.phase ≠ .ended → (move s (.turn (.exporting id)) w).isSome = true ∨
        w₀.shared.channel.queue.mode = .block ∧ w.isFired 0 = false ∧
          w.shared.channel.space.isFired id = false) ∧
      (x.phase = .ended → AddsUp w₀.shared.channel.queue.mode (batch.map .ofMeasurement) (taken l)
        (drops l) (w.isFired 0) x.summary) := by
  obtain ⟨x, tracks⟩ := tracks_of_run fresh run
  refine ⟨x, tracks.found, tracks.toProceeds, tracks.turn_or_waits, fun ended ↦ ?_⟩
  cases tracks.stage with
  | underway _ _ goes_on => exact absurd ended goes_on
  | through _ adds => exact adds

/-- The space that is made for the second envelope of a batch is taken by another export, and then
the token fires: the summary counts one envelope that was accepted and one that was dropped. -/
theorem summary_adds_up_interrupted :
    ∃ (w₀ w : Pipeline ScriptedClient) (l : List (Passage (Pipeline ScriptedClient) Move))
      (x : Export), w₀.isFresh 1 ∧ ExportRun (retryingOnce ScriptedClient.client) 1
        (w₀.beginExport 1 [.gauge "load" 1, .gauge "used" 2]) l w ∧ w.export? 1 = some x ∧
      (x.phase = .ended ∧ x.summary = ⟨1, 1⟩ ∧ l.countP (isVain 1) = 1) ∧
      Proceeds 1 .block [.ofMeasurement (.gauge "load" 1), .ofMeasurement (.gauge "used" 2)] l x ∧
      AddsUp .block [.ofMeasurement (.gauge "load" 1), .ofMeasurement (.gauge "used" 2)] (taken l)
        (drops l) true x.summary := by
  let w₀ : Pipeline ScriptedClient :=
    start ⟨⟨1, .block, [], Nat.one_pos⟩, 0, .new, .new, .new⟩ ⟨[], []⟩
  have fresh : w₀.isFresh 1 := ⟨List.forall_mem_nil _, List.forall_mem_nil _⟩
  have trail : Trail (move (retryingOnce ScriptedClient.client))
      (w₀.beginExport 1 [.gauge "load" 1, .gauge "used" 2]) _ _ :=
    Trail.of_follow
      [.turn (.exporting 1), .turn (.exporting 1), .beginTick 3 3, .turn (.sending 3),
        .beginExport 2 [.gauge "free" 3], .turn (.exporting 2), .turn (.exporting 1), .cancel 0,
        .turn (.exporting 1)] rfl
  have there : (w₀.beginExport 1 [.gauge "load" 1, .gauge "used" 2]).export? 1 = some _ := rfl
  have run := exportRun_of_trail there trail
  obtain ⟨x, found, proceeds, -, adds⟩ := summary_adds_up fresh run
  obtain rfl : x = ⟨1, .ended, ⟨1, 1⟩⟩ := Option.some.inj (found.symm.trans rfl)
  exact ⟨w₀, _, _, _, fresh, run, found, ⟨rfl, rfl, rfl⟩, proceeds, adds rfl⟩

end Runs

end Pipeline

end MetricsAgent
