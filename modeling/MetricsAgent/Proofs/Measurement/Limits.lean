import Mathlib.Data.List.Induction
import Mathlib.Data.List.Nodup
import MetricsAgent.Measurement.Basic

/-!
# Which tags a measurement keeps

Whether a key is taken depends on the keys that were offered before, and the value that is kept for
it is the last one offered.  Both can be told from what was offered alone: the keys are the first 32
different ones, and each has the beginning of its last value.  `Measurement.tags_keep_limits` says
so for every way to construct a measurement and everything that is done to it afterwards.

* `firstKeys` and `lastValue?` are the closed form, as functions of the offers.
* `Keeps` says that tags are in that form, and `Keeps.withTag` that one more tag keeps them so.
* `Construction` and `Edit` are data types for the ways to make and to change a measurement, so that
  a sequence of them is a variable.
* `Outcome` is what is left of a construction and the edits after it: the tags, and the name, the
  kind, the value and the time, which tags leave alone.
-/

set_option autoImplicit false

namespace MetricsAgent

/-! ## Tag maps

Putting a value under a key changes what is found under that key and nothing else. -/

namespace Tags

theorem lookup_cons_eq_ite (k : String) (e : String × String) (l : List (String × String)) :
    (e :: l).lookup k = if k = e.1 then some e.2 else l.lookup k := by
  by_cases same : k = e.1
  · rw [List.lookup_cons, beq_iff_eq.mpr same, if_pos same]
  · rw [List.lookup_cons, beq_eq_false_iff_ne.mpr same, if_neg same]

theorem lookup_insertEntry (key value : String) (l : List (String × String)) (k : String) :
    (insertEntry key value l).lookup k = if k = key then some value else l.lookup k := by
  induction l with
  | nil => rw [insertEntry, lookup_cons_eq_ite]
  | cons e l ih =>
    rw [insertEntry]
    split
    · rw [lookup_cons_eq_ite]
    · split
      · rename_i here
        rw [lookup_cons_eq_ite, lookup_cons_eq_ite, ← here]
        split <;> rfl
      · rename_i other
        rw [lookup_cons_eq_ite, lookup_cons_eq_ite, ih]
        by_cases first : k = e.1
        · have differs : k ≠ key := fun same ↦ other (same.symm.trans first)
          rw [if_pos first, if_neg differs, if_pos first]
        · rw [if_neg first, if_neg first]

theorem get?_insert (t : Tags) (key value k : String) :
    (t.insert key value).get? k = if k = key then some value else t.get? k :=
  lookup_insertEntry key value t.entries k

theorem contains_iff_mem_keys {t : Tags} {key : String} : t.contains key = true ↔ key ∈ t.keys := by
  rw [contains, get?, List.lookup_isSome_iff, keys, List.mem_map]
  exact ⟨fun ⟨e, he, same⟩ ↦ ⟨e, he, (beq_iff_eq.mp same).symm⟩,
    fun ⟨e, he, same⟩ ↦ ⟨e, he, beq_iff_eq.mpr same.symm⟩⟩

end Tags

namespace Measurement

/-! ## What is offered

The first 32 different keys of a sequence of offers.  An offer of a new key is of consequence only
while there are fewer, and once there are enough, more offers add none. -/

/-- The first 32 different keys that are offered. -/
def firstKeys (offered : List (String × String)) : List String :=
  (offered.map Prod.fst).eraseDups.take 32

/-- The beginning of the value that is offered last for a key. -/
def lastValue? (offered : List (String × String)) (key : String) : Option String :=
  (offered.reverse.lookup key).map fun v ↦ String.ofList (v.toList.take 160)

/-- Tags are the first keys that were offered, each with the beginning of its last value. -/
def Keeps (t : Tags) (offered : List (String × String)) : Prop :=
  ∀ key, t.get? key = if key ∈ firstKeys offered then lastValue? offered key else none

section Kept

variable {offered : List (String × String)} {t : Tags} {m : Measurement} {key value : String}

theorem eraseDups_concat (l : List String) (a : String) :
    (l ++ [a]).eraseDups = if a ∈ l then l.eraseDups else l.eraseDups ++ [a] := by
  rw [List.eraseDups_append, List.removeAll, List.filter_singleton]
  by_cases there : a ∈ l
  · simp [there]
  · simp [there, List.eraseDups_cons]

theorem nodup_eraseDups (l : List String) : l.eraseDups.Nodup := by
  induction l using List.reverseRecOn with
  | nil => exact List.nodup_nil
  | append_singleton l a ih =>
    rw [eraseDups_concat]
    split
    · exact ih
    · rename_i new
      rw [← List.concat_eq_append]
      exact List.Nodup.concat (mt List.mem_eraseDups.mp new) ih

theorem mem_of_mem_firstKeys (h : key ∈ firstKeys offered) : key ∈ offered.map Prod.fst :=
  List.mem_eraseDups.mp (List.mem_of_mem_take h)

/-- A key that is offered is among the first ones, or there are enough of these. -/
theorem mem_firstKeys_or_full (h : key ∈ offered.map Prod.fst) :
    key ∈ firstKeys offered ∨ 32 ≤ (offered.map Prod.fst).eraseDups.length := by
  rcases Nat.lt_or_ge (offered.map Prod.fst).eraseDups.length 32 with few | full
  · rw [firstKeys, List.take_of_length_le (Nat.le_of_lt few)]
    exact .inl (List.mem_eraseDups.mpr h)
  · exact .inr full

/-- Once there are enough keys, more offers add none. -/
theorem firstKeys_append_of_full (full : 32 ≤ (offered.map Prod.fst).eraseDups.length)
    (more : List (String × String)) : firstKeys (offered ++ more) = firstKeys offered := by
  rw [firstKeys, firstKeys, List.map_append, List.eraseDups_append,
    List.take_append_of_le_length full]

theorem length_firstKeys (offered : List (String × String)) :
    (firstKeys offered).length = min 32 (offered.map Prod.fst).eraseDups.length := List.length_take

theorem mem_firstKeys_concat_self (h : key ∈ firstKeys offered ∨ (firstKeys offered).length < 32) :
    key ∈ firstKeys (offered ++ [(key, value)]) := by
  rw [length_firstKeys] at h
  rw [firstKeys, List.map_append, List.map_singleton, eraseDups_concat]
  split
  · rename_i there
    rcases h with kept | few
    · exact kept
    · exact (mem_firstKeys_or_full there).resolve_right (by omega)
  · rename_i new
    have few : (offered.map Prod.fst).eraseDups.length < 32 := by
      rcases h with kept | few
      · exact absurd (mem_of_mem_firstKeys kept) new
      · omega
    rw [List.take_of_length_le (by rw [List.length_append, List.length_singleton]; exact few)]
    exact List.mem_append_right _ (List.mem_singleton_self _)

/-- An offer is of no consequence for the other keys. -/
theorem mem_firstKeys_concat_of_ne {k : String} (other : k ≠ key) :
    k ∈ firstKeys (offered ++ [(key, value)]) ↔ k ∈ firstKeys offered := by
  rw [firstKeys, List.map_append, List.map_singleton, eraseDups_concat]
  split
  · rfl
  · rw [List.take_append, List.mem_append, or_iff_left, firstKeys]
    exact fun h ↦ other (List.mem_singleton.mp (List.mem_of_mem_take h))

theorem lastValue?_concat (offered : List (String × String)) (key value k : String) :
    lastValue? (offered ++ [(key, value)]) k =
      if k = key then some (truncateTagValue value) else lastValue? offered k := by
  rw [lastValue?, List.reverse_append, List.reverse_singleton, List.singleton_append,
    List.lookup_cons]
  by_cases same : k = key
  · rw [if_pos same, same, beq_self_eq_true]
    rfl
  · rw [if_neg same, beq_eq_false_iff_ne.mpr same]
    rfl

theorem isSome_lastValue? (h : key ∈ offered.map Prod.fst) :
    (lastValue? offered key).isSome = true := by
  obtain ⟨e, he, rfl⟩ := List.mem_map.mp h
  rw [lastValue?, Option.isSome_map, List.lookup_isSome_iff]
  exact ⟨e, List.mem_reverse.mpr he, beq_self_eq_true _⟩

/-! ## What is kept

One tag more is one offer more, in each of three cases: the key is there, it is new and there is
room, or it is new and there is none. -/

theorem Keeps.mem_keys_iff (h : Keeps t offered) : key ∈ t.keys ↔ key ∈ firstKeys offered := by
  rw [← Tags.contains_iff_mem_keys, Tags.contains, h key]
  split
  · rename_i kept
    exact iff_of_true (isSome_lastValue? (mem_of_mem_firstKeys kept)) kept
  · rename_i unkept
    exact iff_of_false Bool.false_ne_true unkept

/-- The tags have the first keys, and no others. -/
theorem Keeps.perm (h : Keeps t offered) : t.keys.Perm (firstKeys offered) :=
  (List.perm_ext_iff_of_nodup t.nodup_keys
    ((nodup_eraseDups _).sublist (List.take_sublist _ _))).mpr
    fun _ ↦ h.mem_keys_iff

theorem Keeps.size (h : Keeps t offered) : t.size = (firstKeys offered).length := by
  rw [← h.perm.length_eq, Tags.keys, List.length_map, Tags.size]

/-- **One tag more.** -/
theorem Keeps.withTag (h : Keeps m.tags offered) (key value : String) :
    Keeps (m.withTag key value).tags (offered ++ [(key, value)]) := by
  intro k
  have held : m.tags.contains key = true ↔ key ∈ firstKeys offered :=
    Tags.contains_iff_mem_keys.trans h.mem_keys_iff
  rw [Measurement.withTag, h.size, lastValue?_concat]
  simp only [held]
  split
  · -- The key is refused: there are 32 others.
    rename_i refused
    have full : 32 ≤ (offered.map Prod.fst).eraseDups.length := by
      have := refused.1
      rw [length_firstKeys, maxTagCount] at this
      omega
    rw [firstKeys_append_of_full full, h k]
    by_cases same : k = key
    · rw [same, if_neg refused.2, if_neg refused.2]
    · rw [if_neg same]
  · rename_i accepted
    rw [Tags.get?_insert]
    by_cases same : k = key
    · have kept : key ∈ firstKeys (offered ++ [(key, value)]) := by
        refine mem_firstKeys_concat_self (Classical.or_iff_not_imp_left.mpr fun new ↦ ?_)
        exact Nat.lt_of_not_le fun full ↦ accepted ⟨full, new⟩
      rw [if_pos same, if_pos same, same, if_pos kept]
    · rw [if_neg same, if_neg same, h k]
      simp only [mem_firstKeys_concat_of_ne same]

theorem Keeps.withTags (h : Keeps m.tags offered) (tags : List (String × String)) :
    Keeps (m.withTags tags).tags (offered ++ tags) := by
  induction tags generalizing m offered with
  | nil => rw [List.append_nil]; exact h
  | cons e tags ih =>
    rw [List.append_cons]
    exact ih (h.withTag e.1 e.2)

theorem keeps_empty : Keeps .empty [] := fun _ ↦ rfl

end Kept

/-! ## Constructions and edits

The sequence of edits is followed from its end, since the last edit decides about the name, the time
and each value. -/

/-- A way to construct a measurement. -/
inductive Construction where
  | gauge (name : String) (value : Float)
  | counter (name : String) (value : Float)
  | histogram (name : String) (buckets : List Bucket) (sum : Float) (count : UInt64)
  | summary (name : String) (quantiles : List Quantile) (sum : Float) (count : UInt64)
  | degenerate (name : String) (status : Status)
  | empty (name : String)
  | cancelled (name : String)
  | error (name reason : String)

namespace Construction

/-- The measurement that is constructed, at a time. -/
def build (c : Construction) (now : Timestamp) : Measurement :=
  withTimestamp (match c with
    | .gauge name value => .gauge name value
    | .counter name value => .counter name value
    | .histogram name buckets sum count => .histogram name buckets sum count
    | .summary name quantiles sum count => .summary name quantiles sum count
    | .degenerate name status => .degenerate name status
    | .empty name => .empty name
    | .cancelled name => .cancelled name
    | .error name reason => .error name reason) now

/-- The name that is given. -/
def name : Construction → String
  | gauge name _ | counter name _ | histogram name _ _ _ | summary name _ _ _ | degenerate name _
  | empty name | cancelled name | error name _ => name

/-- The kind that is constructed; a placeholder is a gauge. -/
def kind : Construction → MetricKind
  | counter _ _ => .counter
  | histogram _ _ _ _ => .histogram
  | summary _ _ _ _ => .summary
  | _ => .gauge

/-- The numbers that are given; a placeholder has a zero. -/
def value : Construction → Value
  | gauge _ value | counter _ value => .scalar value
  | histogram _ buckets sum count => .histogram buckets sum count
  | summary _ quantiles sum count => .summary quantiles sum count
  | _ => .scalar 0.0

/-- The tags that are offered by the constructor itself. -/
def offers : Construction → List (String × String)
  | degenerate _ status => [("status", status.name)]
  | empty _ => [("status", "empty")]
  | cancelled _ => [("status", "cancelled")]
  | error _ reason => [("status", "error"), ("reason", reason)]
  | _ => []

end Construction

/-- What is done to a measurement. -/
inductive Edit where
  | tag (key value : String)
  | tags (l : List (String × String))
  | prefixed (lead : String)
  | timestamp (t : Timestamp)

/-- A measurement after an edit. -/
def edit (m : Measurement) : Edit → Measurement
  | .tag key value => m.withTag key value
  | .tags l => m.withTags l
  | .prefixed lead => m.prefixed lead
  | .timestamp t => m.withTimestamp t

/-- A measurement after some edits. -/
def edited (m : Measurement) (edits : List Edit) : Measurement := edits.foldl edit m

namespace Edit

/-- The tags that an edit offers. -/
def offers : Edit → List (String × String)
  | tag key value => [(key, value)]
  | tags l => l
  | _ => []

/-- What an edit puts in front of the name. -/
def lead? : Edit → Option String
  | prefixed lead => some lead
  | _ => none

/-- The time that an edit sets. -/
def time? : Edit → Option Timestamp
  | timestamp t => some t
  | _ => none

end Edit

/-- What is left of a construction and the edits after it. -/
structure Outcome (c : Construction) (now : Timestamp) (edits : List Edit) (m : Measurement) :
    Prop where
  keeps : Keeps m.tags (c.offers ++ edits.flatMap Edit.offers)
  name : m.name = String.join (edits.filterMap Edit.lead?).reverse ++ c.name
  kind : m.kind = c.kind
  value : m.value = c.value
  timestamp : m.timestamp = (edits.filterMap Edit.time?).getLast?.getD now

section Edits

variable {c : Construction} {now : Timestamp} {edits : List Edit} {m : Measurement}

/-- A tag changes nothing but the tags. -/
theorem withTag_eq (m : Measurement) (key value : String) :
    m.withTag key value = { m with tags := (m.withTag key value).tags } := by
  rw [withTag]
  split <;> rfl

/-- Tags change nothing but the tags. -/
theorem withTags_eq (m : Measurement) (tags : List (String × String)) :
    m.withTags tags = { m with tags := (m.withTags tags).tags } := by
  induction tags generalizing m with
  | nil => rfl
  | cons e tags ih =>
    show (m.withTag e.1 e.2).withTags tags =
      { m with tags := ((m.withTag e.1 e.2).withTags tags).tags }
    rw [ih, withTag_eq]

theorem withTimestamp_withTag (m : Measurement) (key value : String) (t : Timestamp) :
    (m.withTag key value).withTimestamp t = (m.withTimestamp t).withTag key value := by
  rw [withTag, withTag]
  by_cases full : maxTagCount ≤ m.tags.size ∧ ¬m.tags.contains key
  · rw [if_pos full]
    exact (if_pos full).symm
  · rw [if_neg full]
    exact (if_neg full).symm

/-- A construction is one without tags, with the tags that it offers. -/
theorem build_eq (c : Construction) (now : Timestamp) :
    c.build now = (Measurement.mk c.name c.kind c.value .empty now).withTags c.offers := by
  cases c with
  | gauge | counter | histogram | summary => rfl
  | degenerate | empty | cancelled => exact withTimestamp_withTag ..
  | error name reason =>
    refine (withTimestamp_withTag ..).trans ?_
    rw [degenerate, withTimestamp_withTag]
    rfl

theorem outcome_build (c : Construction) (now : Timestamp) : Outcome c now [] (c.build now) := by
  have keeps : Keeps (Measurement.mk c.name c.kind c.value .empty now).tags [] := keeps_empty
  rw [build_eq, withTags_eq]
  exact ⟨(List.append_nil c.offers).symm ▸ keeps.withTags c.offers,
    String.empty_append.symm, rfl, rfl, rfl⟩

theorem offers_concat (c : Construction) (edits : List Edit) (e : Edit) :
    c.offers ++ (edits ++ [e]).flatMap Edit.offers =
      (c.offers ++ edits.flatMap Edit.offers) ++ e.offers := by
  rw [List.flatMap_append, List.flatMap_singleton, List.append_assoc]

/-- What is not in an edit is taken over. -/
theorem filterMap_concat_of_none {β : Type} {f : Edit → Option β} (edits : List Edit) {e : Edit}
    (silent : f e = none) : (edits ++ [e]).filterMap f = edits.filterMap f := by
  rw [List.filterMap_append, List.filterMap_cons_none silent, List.filterMap_nil, List.append_nil]

/-- An edit that only offers tags. -/
theorem Outcome.tagged (h : Outcome c now edits m) {e : Edit} (unnamed : e.lead? = none)
    (timeless : e.time? = none) {t : Tags}
    (keeps : Keeps t ((c.offers ++ edits.flatMap Edit.offers) ++ e.offers)) :
    Outcome c now (edits ++ [e]) { m with tags := t } where
  keeps := offers_concat c edits e ▸ keeps
  name := by rw [filterMap_concat_of_none edits unnamed]; exact h.name
  kind := h.kind
  value := h.value
  timestamp := by rw [filterMap_concat_of_none edits timeless]; exact h.timestamp

/-- **One edit more.** -/
theorem Outcome.edit (h : Outcome c now edits m) (e : Edit) :
    Outcome c now (edits ++ [e]) (m.edit e) := by
  cases e with
  | tag key value =>
    rw [Measurement.edit, withTag_eq]
    exact h.tagged rfl rfl (h.keeps.withTag key value)
  | tags l =>
    rw [Measurement.edit, withTags_eq]
    exact h.tagged rfl rfl (h.keeps.withTags l)
  | prefixed lead =>
    have leads : (edits ++ [Edit.prefixed lead]).filterMap Edit.lead? =
        edits.filterMap Edit.lead? ++ [lead] := List.filterMap_append
    refine ⟨?_, ?_, h.kind, h.value, ?_⟩
    · rw [offers_concat]
      exact (List.append_nil _).symm ▸ h.keeps
    · rw [leads, List.reverse_append, List.reverse_singleton, List.singleton_append,
        String.join_cons, String.append_assoc, ← h.name]
      rfl
    · rw [filterMap_concat_of_none edits rfl]
      exact h.timestamp
  | timestamp t =>
    have times : (edits ++ [Edit.timestamp t]).filterMap Edit.time? =
        edits.filterMap Edit.time? ++ [t] := List.filterMap_append
    refine ⟨?_, ?_, h.kind, h.value, ?_⟩
    · rw [offers_concat]
      exact (List.append_nil _).symm ▸ h.keeps
    · rw [filterMap_concat_of_none edits rfl]
      exact h.name
    · rw [times, List.getLast?_concat]
      rfl

/-- **All edits.** -/
theorem outcome_edited (c : Construction) (now : Timestamp) (edits : List Edit) :
    Outcome c now edits ((c.build now).edited edits) := by
  induction edits using List.reverseRecOn with
  | nil => exact outcome_build c now
  | append_singleton edits e ih =>
    rw [edited, List.foldl_append]
    exact ih.edit e

/-- A key that was offered and not taken is not taken later. -/
theorem not_mem_firstKeys_append {offered : List (String × String)} {key : String}
    (known : key ∈ offered.map Prod.fst) (refused : key ∉ firstKeys offered)
    (more : List (String × String)) : key ∉ firstKeys (offered ++ more) := by
  have full := (mem_firstKeys_or_full known).resolve_left refused
  rw [firstKeys_append_of_full full]
  exact refused

end Edits

/-- What a measurement keeps of the tags that are offered, and what tags leave alone. -/
structure KeepsLimits (c : Construction) (now : Timestamp) (edits : List Edit) (m : Measurement) :
    Prop where
  /-- The keys are the first 32 different ones, -/
  keys : m.tags.keys.Perm (firstKeys (c.offers ++ edits.flatMap Edit.offers))
  /-- and each has the first 160 characters of the value that was offered last. -/
  values : ∀ key, m.tag? key = if key ∈ firstKeys (c.offers ++ edits.flatMap Edit.offers)
    then lastValue? (c.offers ++ edits.flatMap Edit.offers) key else none
  size : m.tags.size ≤ 32
  length : ∀ key value, m.tag? key = some value → value.length ≤ 160
  /-- A key that was refused stays refused. -/
  refused : ∀ key ∈ (c.offers ++ edits.flatMap Edit.offers).map Prod.fst, m.tag? key = none →
    ∀ more, (m.edited more).tag? key = none
  /-- A key that is there can be given another value, however many there are. -/
  overwritten : ∀ key value, m.tags.contains key = true →
    (m.withTag key value).tag? key = some (String.ofList (value.toList.take 160))
  /-- The last prefix stands first. -/
  name : m.name = String.join (edits.filterMap Edit.lead?).reverse ++ c.name
  kind : m.kind = c.kind
  value : m.value = c.value
  /-- The time that was set last, or that of the construction. -/
  timestamp : m.timestamp = (edits.filterMap Edit.time?).getLast?.getD now

/-- **Tags keep their limits**, for every way to construct a measurement and everything that is done
to it afterwards. -/
theorem tags_keep_limits (c : Construction) (now : Timestamp) (edits : List Edit) :
    KeepsLimits c now edits ((c.build now).edited edits) := by
  have h := outcome_edited c now edits
  have values (edits : List Edit) (key : String) : ((c.build now).edited edits).tag? key = _ :=
    (outcome_edited c now edits).keeps key
  refine ⟨h.keeps.perm, values edits, ?_, fun key value told ↦ ?_, fun key known unheld more ↦ ?_,
    fun key value held ↦ ?_, h.name, h.kind, h.value, h.timestamp⟩
  · rw [h.keeps.size]
    exact List.length_take_le _ _
  · rw [values] at told
    split at told
    · obtain ⟨v, -, rfl⟩ := Option.map_eq_some_iff.mp told
      rw [String.length_ofList]
      exact List.length_take_le _ _
    · cases told
  · have refused : key ∉ firstKeys (c.offers ++ edits.flatMap Edit.offers) := by
      intro kept
      rw [values, if_pos kept] at unheld
      have there := isSome_lastValue? known
      rw [unheld] at there
      cases there
    have later := not_mem_firstKeys_append known refused (more.flatMap Edit.offers)
    rw [List.append_assoc, ← List.flatMap_append] at later
    rw [edited, edited, ← List.foldl_append, ← edited, values, if_neg later]
  · have room : ¬(maxTagCount ≤ ((c.build now).edited edits).tags.size ∧
        ¬((c.build now).edited edits).tags.contains key) := fun full ↦ full.2 held
    rw [withTag, if_neg room]
    exact (Tags.get?_insert ..).trans (if_pos rfl)

end Measurement

end MetricsAgent
