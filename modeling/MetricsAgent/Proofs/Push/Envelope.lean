import MetricsAgent.Push.Envelope
import MetricsAgent.Proofs.Json.Reorder

/-!
# Envelopes read back

An envelope is read back from its text, and from the text of its JSON value with the members of the
objects in any other order.  What becomes of its doubles is up to the reader of numbers:
`Value.reread?` is the value with every double read back from what was written for it, and there is
none where nothing is written for a double, since it is not finite.

The main statement is `Envelope.reads_back_in_any_order`.  It has three parts.

* What is read from any reordering is the envelope with its doubles read back, or nothing.
* If the doubles are finite and the reader of numbers gives back what was written for them, this is
  the envelope.
* If one of the doubles is not finite, nothing is read.

The reader of numbers is a parameter.  That it inverts the writer is a hypothesis where it is
needed, and nothing else is asked of it.  The reordering is `Json.Reorders`, which reorders the
members of all objects at all levels, and leaves the items of arrays in their order: buckets and
quantiles are arrays, tags are an object.
-/

set_option autoImplicit false

namespace MetricsAgent

open Json

/-- A list whose items are all read. -/
theorem mapM_eq_some {β γ : Type} {f : β → Option γ} {g : β → γ} {l : List β}
    (h : ∀ x ∈ l, f x = some (g x)) : l.mapM f = some (l.map g) := by
  induction l with
  | nil => rfl
  | cons x l ih =>
    obtain ⟨hx, hl⟩ := List.forall_mem_cons.mp h
    rw [List.mapM_cons, hx, ih hl]
    rfl

/-- A list of which one item is not read. -/
theorem mapM_eq_none {β γ : Type} {f : β → Option γ} {l : List β} (h : ∃ x ∈ l, f x = none) :
    l.mapM f = none := by
  obtain ⟨x, hx, unread⟩ := h
  induction l with
  | nil => cases hx
  | cons y l ih =>
    rw [List.mapM_cons]
    rcases List.mem_cons.mp hx with rfl | hx
    · rw [unread]
      rfl
    · rw [ih hx]
      cases f y <;> rfl

/-! ## Tags

Tags are kept sorted by their keys, so a list of entries with different keys gives the same tags in
any order. -/

namespace Tags

theorem perm_insertEntry {key value : String} {l : List (String × String)}
    (fresh : ∀ e ∈ l, e.1 ≠ key) : (insertEntry key value l).Perm ((key, value) :: l) := by
  induction l with
  | nil => exact .refl _
  | cons e l ih =>
    obtain ⟨he, hl⟩ := List.forall_mem_cons.mp fresh
    rw [insertEntry]
    split
    · exact .refl _
    · rw [if_neg (Ne.symm he)]
      exact ((ih hl).cons e).trans (.swap _ _ _)

/-- Pairs with different keys are all kept. -/
theorem perm_foldl_insert {l : List (String × String)} (t : Tags)
    (distinct : ((t.entries ++ l).map (·.1)).Nodup) :
    (l.foldl (fun t e ↦ t.insert e.1 e.2) t).entries.Perm (t.entries ++ l) := by
  induction l generalizing t with
  | nil => rw [List.append_nil]; exact .refl _
  | cons e l ih =>
    have moved : (t.entries ++ e :: l).Perm (e :: t.entries ++ l) := List.perm_middle
    have distinct' := ((moved.map (·.1)).nodup_iff).mp distinct
    have fresh : ∀ d ∈ t.entries, d.1 ≠ e.1 := by
      intro d hd same
      rw [List.cons_append, List.map_cons, List.nodup_cons] at distinct'
      exact distinct'.1 (List.mem_map.mpr ⟨d, List.mem_append_left _ hd, same⟩)
    have inserted : (t.insert e.1 e.2).entries.Perm (e :: t.entries) := perm_insertEntry fresh
    refine (ih (t.insert e.1 e.2) ?_).trans ((inserted.append_right l).trans moved.symm)
    exact (((inserted.append_right l).map (·.1)).nodup_iff).mpr distinct'

/-- The entries in any order make the tags. -/
theorem ofList_of_perm {t : Tags} {l : List (String × String)} (h : t.entries.Perm l) :
    ofList l = t := by
  have distinct : (l.map (·.1)).Nodup := ((h.map (·.1)).nodup_iff).mp t.nodup_keys
  exact eq_of_perm ((perm_foldl_insert empty distinct).trans h.symm)

/-- A member that is read as an entry. -/
def memberOf (e : String × String) : String × Json := (e.1, .string e.2)

theorem eq_of_membersReorder {l : List (String × String)} {ns : List (String × Json)}
    (h : MembersReorder (l.map memberOf) ns) : ns = l.map memberOf := by
  induction l generalizing ns with
  | nil => cases h; rfl
  | cons e l ih =>
    cases h with
    | cons first rest =>
      cases first
      rw [List.map_cons, ih rest]
      rfl

/-- Tags read back from their members in any order. -/
theorem ofJson?_reorders_toJson (t : Tags) {j : Json} (h : Reorders t.toJson j) :
    Tags.ofJson? j = some t := by
  obtain ⟨ns, os, rfl, members, order⟩ := h.of_object
  obtain rfl := eq_of_membersReorder members
  -- The members are entries still, in another order.
  let entryOf (m : String × Json) : String × String := (m.1, m.2.toText?.getD "")
  have entries : t.entries.Perm (os.map entryOf) := by
    have back : (t.entries.map memberOf).map entryOf = t.entries := by
      rw [List.map_map]
      exact List.map_id _
    exact back ▸ order.map entryOf
  have read : os.mapM (fun m ↦ do return (m.1, ← m.2.toText?)) = some (os.map entryOf) := by
    refine mapM_eq_some fun m hm ↦ ?_
    obtain ⟨e, -, rfl⟩ := List.mem_map.mp (order.mem_iff.mpr hm)
    rfl
  rw [ofJson?, read]
  exact congrArg some (ofList_of_perm entries)

end Tags

/-! ## Values

A value is written with its form as a tag, and read by looking up the form and then its fields. -/

namespace Value

/-- The doubles of a value. -/
def doubles : Value → List Float
  | scalar x => [x]
  | histogram buckets sum _ => buckets.map (·.upperBound) ++ [sum]
  | summary quantiles sum _ => quantiles.flatMap (fun q ↦ [q.quantile, q.value]) ++ [sum]

/-- What is read for the text of a double. -/
def readBack? (x : Float) : Option Float := (ofFloat x).toFloat?

/-- The value with every double read back from its text. -/
def reread? : Value → Option Value
  | scalar x => (readBack? x).map scalar
  | histogram buckets sum count => do
    return histogram (← buckets.mapM fun b ↦ (readBack? b.upperBound).map (Bucket.mk · b.count))
      (← readBack? sum) count
  | summary quantiles sum count => do
    return summary
      (← quantiles.mapM fun q ↦ do return ⟨← readBack? q.quantile, ← readBack? q.value⟩)
      (← readBack? sum) count

theorem bucket_ofJson?_toJson (b : Bucket) :
    Bucket.ofJson? b.toJson = (readBack? b.upperBound).map (Bucket.mk · b.count) := by
  have fields : b.toJson.fields? Bucket.fieldNames =
      some [some (ofFloat b.upperBound), some (ofUInt64 b.count)] := by
    simp [Bucket.toJson, Bucket.fieldNames, fields?, memberFields?, member?]
  rw [Bucket.ofJson?, fields, Option.bind_eq_bind, Option.bind_some]
  simp only [toUInt64?_ofUInt64, readBack?]
  cases (ofFloat b.upperBound).toFloat? <;> rfl

theorem quantile_ofJson?_toJson (q : Quantile) :
    Quantile.ofJson? q.toJson = do return ⟨← readBack? q.quantile, ← readBack? q.value⟩ := by
  have fields : q.toJson.fields? Quantile.fieldNames =
      some [some (ofFloat q.quantile), some (ofFloat q.value)] := by
    simp [Quantile.toJson, Quantile.fieldNames, fields?, memberFields?, member?]
  rw [Quantile.ofJson?, fields, Option.bind_eq_bind, Option.bind_some]
  rfl

theorem mapM_map {β γ δ : Type} (f : β → γ) (g : γ → Option δ) (l : List β) :
    (l.map f).mapM g = l.mapM fun x ↦ g (f x) := by
  induction l with
  | nil => rfl
  | cons x l ih => rw [List.map_cons, List.mapM_cons, List.mapM_cons, ih]

theorem Form.ofTextOrIndex?_name (form : Form) :
    ofTextOrIndex? (.string form.name) = some form := by
  cases form <;> rfl

section Members

/-! Forms are told by their names, whatever else `formOf?` takes for a form. -/

variable {formOf? : Json → Option Form}
  (names : ∀ form : Form, formOf? (.string form.name) = some form)

include names

/-- A value is read from its form and the fields of that form. -/
theorem ofMembers?_eq {ms : List (String × Json)} (form : Form) (fields : List (Option Json))
    (tagged : member? ms formField = some (some (.string form.name)))
    (found : memberFields? form.fieldNames ms = some fields) :
    ofMembers? formOf? ms = ofFields? form fields := by
  simp only [ofMembers?, tagged, found, names, Option.bind_eq_bind, Option.bind_some]

/-- The members of a value are read as the value with its doubles read back. -/
theorem ofMembers?_members (v : Value) : ofMembers? formOf? v.members = v.reread? := by
  cases v with
  | scalar x =>
    refine (ofMembers?_eq names .scalar [some (ofFloat x)]
      (by simp [members, member?, formField, Form.name])
      (by simp [members, memberFields?, member?, Form.fieldNames, formField])).trans ?_
    rw [ofFields?, reread?, readBack?]
    cases (ofFloat x).toFloat? <;> rfl
  | histogram buckets sum count =>
    refine (ofMembers?_eq names .histogram
      [some (.array (buckets.map Bucket.toJson)), some (ofFloat sum), some (ofUInt64 count)]
      (by simp [members, member?, formField, Form.name])
      (by simp [members, memberFields?, member?, Form.fieldNames, formField])).trans ?_
    simp only [ofFields?, toList?, Option.bind_eq_bind, Option.bind_some, mapM_map,
      bucket_ofJson?_toJson, toUInt64?_ofUInt64, reread?, readBack?]
  | summary quantiles sum count =>
    refine (ofMembers?_eq names .summary
      [some (.array (quantiles.map Quantile.toJson)), some (ofFloat sum), some (ofUInt64 count)]
      (by simp [members, member?, formField, Form.name])
      (by simp [members, memberFields?, member?, Form.fieldNames, formField])).trans ?_
    simp only [ofFields?, toList?, Option.bind_eq_bind, Option.bind_some, mapM_map,
      quantile_ofJson?_toJson, toUInt64?_ofUInt64, reread?, readBack?]

end Members

/-- A value whose doubles read back is read back. -/
theorem reread?_eq_self {v : Value} (h : ∀ x ∈ v.doubles, readBack? x = some x) :
    v.reread? = some v := by
  cases v with
  | scalar x => rw [reread?, h x (List.mem_singleton_self x), Option.map_some]
  | histogram buckets sum count =>
    obtain ⟨bounds, total⟩ := List.forall_mem_append.mp h
    have read : buckets.mapM (fun b ↦ (readBack? b.upperBound).map (Bucket.mk · b.count)) =
        some (buckets.map id) :=
      mapM_eq_some fun b hb ↦ by
        rw [bounds b.upperBound (List.mem_map_of_mem hb)]
        rfl
    rw [reread?, read, total sum (List.mem_singleton_self sum), List.map_id]
    rfl
  | summary quantiles sum count =>
    obtain ⟨parts, total⟩ := List.forall_mem_append.mp h
    have read : quantiles.mapM (fun q ↦ do
        return (⟨← readBack? q.quantile, ← readBack? q.value⟩ : Quantile)) = some
          (quantiles.map id) :=
      mapM_eq_some fun q hq ↦ by
        rw [parts q.quantile (List.mem_flatMap.mpr ⟨q, hq, by simp⟩),
          parts q.value (List.mem_flatMap.mpr ⟨q, hq, by simp⟩)]
        rfl
    rw [reread?, read, total sum (List.mem_singleton_self sum), List.map_id]
    rfl

/-- A value with a double that is not read back is not read back. -/
theorem reread?_eq_none {v : Value} (h : ∃ x ∈ v.doubles, readBack? x = none) :
    v.reread? = none := by
  obtain ⟨x, hx, unread⟩ := h
  cases v with
  | scalar y =>
    rw [List.mem_singleton.mp hx] at unread
    rw [reread?, unread, Option.map_none]
  | histogram buckets sum count =>
    rw [reread?]
    rcases List.mem_append.mp hx with bound | total
    · obtain ⟨b, hb, rfl⟩ := List.mem_map.mp bound
      rw [mapM_eq_none ⟨b, hb, by rw [unread, Option.map_none]⟩]
      rfl
    · simp only [← List.mem_singleton.mp total, unread, Option.bind_eq_bind, Option.bind_none,
        Option.bind_fun_none]
  | summary quantiles sum count =>
    rw [reread?]
    rcases List.mem_append.mp hx with part | total
    · obtain ⟨q, hq, hx⟩ := List.mem_flatMap.mp part
      rw [mapM_eq_none ⟨q, hq, ?_⟩]
      · rfl
      · rcases List.mem_pair.mp hx with rfl | rfl <;>
          simp only [unread, Option.bind_eq_bind, Option.bind_none, Option.bind_fun_none]
    · simp only [← List.mem_singleton.mp total, unread, Option.bind_eq_bind, Option.bind_none,
        Option.bind_fun_none]

end Value

/-! ## Numbers

A text can be read only if its numbers are in range, and if it is not nested too deeply.  For what
is written from finite doubles and words both are true. -/

theorem isClean_ofFloat (x : Float) : IsClean (ofFloat x) := by
  cases h : (FloatParts.ofFloat x).isFinite with
  | true =>
    obtain ⟨e, literal⟩ := ofFloat_of_isFinite h
    rw [e, IsClean]
    exact literal
  | false =>
    rw [ofFloat_of_not_isFinite h]
    trivial

theorem isClean_ofUInt64 (n : UInt64) : IsClean (ofUInt64 n) := by
  rw [ofUInt64, IsClean]
  exact isLiteral_nat n.toNat

theorem isClean_ofInt (n : Int) : IsClean (ofInt n) := by
  rw [ofInt, IsClean]
  exact isLiteral_int n

theorem areClean_iff {xs : List Json} : AreClean xs ↔ ∀ x ∈ xs, IsClean x := by
  induction xs with
  | nil => simp [AreClean]
  | cons x xs ih => rw [AreClean, ih, List.forall_mem_cons]

theorem areReadable_eq_all (depth : Nat) (xs : List Json) :
    areReadable depth xs = xs.all (isReadable depth) := by
  induction xs with
  | nil => rfl
  | cons x xs ih => rw [areReadable, ih, List.all_cons]

namespace Value

/-- A value is written as a readable text, member by member. -/
theorem membersClean_members (v : Value) : MembersClean v.members := by
  cases v with
  | scalar x => simp [members, MembersClean, IsClean, isClean_ofFloat]
  | histogram buckets sum count =>
    have items : AreClean (buckets.map Bucket.toJson) := by
      refine areClean_iff.mpr fun j hj ↦ ?_
      obtain ⟨b, -, rfl⟩ := List.mem_map.mp hj
      simp [Bucket.toJson, IsClean, MembersClean, isClean_ofFloat, isClean_ofUInt64]
    simp [members, MembersClean, IsClean, items, isClean_ofFloat, isClean_ofUInt64]
  | summary quantiles sum count =>
    have items : AreClean (quantiles.map Quantile.toJson) := by
      refine areClean_iff.mpr fun j hj ↦ ?_
      obtain ⟨q, -, rfl⟩ := List.mem_map.mp hj
      simp [Quantile.toJson, IsClean, MembersClean, isClean_ofFloat]
    simp [members, MembersClean, IsClean, items, isClean_ofFloat, isClean_ofUInt64]

end Value

/-- What is not finite has no text, and so is not read back. -/
theorem Value.readBack?_of_not_isFinite {x : Float} (h : (FloatParts.ofFloat x).isFinite = false) :
    readBack? x = none := by
  rw [readBack?, ofFloat_of_not_isFinite h]
  rfl

theorem isReadable_ofFloat {x : Float} (h : Value.readBack? x = some x) (depth : Nat) :
    isReadable depth (ofFloat x) = true := by
  cases finite : (FloatParts.ofFloat x).isFinite with
  | true =>
    have number := congrArg Option.isSome h
    rw [Value.readBack?, (ofFloat_of_isFinite finite).1] at number
    rw [(ofFloat_of_isFinite finite).1, isReadable]
    exact number
  | false =>
    rw [ofFloat_of_not_isFinite finite]
    rfl

theorem isReadable_ofUInt64 (n : UInt64) (depth : Nat) : isReadable depth (ofUInt64 n) = true := by
  have number := toFloat?_ofUInt64_isSome n
  rw [ofUInt64] at number ⊢
  rw [isReadable]
  exact number

/-- A value whose doubles read back is in the range of what is read, wherever two levels are
left. -/
theorem Value.membersReadable_of_le {v : Value}
    (h : ∀ x ∈ v.doubles, readBack? x = some x) {depth : Nat} (deep : 2 ≤ depth) :
    membersReadable depth v.members = true := by
  have one : 0 < depth := by omega
  have two : 0 < depth - 1 := by omega
  cases v with
  | scalar x =>
    simp [members, membersReadable, isReadable,
      isReadable_ofFloat (h x (List.mem_singleton_self x))]
  | histogram buckets sum count =>
    obtain ⟨bounds, total⟩ := List.forall_mem_append.mp h
    have items : areReadable (depth - 1) (buckets.map Bucket.toJson) = true := by
      rw [areReadable_eq_all, List.all_eq_true]
      intro j hj
      obtain ⟨b, hb, rfl⟩ := List.mem_map.mp hj
      have bound := bounds b.upperBound (List.mem_map_of_mem hb)
      simp [Bucket.toJson, isReadable, membersReadable, isReadable_ofFloat bound,
        isReadable_ofUInt64, two]
    simp [members, membersReadable, isReadable, items, isReadable_ofUInt64, one,
      isReadable_ofFloat (total sum (List.mem_singleton_self sum))]
  | summary quantiles sum count =>
    obtain ⟨parts, total⟩ := List.forall_mem_append.mp h
    have items : areReadable (depth - 1) (quantiles.map Quantile.toJson) = true := by
      rw [areReadable_eq_all, List.all_eq_true]
      intro j hj
      obtain ⟨q, hq, rfl⟩ := List.mem_map.mp hj
      have quantile := parts q.quantile (List.mem_flatMap.mpr ⟨q, hq, by simp⟩)
      have value := parts q.value (List.mem_flatMap.mpr ⟨q, hq, by simp⟩)
      simp [Quantile.toJson, isReadable, membersReadable, isReadable_ofFloat quantile,
        isReadable_ofFloat value, two]
    simp [members, membersReadable, isReadable, items, isReadable_ofUInt64, one,
      isReadable_ofFloat (total sum (List.mem_singleton_self sum))]

theorem Tags.isClean_toJson (t : Tags) : IsClean t.toJson := by
  rw [Tags.toJson, IsClean, membersClean_iff]
  intro m hm
  obtain ⟨entry, -, rfl⟩ := List.mem_map.mp hm
  trivial

/-! ## Envelopes

The tags of an envelope may be missing in the text, which is read as no tags. -/

namespace Envelope

/-- The members of an envelope. -/
def members (e : Envelope) : List (String × Json) :=
  [("name", .string e.name), ("kind", .string e.kind.name)] ++ e.value.members
    ++ (if e.tags.entries.isEmpty then [] else [("tags", e.tags.toJson)])
    ++ [("timestamp_ms", .ofInt e.timestampMs)]

/-- The tags as they are written, if they are. -/
def writtenTags (e : Envelope) : Option Json :=
  if e.tags.entries.isEmpty then none else some e.tags.toJson

theorem memberFields?_members (e : Envelope) : memberFields? fieldNames e.members =
    some [some (.string e.name), some (.string e.kind.name), e.writtenTags,
      some (.ofInt e.timestampMs)] := by
  rw [members, writtenTags]
  cases e.value <;> split <;>
    simp [memberFields?, member?, fieldNames, Value.members, Value.formField]

theorem filter_members (e : Envelope) :
    e.members.filter (fun m ↦ m.1 ∉ fieldNames) = e.value.members := by
  rw [members]
  cases e.value <;> split <;> simp [fieldNames, Value.members, Value.formField]

theorem isClean_toJson (e : Envelope) : IsClean e.toJson := by
  show IsClean (.object e.members)
  rw [IsClean, membersClean_iff]
  have value := membersClean_iff.mp e.value.membersClean_members
  intro m hm
  simp only [members, List.mem_append, List.mem_cons, List.not_mem_nil, or_false] at hm
  rcases hm with (((rfl | rfl) | hm) | hm) | rfl
  · trivial
  · trivial
  · exact value m hm
  · split at hm
    · cases hm
    · rw [List.mem_singleton.mp hm]
      exact e.tags.isClean_toJson
  · exact isClean_ofInt e.timestampMs

/-- Tags are left out when there are none, and read back otherwise. -/
theorem readTags_of_rel {e : Envelope} {j : Option Json} (h : Option.Rel Reorders e.writtenTags j) :
    j = none ∧ Tags.empty = e.tags ∨ ∃ t, j = some t ∧ Tags.ofJson? t = some e.tags := by
  rw [writtenTags] at h
  split at h
  · rename_i nothing
    cases h
    refine .inl ⟨rfl, Tags.eq_of_perm ?_⟩
    rw [List.isEmpty_iff.mp nothing]
    exact .nil
  · cases h with
    | some h => exact .inr ⟨_, rfl, e.tags.ofJson?_reorders_toJson h⟩

/-- **An envelope is read from its members in any order**, with its doubles read back. -/
theorem ofJson?_of_reorders {e : Envelope} {j : Json} (h : Reorders e.toJson j)
    (low : -9223372036854775808 ≤ e.timestampMs) (high : e.timestampMs < 9223372036854775808) :
    ofJson? j = if membersReadable (maxDepth - 1) e.value.members then
      e.value.reread?.map fun v ↦ { e with value := v } else none := by
  obtain ⟨ns, os, rfl, reordered, order⟩ := h.of_object
  change MembersReorder e.members ns at reordered
  -- The value is read from the members that no field of the envelope takes.
  have rest := reordered.filter fun k ↦ k ∉ fieldNames
  have rest_order := order.filter fun m ↦ m.1 ∉ fieldNames
  rw [filter_members] at rest
  have readable : membersReadable (maxDepth - 1) (os.filter fun m ↦ m.1 ∉ fieldNames) =
      membersReadable (maxDepth - 1) e.value.members := by
    rw [rest.membersReadable_eq, membersReadable_eq_all, membersReadable_eq_all, rest_order.all_eq]
  have value : Value.ofMembers? Value.Form.ofTextOrIndex? (os.filter fun m ↦ m.1 ∉ fieldNames) =
      e.value.reread? := by
    rw [← Value.ofMembers?_reorders rest rest_order,
      Value.ofMembers?_members Value.Form.ofTextOrIndex?_name]
  have fields := reordered.memberFields? fieldNames
  rw [memberFields?_perm order, memberFields?_members] at fields
  rw [ofJson?]
  -- Each field is found once, whatever the order, and read back on its own.
  generalize memberFields? fieldNames os = found at fields ⊢
  rcases fields with ⟨_ | ⟨⟨name⟩, _ | ⟨⟨kind⟩, _ | ⟨tags, _ | ⟨⟨time⟩, _ | _⟩⟩⟩⟩⟩
  cases name
  cases kind
  have read_kind : MetricKind.ofJson? (.string e.kind.name) = some e.kind := by cases e.kind <;> rfl
  have read_time := time.toInt64?_eq.symm.trans (toInt64?_ofInt low high)
  simp only [Option.bind_eq_bind, Option.bind_some, toText?, read_kind, read_time, readable, value]
  split
  · obtain ⟨rfl, empty⟩ | ⟨t, rfl, read_tags⟩ := readTags_of_rel tags
    · rw [← empty]
      cases e.value.reread? <;> rfl
    · simp only [read_tags, Option.bind_some]
      cases e.value.reread? <;> rfl
  · rfl

/-- What is read is the envelope, if its doubles are finite and the reader of numbers gives back
what was written for them; and nothing is read, if one of them is not finite. -/
structure ReadsBack (e : Envelope) (read : Option Envelope) : Prop where
  same : (∀ x ∈ e.value.doubles, (FloatParts.ofFloat x).isFinite = true →
      (ofFloat x).toFloat? = some x) →
    (∀ x ∈ e.value.doubles, (FloatParts.ofFloat x).isFinite = true) → read = some e
  fails : (∃ x ∈ e.value.doubles, (FloatParts.ofFloat x).isFinite = false) → read = none

/-- **An envelope reads back from its text**, with the members of the objects in any order. -/
theorem reads_back_in_any_order (e : Envelope) (low : -9223372036854775808 ≤ e.timestampMs)
    (high : e.timestampMs < 9223372036854775808) {j : Json} (order : Reorders e.toJson j) :
    ReadsBack e (parse? j.render) := by
  rw [parse?, parse?_render (order.isClean e.isClean_toJson), Option.bind_some,
    ofJson?_of_reorders order low high]
  refine ⟨fun inverts finite ↦ ?_, fun ⟨x, hx, infinite⟩ ↦ ?_⟩
  · have back : ∀ x ∈ e.value.doubles, Value.readBack? x = some x :=
      fun x hx ↦ inverts x hx (finite x hx)
    rw [if_pos (Value.membersReadable_of_le back (by decide)), Value.reread?_eq_self back]
    rfl
  · rw [Value.reread?_eq_none ⟨x, hx, Value.readBack?_of_not_isFinite infinite⟩,
      Option.map_none, ite_self]

/-- An envelope with its members the other way round, and its tags too. -/
theorem reads_back_in_any_order_reversed :
    let e : Envelope :=
      ⟨"a \"b\"\n", .gauge, .scalar 0.5, ⟨[("x", "1"), ("y", "\u0001")], by decide⟩, -1⟩
    ∃ j, Reorders e.toJson j ∧ j ≠ e.toJson ∧ ReadsBack e (parse? j.render) := by
  intro e
  let tags : List (String × Json) := [("x", .string "1"), ("y", .string "\u0001")]
  let others : List (String × Json) := [("name", .string "a \"b\"\n"), ("kind", .string "gauge"),
    ("type", .string "scalar"), ("value", .ofFloat 0.5)]
  let time : String × Json := ("timestamp_ms", .ofInt (-1))
  have reordered : MembersReorder e.members (others ++ [("tags", .object tags.reverse), time]) :=
    .cons (.same _) <| .cons (.same _) <| .cons (.same _) <| .cons (.same _) <|
      .cons (.object (.refl tags) (List.reverse_perm tags).symm) (.refl [time])
  have order :
      Reorders e.toJson (.object (others ++ [("tags", .object tags.reverse), time]).reverse) :=
    .object reordered (List.reverse_perm _).symm
  refine ⟨_, order, fun same ↦ ?_, reads_back_in_any_order e (by decide) (by decide) order⟩
  -- The time comes first.
  have first :=
    congrArg (fun ms : List (String × Json) ↦ ms.head?.map Prod.fst) (Json.object.inj same)
  exact absurd first (by decide)

end Envelope

end MetricsAgent
