import MetricsAgent.Proofs.Json.Double
import MetricsAgent.Proofs.Push.Envelope
import MetricsAgent.Push.Http

/-!
# What the body of a request tells

The body that posts envelopes is a JSON object whose one member holds them, in order
(`HttpPush.parse?_body`).  It tells them exactly, if their doubles are finite: no other envelopes
have the same body (`HttpPush.body_inj`), and the reader of envelopes gives them back, as far as its
reader of numbers gives back what is written for the doubles (`HttpPush.decode?_body`).

The first of these is about the text, and is true of any batch.  The second one needs the condition
on the doubles, since what is not finite is written as `null`, whichever it is.  It does not depend
on a reader: two finite doubles that are not the same have different texts, because each text is the
decimal of its double.  The third one does depend on a reader of numbers, which is a parameter of
the reader of envelopes.

The way from a value to its text and back is that of `Proofs.Json.Codec`, so that only JSON values
are compared here, member by member.
-/

set_option autoImplicit false

namespace MetricsAgent

open Json

/-- Lists with the same images are the same, if different items have different images. -/
theorem eq_of_map_eq {β γ : Type} {f : β → γ} {l l' : List β}
    (inj : ∀ x ∈ l, ∀ y ∈ l', f x = f y → x = y) (h : l.map f = l'.map f) : l = l' := by
  induction l generalizing l' with
  | nil => exact (List.map_eq_nil_iff.mp h.symm).symm
  | cons x l ih =>
    cases l' with
    | nil => cases h
    | cons y l' =>
      obtain ⟨head, tail⟩ := List.cons.inj h
      rw [inj x List.mem_cons_self y List.mem_cons_self head,
        ih (fun a ha b hb ↦ inj a (List.mem_cons_of_mem _ ha) b (List.mem_cons_of_mem _ hb)) tail]

theorem Json.ofInt_inj {m n : Int} (h : ofInt m = ofInt n) : m = n :=
  Option.some.inj ((toInt?_ofInt m).symm.trans ((congrArg toInt? h).trans (toInt?_ofInt n)))

theorem Json.ofUInt64_inj {m n : UInt64} (h : ofUInt64 m = ofUInt64 n) : m = n :=
  Option.some.inj
    ((toUInt64?_ofUInt64 m).symm.trans ((congrArg toUInt64? h).trans (toUInt64?_ofUInt64 n)))

/-- A double that is a number, and finite. -/
def IsFiniteDouble (x : Float) : Prop := (FloatParts.ofFloat x).isFinite = true

/-! ## Values

The forms of a value differ in the name under which their fields stand, and in the fields. -/

theorem Bucket.toJson_inj {b b' : Bucket} (finite : IsFiniteDouble b.upperBound)
    (h : b.toJson = b'.toJson) : b = b' := by
  simp only [toJson, Json.object.injEq, List.cons.injEq, Prod.mk.injEq, and_true, true_and] at h
  have bound := ofFloat_inj finite h.1
  have count := ofUInt64_inj h.2
  cases b
  cases b'
  cases bound
  cases count
  rfl

theorem Quantile.toJson_inj {q q' : Quantile}
    (finite : IsFiniteDouble q.quantile ∧ IsFiniteDouble q.value) (h : q.toJson = q'.toJson) :
    q = q' := by
  simp only [toJson, Json.object.injEq, List.cons.injEq, Prod.mk.injEq, and_true, true_and] at h
  have quantile := ofFloat_inj finite.1 h.1
  have value := ofFloat_inj finite.2 h.2
  cases q
  cases q'
  cases quantile
  cases value
  rfl

namespace Value

/-- All doubles of a value are finite. -/
def IsFinite (v : Value) : Prop := ∀ x ∈ v.doubles, IsFiniteDouble x

theorem IsFinite.histogram {buckets : List Bucket} {sum : Float} {count : UInt64}
    (h : IsFinite (.histogram buckets sum count)) :
    (∀ b ∈ buckets, IsFiniteDouble b.upperBound) ∧ IsFiniteDouble sum := by
  obtain ⟨bounds, total⟩ := List.forall_mem_append.mp h
  exact ⟨fun b hb ↦ bounds _ (List.mem_map_of_mem hb), total sum (List.mem_singleton_self sum)⟩

theorem IsFinite.summary {quantiles : List Quantile} {sum : Float} {count : UInt64}
    (h : IsFinite (.summary quantiles sum count)) :
    (∀ q ∈ quantiles, IsFiniteDouble q.quantile ∧ IsFiniteDouble q.value) ∧ IsFiniteDouble sum := by
  obtain ⟨parts, total⟩ := List.forall_mem_append.mp h
  refine ⟨fun q hq ↦ ⟨parts _ ?_, parts _ ?_⟩, total sum (List.mem_singleton_self sum)⟩ <;>
    exact List.mem_flatMap.mpr ⟨q, hq, by simp⟩

/-- **A value is told by its members**, if its doubles are finite. -/
theorem members_inj {v v' : Value} (finite : v.IsFinite) (h : v.members = v'.members) : v = v' := by
  cases v with
  | scalar x =>
    cases v' with
    | scalar y =>
      simp only [members, List.cons.injEq, Prod.mk.injEq, and_true, true_and] at h
      rw [ofFloat_inj (finite x (List.mem_singleton_self x)) h]
    | histogram | summary => simp [members] at h
  | histogram buckets sum count =>
    cases v' with
    | histogram buckets' sum' count' =>
      simp only [members, List.cons.injEq, Prod.mk.injEq, and_true, true_and, Json.array.injEq] at h
      have items := eq_of_map_eq (fun b hb _ _ ↦ Bucket.toJson_inj (finite.histogram.1 b hb)) h.1
      rw [items, ofFloat_inj finite.histogram.2 h.2.1, ofUInt64_inj h.2.2]
    | scalar | summary => simp [members] at h
  | summary quantiles sum count =>
    cases v' with
    | summary quantiles' sum' count' =>
      simp only [members, List.cons.injEq, Prod.mk.injEq, and_true, true_and, Json.array.injEq] at h
      have items := eq_of_map_eq (fun q hq _ _ ↦ Quantile.toJson_inj (finite.summary.1 q hq)) h.1
      rw [items, ofFloat_inj finite.summary.2 h.2.1, ofUInt64_inj h.2.2]
    | scalar | histogram => simp [members] at h

end Value

/-! ## Envelopes

Tags are an object whose members are in the order of their keys, and they are left out when there
are none. -/

theorem Tags.toJson_inj {t t' : Tags} (h : t.toJson = t'.toJson) : t = t' := by
  have entries : t.entries = t'.entries := by
    refine eq_of_map_eq (fun e _ e' _ same ↦ ?_) (Json.object.inj h)
    simp only [Prod.mk.injEq, Json.string.injEq] at same
    exact Prod.ext same.1 same.2
  exact eq_of_perm (entries ▸ .refl _)

theorem MetricKind.name_inj {k k' : MetricKind} (h : k.name = k'.name) : k = k' := by
  cases k <;> cases k' <;> first | rfl | exact absurd h (by decide)

namespace Envelope

/-- **An envelope is told by its JSON value**, if its doubles are finite. -/
theorem toJson_inj {e e' : Envelope} (finite : e.value.IsFinite) (h : e.toJson = e'.toJson) :
    e = e' := by
  have members : e.members = e'.members := Json.object.inj h
  have value : e.value.members = e'.value.members := by
    rw [← filter_members, members, filter_members]
  have fields := memberFields?_members e
  rw [members, memberFields?_members] at fields
  simp only [Option.some.injEq, List.cons.injEq, Json.string.injEq, and_true] at fields
  obtain ⟨name, kind, tags, time⟩ := fields
  have same_tags : e'.tags = e.tags := by
    rw [writtenTags, writtenTags] at tags
    split at tags <;> split at tags
    · rename_i none' none
      refine Tags.eq_of_perm ?_
      rw [List.isEmpty_iff.mp none, List.isEmpty_iff.mp none']
    · cases tags
    · cases tags
    · exact Tags.toJson_inj (Option.some.inj tags)
  have same_value := Value.members_inj finite value
  have same_kind := MetricKind.name_inj kind
  have same_time := ofInt_inj time
  cases e
  cases e'
  cases name
  cases same_kind
  cases same_value
  cases same_tags
  cases same_time
  rfl

end Envelope

/-! ## The body

The body is written once and never changed on its way, so the statements about it are about a
function of the batch alone. -/

namespace HttpPush

/-- The value that posts envelopes. -/
def payload (es : List Envelope) : Json := .object [("points", .array (es.map (·.toJson)))]

/-- Read the envelopes of a body. -/
def decode? (text : String) : Option (List Envelope) :=
  (Json.parse? text).bind fun j ↦
    match j with
    | .object [("points", .array items)] => items.mapM Envelope.ofJson?
    | _ => none

/-- **The body is an object whose one member holds the envelopes, in order.** -/
theorem parse?_body (es : List Envelope) : Json.parse? (body es) = some (payload es) := by
  refine parse?_render ?_
  have items : AreClean (es.map (·.toJson)) := by
    refine areClean_iff.mpr fun j hj ↦ ?_
    obtain ⟨e, -, rfl⟩ := List.mem_map.mp hj
    exact e.isClean_toJson
  simp [IsClean, MembersClean, items]

/-- **Envelopes are told by their body**, if their doubles are finite. -/
theorem body_inj {es es' : List Envelope} (finite : ∀ e ∈ es, e.value.IsFinite)
    (h : body es = body es') : es = es' := by
  have same : payload es = payload es' :=
    Option.some.inj ((parse?_body es).symm.trans ((congrArg Json.parse? h).trans (parse?_body es')))
  simp only [payload, Json.object.injEq, List.cons.injEq, Prod.mk.injEq, Json.array.injEq, and_true,
    true_and] at same
  exact eq_of_map_eq (fun e he _ _ ↦ Envelope.toJson_inj (finite e he)) same

/-- What the reader of envelopes needs to give an envelope back: doubles that its reader of numbers
gives back, and a time that is a signed word. -/
structure IsReadable (e : Envelope) : Prop where
  inverts : ∀ x ∈ e.value.doubles, (ofFloat x).toFloat? = some x
  low : -9223372036854775808 ≤ e.timestampMs
  high : e.timestampMs < 9223372036854775808

/-- The reader of envelopes gives the envelopes back. -/
theorem decode?_body {es : List Envelope} (h : ∀ e ∈ es, IsReadable e) :
    decode? (body es) = some es := by
  have read : (es.map (·.toJson)).mapM Envelope.ofJson? = some es := by
    rw [Value.mapM_map]
    refine (mapM_eq_some (g := id) fun e he ↦ ?_).trans (by rw [List.map_id])
    rw [Envelope.ofJson?_of_reorders (.same _) (h e he).low (h e he).high,
      if_pos (Value.membersReadable_of_le (h e he).inverts (by decide)),
      Value.reread?_eq_self (h e he).inverts]
    rfl
  rw [decode?, parse?_body]
  exact read

end HttpPush

end MetricsAgent
