import MetricsAgent.Measurement.Json
import MetricsAgent.Proofs.Json.Codec

/-!
# Members in another order

`Json.Reorders j k` says that `k` is `j` with the members of its objects in another order, at any
depth.  Records are read alike from both: of the readers of measurements only the one of tags
depends on the order, and only where a key is given twice.

A reader looks members up by their names, and a lookup in a list without repeated names does not
depend on its order.  With repeated names it does, but then both orders are refused alike.  That one
fact about lookups, `member?_perm`, carries everything here; the rest follows the structure of the
readers, from single fields to whole records.

It is used for the envelopes, whose members may come in any order
(`MetricsAgent.Proofs.Push.Envelope`).
-/

set_option autoImplicit false

namespace MetricsAgent

namespace Json

mutual

/-- The same value with the members of its objects in another order. -/
inductive Reorders : Json → Json → Prop where
  | same (j : Json) : Reorders j j
  | array {xs ys : List Json} (h : ItemsReorder xs ys) : Reorders (.array xs) (.array ys)
  | object {ms ns os : List (String × Json)} (h : MembersReorder ms ns) (order : ns.Perm os) :
    Reorders (.object ms) (.object os)

/-- Items that are reordered one by one. -/
inductive ItemsReorder : List Json → List Json → Prop where
  | nil : ItemsReorder [] []
  | cons {x y : Json} {xs ys : List Json} (h : Reorders x y) (rest : ItemsReorder xs ys) :
    ItemsReorder (x :: xs) (y :: ys)

/-- Members whose values are reordered one by one. -/
inductive MembersReorder : List (String × Json) → List (String × Json) → Prop where
  | nil : MembersReorder [] []
  | cons {k : String} {v w : Json} {ms ns : List (String × Json)} (h : Reorders v w)
    (rest : MembersReorder ms ns) : MembersReorder ((k, v) :: ms) ((k, w) :: ns)

end

theorem ItemsReorder.refl : ∀ xs : List Json, ItemsReorder xs xs
  | [] => .nil
  | x :: xs => .cons (.same x) (refl xs)

theorem MembersReorder.refl : ∀ ms : List (String × Json), MembersReorder ms ms
  | [] => .nil
  | (_, v) :: ms => .cons (.same v) (refl ms)

/-- What an array becomes. -/
theorem Reorders.of_array {xs : List Json} {k : Json} (h : Reorders (.array xs) k) :
    ∃ ys, k = .array ys ∧ ItemsReorder xs ys := by
  cases h with
  | same => exact ⟨xs, rfl, .refl xs⟩
  | array h => exact ⟨_, rfl, h⟩

/-- What an object becomes. -/
theorem Reorders.of_object {ms : List (String × Json)} {k : Json} (h : Reorders (.object ms) k) :
    ∃ ns os, k = .object os ∧ MembersReorder ms ns ∧ ns.Perm os := by
  cases h with
  | same => exact ⟨ms, ms, rfl, .refl ms, .refl ms⟩
  | object h order => exact ⟨_, _, rfl, h, order⟩

/-! ## Clean and readable values

Whether a value is in order does not depend on the order of its members, so that the conditions of
the codec can be carried from one value to the other. -/

theorem membersClean_iff {ms : List (String × Json)} : MembersClean ms ↔ ∀ m ∈ ms, IsClean m.2 := by
  induction ms with
  | nil => simp [MembersClean]
  | cons m ms ih =>
    obtain ⟨k, v⟩ := m
    rw [MembersClean, ih, List.forall_mem_cons]

theorem membersReadable_eq_all (depth : Nat) (ms : List (String × Json)) :
    membersReadable depth ms = ms.all fun m ↦ isReadable depth m.2 := by
  induction ms with
  | nil => rfl
  | cons m ms ih =>
    obtain ⟨k, v⟩ := m
    rw [membersReadable, ih, List.all_cons]

mutual

theorem Reorders.isClean : ∀ {j k : Json}, Reorders j k → IsClean j → IsClean k
  | _, _, .same _, h => h
  | _, _, .array items, h => by
    rw [IsClean] at h ⊢
    exact items.areClean h
  | _, _, .object members order, h => by
    rw [IsClean] at h ⊢
    exact membersClean_iff.mpr fun m hm ↦
      membersClean_iff.mp (members.membersClean h) m (order.mem_iff.mpr hm)

theorem ItemsReorder.areClean : ∀ {xs ys : List Json}, ItemsReorder xs ys →
    AreClean xs → AreClean ys
  | _, _, .nil, h => h
  | _, _, .cons first rest, h => by
    rw [AreClean] at h ⊢
    exact ⟨first.isClean h.1, rest.areClean h.2⟩

theorem MembersReorder.membersClean : ∀ {ms ns : List (String × Json)}, MembersReorder ms ns →
    MembersClean ms → MembersClean ns
  | _, _, .nil, h => h
  | _, _, .cons first rest, h => by
    rw [MembersClean] at h ⊢
    exact ⟨first.isClean h.1, rest.membersClean h.2⟩

end

mutual

theorem Reorders.isReadable_eq : ∀ {j k : Json}, Reorders j k → ∀ depth,
    isReadable depth j = isReadable depth k
  | _, _, .same _, _ => rfl
  | _, _, .array items, depth => by
    rw [isReadable, isReadable, items.areReadable_eq]
  | _, _, .object members order, depth => by
    rw [isReadable, isReadable, members.membersReadable_eq, membersReadable_eq_all,
      membersReadable_eq_all, order.all_eq]

theorem ItemsReorder.areReadable_eq : ∀ {xs ys : List Json}, ItemsReorder xs ys → ∀ depth,
    areReadable depth xs = areReadable depth ys
  | _, _, .nil, _ => rfl
  | _, _, .cons first rest, depth => by
    rw [areReadable, areReadable, first.isReadable_eq, rest.areReadable_eq]

theorem MembersReorder.membersReadable_eq : ∀ {ms ns : List (String × Json)}, MembersReorder ms ns →
    ∀ depth, membersReadable depth ms = membersReadable depth ns
  | _, _, .nil, _ => rfl
  | _, _, .cons first rest, depth => by
    rw [membersReadable, membersReadable, first.isReadable_eq, rest.membersReadable_eq]

end

/-! ## Fields

What is found under a name in two values that are read alike is read alike.  The values are
reordered one by one first, and then the members are permuted. -/

section Scalars

variable {j k : Json}

theorem Reorders.toFloat?_eq (h : Reorders j k) : j.toFloat? = k.toFloat? := by
  cases h <;> rfl

theorem Reorders.toUInt64?_eq (h : Reorders j k) : j.toUInt64? = k.toUInt64? := by
  cases h <;> rfl

theorem Reorders.toInt64?_eq (h : Reorders j k) : j.toInt64? = k.toInt64? := by
  cases h <;> rfl

theorem Reorders.toList? (h : Reorders j k) : Option.Rel ItemsReorder j.toList? k.toList? := by
  cases h with
  | same =>
    cases j.toList? with
    | none => exact .none
    | some xs => exact .some (.refl xs)
  | array h => exact .some h
  | object => exact .none

end Scalars

/-- What is found under names in two values that are read alike. -/
abbrev FieldsAlike : Option (List (Option Json)) → Option (List (Option Json)) → Prop :=
  Option.Rel (List.Forall₂ (Option.Rel Reorders))

theorem MembersReorder.filter {ms ns : List (String × Json)} (h : MembersReorder ms ns)
    (p : String → Bool) : MembersReorder (ms.filter fun m ↦ p m.1) (ns.filter fun m ↦ p m.1) := by
  induction ms generalizing ns with
  | nil => cases h; exact .nil
  | cons m ms ih =>
    cases h with
    | @cons k v w _ ns first rest =>
      have filtered := ih rest
      by_cases hk : p k = true
      · simpa only [List.filter_cons, hk, if_true] using .cons first filtered
      · simpa only [List.filter_cons, hk, if_false, Bool.false_eq_true] using filtered

theorem MembersReorder.member? {ms ns : List (String × Json)} (h : MembersReorder ms ns)
    (name : String) :
    Option.Rel (Option.Rel Reorders) (Json.member? ms name) (Json.member? ns name) := by
  have found := h.filter fun k ↦ k = name
  rw [Json.member?, Json.member?]
  generalize ms.filter _ = fs at found ⊢
  generalize ns.filter _ = gs at found ⊢
  cases found with
  | nil => exact .some .none
  | cons first rest =>
    cases rest with
    | nil => exact .some (.some first)
    | cons => exact .none

/-- A member is found under its name wherever it stands. -/
theorem member?_perm {ms ns : List (String × Json)} (h : ms.Perm ns) (name : String) :
    member? ms name = member? ns name := by
  have found := h.filter fun m ↦ m.1 = name
  rw [member?, member?]
  generalize ms.filter _ = fs at found ⊢
  generalize ns.filter _ = gs at found ⊢
  rcases fs with _ | ⟨f, _ | ⟨f', fs⟩⟩
  · rw [found.nil_eq]
  · rw [List.singleton_perm.mp found]
  · have several := found.length_eq
    rcases gs with _ | ⟨g, _ | ⟨g', gs⟩⟩
    · cases several
    · cases several
    · rfl

theorem MembersReorder.memberFields? {ms ns : List (String × Json)} (h : MembersReorder ms ns)
    (names : List String) :
    FieldsAlike (Json.memberFields? names ms) (Json.memberFields? names ns) := by
  induction names with
  | nil => exact .some .nil
  | cons name names ih =>
    have first := h.member? name
    rw [Json.memberFields?, Json.memberFields?] at ih ⊢
    rw [List.mapM_cons, List.mapM_cons]
    generalize Json.member? ms name = a at first ⊢
    generalize Json.member? ns name = b at first ⊢
    generalize names.mapM (Json.member? ms) = as at ih ⊢
    generalize names.mapM (Json.member? ns) = bs at ih ⊢
    cases first with
    | none => exact .none
    | some first =>
      cases ih with
      | none => exact .none
      | some rest => exact .some (.cons first rest)

theorem memberFields?_perm {ms ns : List (String × Json)} (h : ms.Perm ns) (names : List String) :
    memberFields? names ms = memberFields? names ns := by
  rw [memberFields?, memberFields?, funext (member?_perm h)]

theorem ItemsReorder.length_eq {xs ys : List Json} (h : ItemsReorder xs ys) :
    xs.length = ys.length := by
  induction xs generalizing ys with
  | nil => cases h; rfl
  | cons x xs ih =>
    cases h with
    | cons _ rest => rw [List.length_cons, List.length_cons, ih rest]

theorem ItemsReorder.map_some {xs ys : List Json} (h : ItemsReorder xs ys) :
    List.Forall₂ (Option.Rel Reorders) (xs.map some) (ys.map some) := by
  induction xs generalizing ys with
  | nil => cases h; exact .nil
  | cons x xs ih =>
    cases h with
    | cons first rest => exact .cons (.some first) (ih rest)

theorem Reorders.fields? {j k : Json} (h : Reorders j k) (names : List String) :
    FieldsAlike (j.fields? names) (k.fields? names) := by
  cases j with
  | array xs =>
    obtain ⟨ys, rfl, items⟩ := h.of_array
    rw [Json.fields?, Json.fields?, items.length_eq]
    split
    · exact .some items.map_some
    · exact .none
  | object ms =>
    obtain ⟨ns, os, rfl, members, order⟩ := h.of_object
    rw [Json.fields?, Json.fields?, ← memberFields?_perm order]
    exact members.memberFields? names
  | _ => cases h; exact .none

/-- Items that are read alike one by one are read alike as a list. -/
theorem ItemsReorder.mapM_eq {β : Type} {f : Json → Option β} (hf : ∀ j k, Reorders j k → f j = f k)
    {xs ys : List Json} (h : ItemsReorder xs ys) : xs.mapM f = ys.mapM f := by
  induction xs generalizing ys with
  | nil => cases h; rfl
  | cons x xs ih =>
    cases h with
    | cons first rest => rw [List.mapM_cons, List.mapM_cons, hf _ _ first, ih rest]

end Json

/-! ## Records

One lemma for each reader of a record.  Tags have none: they are objects with free keys, of which
the last one counts. -/

open Json

section Records

variable {j k : Json}

theorem Bucket.ofJson?_reorders (h : Reorders j k) : Bucket.ofJson? j = Bucket.ofJson? k := by
  rw [ofJson?, ofJson?]
  have fields := h.fields? fieldNames
  generalize j.fields? _ = a at fields ⊢
  generalize k.fields? _ = b at fields ⊢
  cases fields with
  | none => rfl
  | some fields =>
    rcases fields with _ | ⟨_ | bound, _ | ⟨_ | count, _ | _⟩⟩
    case some.cons.some.cons.some.nil _ _ bound _ _ count =>
      simp only [Option.bind_eq_bind, Option.bind_some, bound.toFloat?_eq, count.toUInt64?_eq]
    all_goals rfl

theorem Quantile.ofJson?_reorders (h : Reorders j k) : Quantile.ofJson? j = Quantile.ofJson? k := by
  rw [ofJson?, ofJson?]
  have fields := h.fields? fieldNames
  generalize j.fields? _ = a at fields ⊢
  generalize k.fields? _ = b at fields ⊢
  cases fields with
  | none => rfl
  | some fields =>
    rcases fields with _ | ⟨_ | quantile, _ | ⟨_ | value, _ | _⟩⟩
    case some.cons.some.cons.some.nil _ _ quantile _ _ value =>
      simp only [Option.bind_eq_bind, Option.bind_some, quantile.toFloat?_eq, value.toFloat?_eq]
    all_goals rfl

theorem MetricKind.ofJson?_reorders (h : Reorders j k) :
    MetricKind.ofJson? j = MetricKind.ofJson? k := by
  cases h with
  | same => rfl
  | array => rfl
  | @object ms ns os members order =>
    rcases members with _ | ⟨first, _ | _⟩
    · rw [order.nil_eq]
    · obtain rfl := List.singleton_perm.mp order
      cases first <;> rfl
    · have several := order.length_eq
      rcases os with _ | ⟨o, _ | ⟨o', os⟩⟩
      · cases several
      · cases several
      · simp [ofJson?]

theorem Value.Form.ofTextOrIndex?_reorders (h : Reorders j k) :
    ofTextOrIndex? j = ofTextOrIndex? k := by
  cases h <;> rfl

theorem Value.ofFields?_reorders (form : Form) {fs gs : List (Option Json)}
    (h : List.Forall₂ (Option.Rel Reorders) fs gs) : ofFields? form fs = ofFields? form gs := by
  have lists {β : Type} {f : Json → Option β} (hf : ∀ j k, Reorders j k → f j = f k) {a b : Json}
      (h : Reorders a b) :
      (a.toList?.bind fun xs ↦ xs.mapM f) = b.toList?.bind fun xs ↦ xs.mapM f := by
    have items := h.toList?
    generalize a.toList? = xs at items ⊢
    generalize b.toList? = ys at items ⊢
    cases items with
    | none => rfl
    | some items => exact items.mapM_eq hf
  cases form with
  | scalar =>
    rcases h with _ | ⟨_ | value, _ | _⟩
    case cons.some.nil _ _ value => simp only [ofFields?, value.toFloat?_eq]
    all_goals rfl
  | histogram =>
    rcases h with _ | ⟨_ | buckets, _ | ⟨_ | sum, _ | ⟨_ | count, _ | _⟩⟩⟩
    case cons.some.cons.some.cons.some.nil _ _ buckets _ _ sum _ _ count =>
      simp only [ofFields?, Option.bind_eq_bind, ← Option.bind_assoc,
        lists (fun _ _ ↦ Bucket.ofJson?_reorders) buckets, sum.toFloat?_eq, count.toUInt64?_eq]
    all_goals rfl
  | summary =>
    rcases h with _ | ⟨_ | quantiles, _ | ⟨_ | sum, _ | ⟨_ | count, _ | _⟩⟩⟩
    case cons.some.cons.some.cons.some.nil _ _ quantiles _ _ sum _ _ count =>
      simp only [ofFields?, Option.bind_eq_bind, ← Option.bind_assoc,
        lists (fun _ _ ↦ Quantile.ofJson?_reorders) quantiles, sum.toFloat?_eq, count.toUInt64?_eq]
    all_goals rfl

theorem Value.ofMembers?_reorders {ms ns os : List (String × Json)} (h : MembersReorder ms ns)
    (order : ns.Perm os) :
    ofMembers? Form.ofTextOrIndex? ms = ofMembers? Form.ofTextOrIndex? os := by
  have forms := h.member? formField
  simp only [ofMembers?, ← member?_perm order, ← memberFields?_perm order]
  generalize Json.member? ms formField = a at forms ⊢
  generalize Json.member? ns formField = b at forms ⊢
  rcases forms with ⟨form | _⟩ | _
  · rename_i form
    simp only [Option.bind_eq_bind, Option.bind_some, Form.ofTextOrIndex?_reorders form]
    congr 1
    funext form
    have fields := h.memberFields? form.fieldNames
    generalize Json.memberFields? form.fieldNames ms = as at fields ⊢
    generalize Json.memberFields? form.fieldNames ns = bs at fields ⊢
    cases fields with
    | none => rfl
    | some fields => exact ofFields?_reorders form fields
  · rfl
  · rfl

end Records

end MetricsAgent
