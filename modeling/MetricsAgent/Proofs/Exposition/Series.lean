import Mathlib.Data.List.Nodup
import Mathlib.Data.List.Perm.Basic
import MetricsAgent.Proofs.Exposition.LabelNames

/-!
# Series that become one

A line is told from the others by its metric name and the set of its labels.  Different measurements
need not have different lines: sanitizing maps different names and keys to one, the suffix of a
bucket or a total may be part of another measurement's name, and a bound may be a tag of another
measurement or be there twice.

The lines of a measurement are `Exposition.endings` put behind its name and its tags.  No two of its
own lines are one series just if its bounds are written differently
(`Exposition.pairwise_lines_iff`), and lines of two measurements are one series just if the
measurements clash (`Exposition.clash_iff`).  Both together tell where the lines of a whole text are
different series (`Exposition.series_differ_iff`).  They are where names and keys are written as
they are and no suffix makes one name of another (`Exposition.pairwise_samples_of_plain`).

So the text of a batch of different measurements may name one series twice.  `not_series_differ` has
the smallest case, two gauges whose names are `a.b` and `a_b`.
-/

set_option autoImplicit false

namespace MetricsAgent.Exposition

/-- What a line is told by: a metric name and labels. -/
structure Series where
  name : String
  labels : List Label
  deriving DecidableEq

/-- The series of a line. -/
def Sample.series (s : Sample) : Series := ⟨s.name, s.labels⟩

namespace Series

/-- The same name and the same set of labels. -/
def Same (a b : Series) : Prop := a.name = b.name ∧ ∀ l, l ∈ a.labels ↔ l ∈ b.labels

theorem Same.refl (a : Series) : a.Same a := ⟨rfl, fun _ ↦ .rfl⟩

theorem Same.symm {a b : Series} (h : a.Same b) : b.Same a := ⟨h.1.symm, fun l ↦ (h.2 l).symm⟩

/-- The name goes behind another one, the labels behind those of tags. -/
def behind (e : Series) (name : String) (tags : Tags) : Series :=
  ⟨name ++ e.name, labelsOf tags ++ e.labels⟩

end Series

/-! ## The endings of a value

What a line puts behind the name and the tags of its measurement: nothing, a suffix, or a suffix and
one more label. -/

/-- The bounds of the buckets, or the quantiles, as they are written. -/
def bounds : Value → List String
  | .scalar _ => []
  | .histogram buckets _ _ =>
    buckets.map (fun b ↦ number.render b.upperBound) ++
    if hasInfiniteBound buckets then [] else ["+Inf"]
  | .summary quantiles _ _ => quantiles.map fun q ↦ number.render q.quantile

/-- An ending for each bound, then those of the sum and the count. -/
def boundEndings (suffix key : String) (bs : List String) : List Series :=
  bs.map (fun b ↦ ⟨suffix, [⟨key, b⟩]⟩) ++ [⟨"_sum", []⟩, ⟨"_count", []⟩]

/-- What the lines of a value put behind the name and the tags of its measurement. -/
def endings (v : Value) : List Series :=
  match v with
  | .scalar _ => [⟨"", []⟩]
  | .histogram .. => boundEndings "_bucket" "le" (bounds v)
  | .summary .. => boundEndings "" "quantile" (bounds v)

/-- What an ending may be. -/
inductive Ending : Series → Prop where
  | bare : Ending ⟨"", []⟩
  | bucket (bound : String) : Ending ⟨"_bucket", [⟨"le", bound⟩]⟩
  | quantile (quantile : String) : Ending ⟨"", [⟨"quantile", quantile⟩]⟩
  | sum : Ending ⟨"_sum", []⟩
  | count : Ending ⟨"_count", []⟩

/-- The suffixes that the name of a line may have. -/
def suffixes : List String := ["_bucket", "_sum", "_count"]

theorem Ending.name {e : Series} (h : Ending e) : e.name = "" ∨ e.name ∈ suffixes := by
  cases h <;> simp [suffixes]

theorem Ending.labels {e : Series} (h : Ending e) :
    ∀ l ∈ e.labels, l.name = "le" ∨ l.name = "quantile" := by
  cases h <;> simp

theorem ending_of_mem {v : Value} {e : Series} (h : e ∈ endings v) : Ending e := by
  have bound {suffix key : String} {bs : List String} (made : ∀ b, Ending ⟨suffix, [⟨key, b⟩]⟩)
      (h : e ∈ boundEndings suffix key bs) : Ending e := by
    rcases List.mem_append.mp h with h | h
    · obtain ⟨b, -, rfl⟩ := List.mem_map.mp h
      exact made b
    · rcases List.mem_cons.mp h with rfl | h
      · exact .sum
      · rw [List.mem_singleton.mp h]
        exact .count
  cases v with
  | scalar x =>
    rw [List.mem_singleton.mp h]
    exact .bare
  | histogram buckets sum count => exact bound .bucket h
  | summary quantiles sum count => exact bound .quantile h

/-- The series of the lines of a measurement. -/
def lineSeries (m : Measurement) : List Series :=
  (endings m.value).map (·.behind (sanitizeName m.name) m.tags)

/-- **The lines of a measurement** are its endings, behind its name and its tags. -/
theorem map_series_samples (name : String) (m : Measurement) :
    (samples name m).map Sample.series = (endings m.value).map (·.behind name m.tags) := by
  cases value : m.value with
  | scalar x => simp [samples, value, endings, Sample.series, Series.behind]
  | histogram buckets sum count =>
    cases closed : hasInfiniteBound buckets <;>
      simp [samples, value, closed, endings, boundEndings, bounds, Sample.series, Series.behind]
  | summary quantiles sum count =>
    simp [samples, value, endings, boundEndings, bounds, Sample.series, Series.behind]

/-! ## The lines of one measurement

The lines of one measurement have the same tags, so only their endings can tell them apart.  Even
where a tag has the name of the bound's label, the set of labels tells the bound. -/

section Own

/-- Text that is sanitized and has no underscore was not changed. -/
theorem eq_of_sanitize {permitted : Char → Bool} {cs : List Char}
    (h : '_' ∉ sanitize permitted cs) : sanitize permitted cs = cs := by
  rw [sanitize] at h ⊢
  split at h
  · exact absurd (List.mem_cons_self ..) h
  · rename_i start
    rw [if_neg start]
    refine (List.map_congr_left fun c hc ↦ ?_).trans (List.map_id cs)
    by_cases permit : permitted c
    · exact if_pos permit
    · have changed : (if permitted c then c else '_') = '_' := if_neg permit
      exact absurd (List.mem_map.mpr ⟨c, hc, changed⟩) h

/-- Two labels of tags that have one name without underscores are one label. -/
theorem eq_of_mem_labelsOf {tags : Tags} {l l' : Label} (hl : l ∈ labelsOf tags)
    (hl' : l' ∈ labelsOf tags) (plain : '_' ∉ l.name.toList) (same : l.name = l'.name) :
    l = l' := by
  have made {l : Label} (hl : l ∈ labelsOf tags) (plain : '_' ∉ l.name.toList) :
      (l.name, l.value) ∈ tags.entries := by
    obtain ⟨e, he, rfl⟩ := List.mem_map.mp hl
    have key : sanitizeLabel e.1 = e.1 := by
      change '_' ∉ (sanitizeLabel e.1).toList at plain
      rw [sanitizeLabel, String.toList_ofList] at plain
      rw [sanitizeLabel, eq_of_sanitize plain, String.ofList_toList]
    exact key.symm ▸ he
  have entry : (l.name, l.value) = (l'.name, l'.value) :=
    List.inj_on_of_nodup_map tags.nodup_keys (made hl plain) (made hl' (same ▸ plain)) same
  cases l
  cases l'
  cases entry
  rfl

variable {name : String} {tags : Tags} {key : String}

/-- The bound in the labels of a line is told by the set of the labels, even where a tag has its
name. -/
theorem bound_eq {b b' : String} (plain : '_' ∉ key.toList)
    (h : ∀ l, l ∈ labelsOf tags ++ [⟨key, b⟩] ↔ l ∈ labelsOf tags ++ [⟨key, b'⟩]) : b = b' := by
  by_contra ne
  have left : ⟨key, b⟩ ∈ labelsOf tags := by
    have mem := (h ⟨key, b⟩).mp (List.mem_append_right _ (List.mem_singleton_self _))
    simpa [ne] using mem
  have right : ⟨key, b'⟩ ∈ labelsOf tags := by
    have mem := (h ⟨key, b'⟩).mpr (List.mem_append_right _ (List.mem_singleton_self _))
    simpa [Ne.symm ne] using mem
  exact ne (congrArg Label.value (eq_of_mem_labelsOf left right plain rfl))

/-- Endings with different names make different series. -/
theorem not_same_behind {e e' : Series} (ne : e.name ≠ e'.name) :
    ¬(e.behind name tags).Same (e'.behind name tags) :=
  fun same ↦ ne ((String.append_right_inj _).mp same.1)

theorem pairwise_boundEndings_iff {suffix : String} {bs : List String} (plain : '_' ∉ key.toList)
    (sum : suffix ≠ "_sum") (count : suffix ≠ "_count") :
    ((boundEndings suffix key bs).map (·.behind name tags)).Pairwise (fun a b ↦ ¬a.Same b) ↔
      bs.Nodup := by
  rw [List.pairwise_map, boundEndings, List.pairwise_append, List.pairwise_map]
  constructor
  · rintro ⟨apart, -, -⟩
    exact apart.imp fun {b b'} differ same ↦ differ (by rw [same]; exact .refl _)
  · intro nodup
    refine ⟨nodup.imp fun {b b'} ne same ↦ ne (bound_eq plain same.2), ?_, ?_⟩
    · exact List.pairwise_pair.mpr (not_same_behind (by decide))
    · refine List.forall_mem_map.mpr fun b _ ↦ List.forall_mem_cons.mpr ⟨not_same_behind sum, ?_⟩
      exact List.forall_mem_singleton.mpr (not_same_behind count)

/-- **The lines of one measurement** are different series just if its bounds are written
differently. -/
theorem pairwise_lines_iff (m : Measurement) :
    (lineSeries m).Pairwise (fun a b ↦ ¬a.Same b) ↔ (bounds m.value).Nodup := by
  rw [lineSeries]
  cases m.value with
  | scalar x => exact iff_of_true (List.pairwise_singleton _ _) List.nodup_nil
  | histogram buckets sum count =>
    exact pairwise_boundEndings_iff (by decide) (by decide) (by decide)
  | summary quantiles sum count =>
    exact pairwise_boundEndings_iff (by decide) (by decide) (by decide)

end Own

/-! ## The lines of two measurements

Two names with suffixes are equal in few ways, since the last two characters of a suffix tell it
from the others.  `Clash` lists these ways. -/

/-- A line of `a` and a line of `b` are one series. -/
inductive Clash (a b : Measurement) : Prop where
  /-- Both names are one when they are sanitized, and lines with the same suffix have the same
  labels. -/
  | family (suffix : String) (x y : List Label)
    (left : ⟨suffix, x⟩ ∈ endings a.value) (right : ⟨suffix, y⟩ ∈ endings b.value)
    (name : sanitizeName a.name = sanitizeName b.name)
    (labels : ∀ l, l ∈ labelsOf a.tags ++ x ↔ l ∈ labelsOf b.tags ++ y)
  /-- The name of `a` is that of a bucket or a total of `b`. -/
  | longer (suffix : String) (x y : List Label)
    (left : ⟨"", x⟩ ∈ endings a.value) (right : ⟨suffix, y⟩ ∈ endings b.value)
    (name : sanitizeName a.name = sanitizeName b.name ++ suffix)
    (labels : ∀ l, l ∈ labelsOf a.tags ++ x ↔ l ∈ labelsOf b.tags ++ y)
  /-- The name of `b` is that of a bucket or a total of `a`. -/
  | shorter (suffix : String) (x y : List Label)
    (left : ⟨suffix, x⟩ ∈ endings a.value) (right : ⟨"", y⟩ ∈ endings b.value)
    (name : sanitizeName a.name ++ suffix = sanitizeName b.name)
    (labels : ∀ l, l ∈ labelsOf a.tags ++ x ↔ l ∈ labelsOf b.tags ++ y)

section Two

/-- The last characters of a suffix tell it from the others, so a name ends with one of them at
most. -/
theorem suffix_eq {n n' s s' : String} (hs : s ∈ suffixes) (hs' : s' ∈ suffixes)
    (same : n ++ s = n' ++ s') : s = s' := by
  have length : ∀ s ∈ suffixes, 2 ≤ s.toList.reverse.length := by decide
  have last (n : String) {s : String} (hs : s ∈ suffixes) :
      (n ++ s).toList.reverse.take 2 = s.toList.reverse.take 2 := by
    rw [String.toList_append, List.reverse_append, List.take_append_of_le_length (length s hs)]
  have told : ∀ s ∈ suffixes, ∀ s' ∈ suffixes, s.toList.reverse.take 2 = s'.toList.reverse.take 2 →
      s = s' := by
    decide
  refine told s hs s' hs' ?_
  rw [← last n hs, same, last n' hs']

/-- **Lines of two measurements** are one series just if the measurements clash. -/
theorem clash_iff {a b : Measurement} :
    Clash a b ↔ ∃ r ∈ lineSeries a, ∃ s ∈ lineSeries b, r.Same s := by
  constructor
  · rintro (⟨suffix, x, y, left, right, name, labels⟩ | ⟨suffix, x, y, left, right, name, labels⟩ |
      ⟨suffix, x, y, left, right, name, labels⟩)
    · exact ⟨_, List.mem_map_of_mem left, _, List.mem_map_of_mem right,
        congrArg (· ++ suffix) name, labels⟩
    · exact ⟨_, List.mem_map_of_mem left, _, List.mem_map_of_mem right,
        String.append_empty.trans name, labels⟩
    · exact ⟨_, List.mem_map_of_mem left, _, List.mem_map_of_mem right,
        name.trans String.append_empty.symm, labels⟩
  · rintro ⟨r, hr, s, hs, name, labels⟩
    obtain ⟨⟨suffix, x⟩, left, rfl⟩ := List.mem_map.mp hr
    obtain ⟨⟨suffix', y⟩, right, rfl⟩ := List.mem_map.mp hs
    change sanitizeName a.name ++ suffix = sanitizeName b.name ++ suffix' at name
    rcases (ending_of_mem left).name with empty | mem
    · obtain rfl : suffix = "" := empty
      exact .longer suffix' x y left right (String.append_empty.symm.trans name) labels
    rcases (ending_of_mem right).name with empty | mem'
    · obtain rfl : suffix' = "" := empty
      exact .shorter suffix x y left right (name.trans String.append_empty) labels
    · obtain rfl : suffix = suffix' := suffix_eq mem mem' name
      exact .family suffix x y left right ((String.append_left_inj _).mp name) labels

end Two

/-! ## The lines of a text

From measurements to the text: the lines of the families are those of the measurements that are
written, in another order, and having no two equal does not depend on the order. -/

section Texts

/-- Whether a measurement is written can be computed. -/
instance (batch : List Measurement) (m : Measurement) : Decidable (IsWritten batch m) :=
  decidable_of_iff
    (((batch.find? fun d ↦ sanitizeName d.name = sanitizeName m.name).any (·.kind = m.kind)) = true)
    (by simp [IsWritten, Option.any_eq_true])

/-- Parts of a list that are apart make up what is in some part. -/
theorem flatMap_filter_perm {α β : Type} {p : β → α → Bool} (l : List α) {ks : List β}
    (apart : ks.Pairwise fun j k ↦ ∀ a, p j a = true → ¬p k a = true) :
    (ks.flatMap fun k ↦ l.filter (p k)).Perm (l.filter fun a ↦ ks.any (p · a)) := by
  induction ks with
  | nil => simp
  | cons k ks ih =>
    obtain ⟨first, rest⟩ := List.pairwise_cons.mp apart
    have inside : (l.filter fun a ↦ (k :: ks).any (p · a)).filter (p k) = l.filter (p k) := by
      rw [List.filter_filter]
      refine List.filter_congr fun a _ ↦ ?_
      rw [List.any_cons]
      cases p k a <;> rfl
    have outside : (l.filter fun a ↦ (k :: ks).any (p · a)).filter (fun a ↦ !p k a) =
        l.filter fun a ↦ ks.any (p · a) := by
      rw [List.filter_filter]
      refine List.filter_congr fun a _ ↦ ?_
      rw [List.any_cons]
      cases here : p k a with
      | false => simp
      | true =>
        have none : ks.any (p · a) = false := by
          rw [List.any_eq_false]
          exact fun j hj ↦ first j hj a here
        rw [none]
        rfl
    rw [List.flatMap_cons]
    have split := List.filter_append_perm (p k) (l.filter fun a ↦ (k :: ks).any (p · a))
    rw [inside, outside] at split
    exact ((ih rest).append_left _).trans split

/-- **What is written** are the series of the families, in another order. -/
theorem series_perm (batch : List Measurement) :
    ((families batch).flatMap Family.series).Perm (batch.filter (IsWritten batch ·)) := by
  have grouped := grouped_families batch
  have members : (families batch).flatMap Family.members = (families batch).flatMap fun f ↦
      batch.filter fun m ↦ sanitizeName m.name = f.name ∧ m.kind = f.kind :=
    List.flatMap_congr grouped.members
  have apart : (families batch).Pairwise fun f g ↦ ∀ m : Measurement,
      decide (sanitizeName m.name = f.name ∧ m.kind = f.kind) = true →
        ¬decide (sanitizeName m.name = g.name ∧ m.kind = g.kind) = true := by
    refine (List.pairwise_map.mp grouped.ascending).imp fun {f g} before m hf hg ↦ ?_
    rw [← (of_decide_eq_true hf).1, ← (of_decide_eq_true hg).1] at before
    exact String.lt_irrefl _ before
  have parts := flatMap_filter_perm batch apart
  rw [← members] at parts
  refine (List.Perm.flatMap_left _ fun f _ ↦ (inOrder_series f).perm).trans
    (parts.trans (.of_eq ?_))
  refine List.filter_congr fun m hm ↦ Bool.eq_iff_iff.mpr ?_
  rw [List.any_eq_true, decide_eq_true_eq, ← and_iff_right (b := IsWritten batch m) hm,
    grouped.isWritten_iff]
  refine exists_congr fun f ↦ and_congr_right fun hf ↦ ?_
  rw [grouped.members f hf, List.mem_filter, and_iff_right hm]

/-- The series of a text are those of the measurements that are written. -/
theorem flatMap_samples_eq (batch : List Measurement) :
    ((families batch).flatMap fun f ↦ f.samples.map Sample.series) =
      ((families batch).flatMap Family.series).flatMap lineSeries := by
  rw [List.flatMap_assoc]
  refine List.flatMap_congr fun f hf ↦ ?_
  rw [Family.samples, List.map_flatMap]
  refine List.flatMap_congr fun m hm ↦ ?_
  have mem : m ∈ f.members := (inOrder_series f).perm.mem_iff.mp hm
  rw [(grouped_families batch).members f hf, List.mem_filter, decide_eq_true_eq] at mem
  rw [map_series_samples, ← mem.2.1]
  rfl

/-- **The lines of the families** are different series just if those of each measurement are and no
two measurements clash. -/
theorem pairwise_samples_iff (batch : List Measurement) :
    ((families batch).flatMap fun f ↦ f.samples.map Sample.series).Pairwise (fun r s ↦ ¬r.Same s) ↔
      (∀ m ∈ batch, IsWritten batch m → (bounds m.value).Nodup) ∧
        batch.Pairwise fun a b ↦ IsWritten batch a → IsWritten batch b → ¬Clash a b := by
  have own (m : Measurement) : m ∈ (families batch).flatMap Family.series ↔
      m ∈ batch ∧ IsWritten batch m := by
    rw [(series_perm batch).mem_iff, List.mem_filter, decide_eq_true_eq]
  have apart {a b : Measurement} : (∀ r ∈ lineSeries a, ∀ s ∈ lineSeries b, ¬r.Same s) ↔
      ¬Clash a b := by
    rw [clash_iff]
    push Not
    rfl
  have symm {a b : Measurement} (h : ¬Clash a b) : ¬Clash b a := by
    rw [← apart] at h ⊢
    exact fun r hr s hs same ↦ h s hs r hr same.symm
  rw [flatMap_samples_eq, List.pairwise_flatMap]
  refine and_congr ?_ ?_
  · simp only [pairwise_lines_iff, own, and_imp]
  · simp only [apart]
    rw [(series_perm batch).pairwise_iff symm, List.pairwise_filter]
    simp only [decide_eq_true_eq]

end Texts

/-! ## Plain names and keys

Where nothing is changed by sanitizing, the tags can be read off the labels again, and different
measurements differ in name or tags. -/

/-- The name and the keys are written as they are, and no key is the name of the label that tells a
bound or a quantile. -/
structure Plain (m : Measurement) : Prop where
  name : sanitizeName m.name = m.name
  keys : ∀ e ∈ m.tags.entries, sanitizeLabel e.1 = e.1 ∧ e.1 ≠ "le" ∧ e.1 ≠ "quantile"

section Plain

variable {a b : Measurement} {x y : List Label}

theorem Plain.mem_labelsOf_iff (h : Plain a) (l : Label) :
    l ∈ labelsOf a.tags ↔ (l.name, l.value) ∈ a.tags.entries := by
  constructor
  · intro hl
    obtain ⟨e, he, rfl⟩ := List.mem_map.mp hl
    exact (h.keys e he).1.symm ▸ he
  · intro he
    refine List.mem_map.mpr ⟨_, he, ?_⟩
    rw [(h.keys _ he).1]

/-- What the labels of one line have in common with those of another are the tags. -/
theorem Plain.entries_subset (ha : Plain a) (hb : Plain b)
    (extra : ∀ l ∈ y, l.name = "le" ∨ l.name = "quantile")
    (labels : ∀ l, l ∈ labelsOf a.tags ++ x → l ∈ labelsOf b.tags ++ y) :
    a.tags.entries ⊆ b.tags.entries := by
  intro e he
  have mem := labels ⟨e.1, e.2⟩ (List.mem_append_left _ ((ha.mem_labelsOf_iff _).mpr he))
  rcases List.mem_append.mp mem with mem | mem
  · exact (hb.mem_labelsOf_iff _).mp mem
  · obtain ⟨-, le, quantile⟩ := ha.keys e he
    exact ((extra _ mem).elim le quantile).elim

theorem Plain.tags_eq (ha : Plain a) (hb : Plain b) {suffix suffix' : String}
    (left : ⟨suffix, x⟩ ∈ endings a.value) (right : ⟨suffix', y⟩ ∈ endings b.value)
    (labels : ∀ l, l ∈ labelsOf a.tags ++ x ↔ l ∈ labelsOf b.tags ++ y) : a.tags = b.tags := by
  have below := ha.entries_subset hb (ending_of_mem right).labels fun l ↦ (labels l).mp
  have above := hb.entries_subset ha (ending_of_mem left).labels fun l ↦ (labels l).mpr
  refine Tags.eq_of_perm ((List.perm_ext_iff_of_nodup ?_ ?_).mpr fun e ↦ ⟨@below e, @above e⟩)
  · exact a.tags.nodup_keys.of_map _
  · exact b.tags.nodup_keys.of_map _

/-- **Different measurements with plain names and keys do not clash**, unless the name of one is
that of a bucket or a total of the other. -/
theorem Plain.not_clash (ha : Plain a) (hb : Plain b) (differ : (a.name, a.tags) ≠ (b.name, b.tags))
    (longer : ∀ suffix ∈ suffixes, a.name ≠ b.name ++ suffix)
    (shorter : ∀ suffix ∈ suffixes, a.name ++ suffix ≠ b.name) : ¬Clash a b := by
  rintro (⟨suffix, x, y, left, right, name, labels⟩ | ⟨suffix, x, y, left, right, name, labels⟩ |
    ⟨suffix, x, y, left, right, name, labels⟩)
  all_goals
    have tags := ha.tags_eq hb left right labels
    rw [ha.name, hb.name] at name
  · exact differ (Prod.ext name tags)
  · rcases (ending_of_mem right).name with empty | mem
    · obtain rfl : suffix = "" := empty
      exact differ (Prod.ext (name.trans String.append_empty) tags)
    · exact longer suffix mem name
  · rcases (ending_of_mem left).name with empty | mem
    · obtain rfl : suffix = "" := empty
      exact differ (Prod.ext (String.append_empty.symm.trans name) tags)
    · exact shorter suffix mem name

/-- **The series of a plain batch differ**: different measurements, of which none has a bound twice
and none has the name of a bucket or a total of another, have different lines. -/
theorem pairwise_samples_of_plain {batch : List Measurement} (plain : ∀ m ∈ batch, Plain m)
    (once : ∀ m ∈ batch, (bounds m.value).Nodup)
    (suffix : ∀ a ∈ batch, ∀ b ∈ batch, ∀ suffix ∈ suffixes, a.name ≠ b.name ++ suffix)
    (differ : batch.Pairwise fun a b ↦ (a.name, a.tags) ≠ (b.name, b.tags)) :
    ((families batch).flatMap fun f ↦ f.samples.map Sample.series).Pairwise fun r s ↦
      ¬r.Same s := by
  refine (pairwise_samples_iff batch).mpr ⟨fun m hm _ ↦ once m hm, ?_⟩
  refine differ.imp_of_mem fun {a b} ha hb differ _ _ ↦ ?_
  exact (plain a ha).not_clash (plain b hb) differ (suffix a ha b hb) fun s hs ↦
    (suffix b hb a ha s hs).symm

end Plain

/-- **Where different measurements are different series.** No two lines of the text of a batch have
one name and one set of labels just if, among the measurements that are written, none has a bound or
a quantile twice and no two clash. -/
theorem series_differ_iff (batch : List Measurement) :
    ∃ fs, read? (render batch) = some fs ∧
      ((fs.flatMap fun f ↦ f.samples.map Sample.series).Pairwise (fun r s ↦ ¬r.Same s) ↔
        (∀ m ∈ batch, IsWritten batch m → (bounds m.value).Nodup) ∧
          batch.Pairwise fun a b ↦ IsWritten batch a → IsWritten batch b → ¬Clash a b) := by
  refine ⟨_, read?_render_eq batch, ?_⟩
  rw [← pairwise_samples_iff, List.flatMap_map]
  rfl

/-- Two gauges whose names are one metric name. -/
def twoNames : List Measurement := [.gauge "a.b" 1, .gauge "a_b" 2]

/-- It is not so that different measurements have different lines: here both are `a_b`, without
labels. -/
theorem not_series_differ : ¬∀ (batch : List Measurement) (fs : List ReadFamily),
    batch.Pairwise (fun a b ↦ (a.name, a.tags) ≠ (b.name, b.tags)) →
      read? (render batch) = some fs →
        (fs.flatMap fun f ↦ f.samples.map Sample.series).Pairwise fun r s ↦ ¬r.Same s := by
  intro differ
  have told := differ twoNames _ (List.pairwise_pair.mpr (by decide)) (read?_render_eq twoNames)
  rw [List.flatMap_map] at told
  have apart := List.pairwise_pair.mp ((pairwise_samples_iff twoNames).mp told).2
  refine apart ?_ ?_ ?_
  · decide +kernel
  · decide +kernel
  · exact .family "" [] [] (List.mem_singleton_self _) (List.mem_singleton_self _)
      (by decide +kernel)
      fun _ ↦ .rfl

end MetricsAgent.Exposition
