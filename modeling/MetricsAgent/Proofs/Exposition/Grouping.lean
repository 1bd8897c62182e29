import Mathlib.Data.List.Induction
import MetricsAgent.Exposition.Render

/-!
# Families and their series

`Exposition.families` groups a batch in one pass, putting one measurement after the other into a
list of families.  `Exposition.Grouped` says what it makes of it, without any pass: families in
ascending order of their names, each with the kind of the first measurement of its name and with all
measurements of that name and kind, in the order of the batch.

The series of a family are in ascending order of their label blocks, and in the order of the batch
where the blocks are equal (`Exposition.InOrder`).  Here it matters that the sort is stable, which
is said block by block: what the sorted list has under one block is what the members have under it
(`filter_mergeSort`).

Everything that is proved about a whole text starts from these two structures, and does not look at
the pass or the sort again.
-/

set_option autoImplicit false

namespace MetricsAgent.Exposition

/-! ## Families

The induction is on the batch, from its end: one measurement more leaves the families grouped
(`Grouped.add`).  It is added to a family of its name, dropped where the kind is another one, or
makes a new family in the place where the names stay ascending. -/

/-- The families of a batch. -/
structure Grouped (batch : List Measurement) (fs : List Family) : Prop where
  ascending : (fs.map (·.name)).Pairwise (· < ·)
  names : ∀ name, name ∈ fs.map (·.name) ↔ ∃ m ∈ batch, sanitizeName m.name = name
  kinds : ∀ f ∈ fs, ∃ first,
    batch.find? (fun m ↦ sanitizeName m.name = f.name) = some first ∧ first.kind = f.kind
  members : ∀ f ∈ fs,
    f.members = batch.filter fun m ↦ sanitizeName m.name = f.name ∧ m.kind = f.kind

section Add

variable {name : String} {m : Measurement} {fs : List Family}

/-- A family keeps its name. -/
theorem name_join (f : Family) (m : Measurement) :
    (if f.kind = m.kind then { f with members := f.members ++ [m] } else f).name = f.name := by
  split <;> rfl

theorem mem_names_addTo (n : String) :
    n ∈ (addTo name m fs).map (·.name) ↔ n = name ∨ n ∈ fs.map (·.name) := by
  induction fs with
  | nil => simp [addTo]
  | cons f fs ih =>
    rw [addTo]
    split
    · simp
    split
    · rename_i same
      rw [List.map_cons, name_join, List.map_cons, List.mem_cons, same]
      exact ⟨.inr, fun h ↦ h.elim .inl id⟩
    · rw [List.map_cons, List.mem_cons, ih, List.map_cons, List.mem_cons]
      exact ⟨fun h ↦ by rcases h with h | h | h <;> simp [h],
        fun h ↦ by rcases h with h | h | h <;> simp [h]⟩

theorem ascending_addTo (h : (fs.map (·.name)).Pairwise (· < ·)) :
    ((addTo name m fs).map (·.name)).Pairwise (· < ·) := by
  induction fs with
  | nil => exact List.pairwise_singleton _ _
  | cons f fs ih =>
    rw [List.map_cons, List.pairwise_cons] at h
    obtain ⟨first, others⟩ := h
    rw [addTo]
    split
    · rename_i before
      rw [List.map_cons, List.map_cons, List.pairwise_cons, List.pairwise_cons]
      refine ⟨fun n hn ↦ ?_, first, others⟩
      rcases List.mem_cons.mp hn with rfl | hn
      · exact before
      · exact String.lt_trans before (first n hn)
    split
    · rw [List.map_cons, name_join, List.pairwise_cons]
      exact ⟨first, others⟩
    · rename_i before same
      rw [List.map_cons, List.pairwise_cons]
      refine ⟨fun n hn ↦ ?_, ih others⟩
      rcases (mem_names_addTo n).mp hn with rfl | hn
      · exact Tags.lt_of_not_lt_of_ne before same
      · exact first n hn

/-- A measurement is added to the family of its name, or makes a new one. -/
theorem mem_addTo (h : (fs.map (·.name)).Pairwise (· < ·)) {f : Family} (hf : f ∈ addTo name m fs) :
    f ∈ fs ∧ f.name ≠ name ∨
      (∃ g ∈ fs, g.name = name ∧
        f = if g.kind = m.kind then { g with members := g.members ++ [m] } else g) ∨
      f = ⟨name, m.kind, [m]⟩ ∧ name ∉ fs.map (·.name) := by
  induction fs with
  | nil => exact .inr (.inr ⟨List.mem_singleton.mp hf, List.not_mem_nil⟩)
  | cons g gs ih =>
    rw [List.map_cons, List.pairwise_cons] at h
    obtain ⟨first, others⟩ := h
    rw [addTo] at hf
    split at hf
    · rename_i before
      -- The name is before all others.
      have fresh : name ∉ (g :: gs).map (·.name) := by
        rw [List.map_cons, List.mem_cons, not_or]
        refine ⟨fun same ↦ ?_, fun mem ↦ ?_⟩
        · rw [same] at before
          exact String.lt_irrefl _ before
        · exact String.lt_irrefl _ (String.lt_trans before (first name mem))
      rcases List.mem_cons.mp hf with rfl | hf
      · exact .inr (.inr ⟨rfl, fresh⟩)
      · exact .inl ⟨hf, fun same ↦ fresh (same ▸ List.mem_map_of_mem hf)⟩
    split at hf
    · rename_i same
      rcases List.mem_cons.mp hf with rfl | hf
      · exact .inr (.inl ⟨g, List.mem_cons_self .., same.symm, rfl⟩)
      · refine .inl ⟨List.mem_cons_of_mem _ hf, fun again ↦ ?_⟩
        have later := first f.name (List.mem_map_of_mem hf)
        rw [again, same] at later
        exact String.lt_irrefl _ later
    · rename_i before differs
      rcases List.mem_cons.mp hf with rfl | hf
      · exact .inl ⟨List.mem_cons_self .., Ne.symm differs⟩
      · rcases ih others hf with ⟨mem, other⟩ | ⟨g', mem, same, rfl⟩ | ⟨rfl, fresh⟩
        · exact .inl ⟨List.mem_cons_of_mem _ mem, other⟩
        · exact .inr (.inl ⟨g', List.mem_cons_of_mem _ mem, same, rfl⟩)
        · refine .inr (.inr ⟨rfl, ?_⟩)
          rw [List.map_cons, List.mem_cons, not_or]
          exact ⟨differs, fresh⟩

end Add

/-- **One more measurement** leaves the families grouped. -/
theorem Grouped.add {batch : List Measurement} {fs : List Family} (h : Grouped batch fs)
    (m : Measurement) : Grouped (batch ++ [m]) (addTo (sanitizeName m.name) m fs) where
  ascending := ascending_addTo h.ascending
  names name := by
    rw [mem_names_addTo, h.names]
    constructor
    · rintro (rfl | ⟨d, hd, same⟩)
      · exact ⟨m, List.mem_append_right _ (List.mem_singleton_self m), rfl⟩
      · exact ⟨d, List.mem_append_left _ hd, same⟩
    · rintro ⟨d, hd, same⟩
      rcases List.mem_append.mp hd with hd | hd
      · exact .inr ⟨d, hd, same⟩
      · rw [List.mem_singleton.mp hd] at same
        exact .inl same.symm
  kinds f hf := by
    rcases mem_addTo h.ascending hf with ⟨mem, -⟩ | ⟨g, mem, same, rfl⟩ | ⟨rfl, fresh⟩
    · obtain ⟨first, found, kind⟩ := h.kinds f mem
      exact ⟨first, by rw [List.find?_append, found, Option.some_or], kind⟩
    · obtain ⟨first, found, kind⟩ := h.kinds g mem
      refine ⟨first, ?_, ?_⟩
      · rw [name_join, List.find?_append, found, Option.some_or]
      · rw [kind]
        split <;> rfl
    · -- A new family is begun by the first measurement of its name.
      have none_found : batch.find? (fun d ↦ sanitizeName d.name = sanitizeName m.name) = none := by
        refine List.find?_eq_none.mpr fun d hd same ↦ fresh ((h.names _).mpr ⟨d, hd, ?_⟩)
        exact of_decide_eq_true same
      refine ⟨m, ?_, rfl⟩
      rw [List.find?_append, none_found, Option.none_or, List.find?_cons_of_pos (by simp)]
  members f hf := by
    rw [List.filter_append]
    rcases mem_addTo h.ascending hf with ⟨mem, other⟩ | ⟨g, mem, same, rfl⟩ | ⟨rfl, fresh⟩
    · rw [List.filter_cons_of_neg (by simp [Ne.symm other]), List.filter_nil, List.append_nil]
      exact h.members f mem
    · split
      · rename_i kind
        rw [List.filter_cons_of_pos (by simp [same, kind]), List.filter_nil, h.members g mem]
      · rename_i kind
        rw [List.filter_cons_of_neg (by simp [Ne.symm kind]), List.filter_nil, List.append_nil,
          h.members g mem]
    · -- Nothing of a new family's name was in the batch before.
      have none_kept :
          batch.filter (fun d ↦ sanitizeName d.name = sanitizeName m.name ∧ d.kind = m.kind) =
            [] := by
        refine List.filter_eq_nil_iff.mpr fun d hd same ↦ fresh ((h.names _).mpr ⟨d, hd, ?_⟩)
        exact (of_decide_eq_true same).1
      rw [none_kept, List.filter_cons_of_pos (by simp), List.filter_nil]
      rfl

/-- **The families of a batch.** -/
theorem grouped_families (batch : List Measurement) : Grouped batch (families batch) := by
  induction batch using List.reverseRecOn with
  | nil => exact ⟨.nil, by simp [families], fun _ h ↦ (nomatch h), fun _ h ↦ (nomatch h)⟩
  | append_singleton batch m ih =>
    rw [families, List.foldl_append]
    exact ih.add m

/-! ## Series

The comparison is one of texts by their code points, and the label block is computed once for each
member, which changes nothing about the order. -/

/-- The measurements `series` are `members` in ascending order of their label blocks; those of one
block keep their order. -/
structure InOrder (members series : List Measurement) : Prop where
  perm : series.Perm members
  sorted : series.Pairwise fun a b ↦ seriesKey a ≤ seriesKey b
  stable : ∀ key, series.filter (seriesKey · = key) = members.filter (seriesKey · = key)

section Sorting

variable {α : Type}

theorem text_le_trans (a b c : String × α) (hab : decide (a.1 ≤ b.1) = true)
    (hbc : decide (b.1 ≤ c.1) = true) : decide (a.1 ≤ c.1) = true :=
  decide_eq_true (String.le_trans (of_decide_eq_true hab) (of_decide_eq_true hbc))

theorem text_le_total (a b : String × α) : (decide (a.1 ≤ b.1) || decide (b.1 ≤ a.1)) = true := by
  rw [Bool.or_eq_true, decide_eq_true_eq, decide_eq_true_eq]
  exact String.le_total ..

/-- Sorting by a text keeps the things that have the same text in their order. -/
theorem filter_mergeSort (l : List (String × α)) (key : String) :
    (l.mergeSort fun a b ↦ a.1 ≤ b.1).filter (·.1 = key) = l.filter (·.1 = key) := by
  have same : (l.filter (·.1 = key)).Pairwise fun a b ↦ decide (a.1 ≤ b.1) = true := by
    refine List.pairwise_of_forall_mem_list fun a ha b hb ↦ ?_
    have ka : a.1 = key := by simpa using (List.mem_filter.mp ha).2
    have kb : b.1 = key := by simpa using (List.mem_filter.mp hb).2
    rw [ka, kb]
    exact decide_eq_true (String.le_refl key)
  have sub :=
    (List.sublist_mergeSort text_le_trans text_le_total same List.filter_sublist).filter (·.1 = key)
  rw [List.filter_filter] at sub
  simp only [Bool.and_self] at sub
  exact (sub.eq_of_length ((List.mergeSort_perm l _).filter _).length_eq.symm).symm

end Sorting

/-- **The series of a family are in order.** -/
theorem inOrder_series (f : Family) : InOrder f.members f.series := by
  have perm := List.mergeSort_perm (f.members.map fun m ↦ (seriesKey m, m)) fun a b ↦ a.1 ≤ b.1
  have keyed : ∀ p ∈ (f.members.map fun m ↦ (seriesKey m, m)).mergeSort fun a b ↦ a.1 ≤ b.1,
      p.1 = seriesKey p.2 := by
    intro p hp
    obtain ⟨m, -, rfl⟩ := List.mem_map.mp (perm.mem_iff.mp hp)
    rfl
  constructor
  · have parts := perm.map Prod.snd
    rw [List.map_map] at parts
    exact parts.trans (by simp [Function.comp_def])
  · rw [Family.series, List.pairwise_map]
    refine (List.pairwise_mergeSort text_le_trans text_le_total _).imp_of_mem
      fun {a b} ha hb le ↦ ?_
    rw [← keyed a ha, ← keyed b hb]
    exact of_decide_eq_true le
  · intro key
    have filtered : f.series.filter (seriesKey · = key) =
        (((f.members.map fun m ↦ (seriesKey m, m)).mergeSort fun a b ↦ a.1 ≤ b.1).filter
          (·.1 = key)).map Prod.snd := by
      rw [Family.series, List.filter_map]
      exact congrArg _ (List.filter_congr fun p hp ↦ by rw [keyed p hp]; rfl)
    rw [filtered, filter_mergeSort, List.filter_map, List.map_map]
    exact List.map_id _

end MetricsAgent.Exposition
